import Formulary.Color
import Formulary.Proofs.Text.Digits
import Formulary.Proofs.Text.Whitespace

/-!
# Written colours — which texts are read as a colour

A colour is written in six or eight hexadecimal digits, behind any number of `#` signs and with blanks
around it. Each pair of digits is read as a number by itself, and a number may have a plus sign in
front of it. So a plus sign and one digit pass for a pair as well, and some texts are read that are no
written colours. They are told from the written ones by this sign alone.

* `Color.IsPair`, `Color.IsChannel` — two digits, and what is taken for two digits.
* `Color.Written` — texts that consist of such pairs, with all that may stand around them.
* `Color.parse_eq_ok_iff` — what is read.
* `Color.parse_spec` — what is read and what is refused, and the plus sign.
-/

namespace Formulary.Color

open Text

/-! ## Pairs of digits -/

/-- Two characters that stand for a byte: its hexadecimal digits. -/
def IsPair (a b : Char) (v : UInt8) : Prop :=
  ∃ x y, IsHexDigit a x ∧ IsHexDigit b y ∧ v.toNat = 16 * x + y

/-- Two characters that are taken for a byte: its digits, or one digit behind a plus sign. -/
def IsChannel (a b : Char) (v : UInt8) : Prop :=
  IsPair a b v ∨ (a = '+' ∧ IsHexDigit b v.toNat)

/-- Characters that stand for bytes, two for each. -/
inductive Pairs (Pair : Char → Char → UInt8 → Prop) : List Char → List UInt8 → Prop
  | nil : Pairs Pair [] []
  | cons {a b : Char} {v : UInt8} {rest : List Char} {vs : List UInt8} (hpair : Pair a b v)
      (hrest : Pairs Pair rest vs) : Pairs Pair (a :: b :: rest) (v :: vs)

/-- Characters that stand for a colour: three bytes when it is opaque, or four with the last for
    alpha. -/
def Denotes (Pair : Char → Char → UInt8 → Prop) (digits : List Char) (c : Color) : Prop :=
  (c.alpha = 255 ∧ Pairs Pair digits [c.red, c.green, c.blue]) ∨
    Pairs Pair digits [c.red, c.green, c.blue, c.alpha]

/-- A text that stands for a colour: its digits, `#` signs in front of them and blanks around both. -/
def Written (Pair : Char → Char → UInt8 → Prop) (s : String) (c : Color) : Prop :=
  ∃ before signs digits after, s.toList = before ++ (signs ++ digits) ++ after ∧
    (∀ x ∈ before, isBlank x = true) ∧ (∀ x ∈ after, isBlank x = true) ∧ (∀ x ∈ signs, x = '#') ∧
    Denotes Pair digits c

theorem channel?_eq_some_iff {a b : Char} {v : UInt8} :
    channel? a b = some v ↔ IsChannel a b v := by
  rw [channel?, Option.map_eq_some_iff]
  constructor
  · rintro ⟨n, hn, rfl⟩
    rcases unsigned?_pair_iff.mp hn with ⟨x, y, hx, hy, rfl⟩ | ⟨rfl, hb⟩
    · have hlt : 16 * x + y < 256 := by
        have := hx.lt
        have := hy.lt
        omega
      exact Or.inl ⟨x, y, hx, hy, UInt8.toNat_ofNat_of_lt' hlt⟩
    · have hlt : n < 256 := by
        have := hb.lt
        omega
      exact Or.inr ⟨rfl, (UInt8.toNat_ofNat_of_lt' hlt).symm ▸ hb⟩
  · intro h
    refine ⟨v.toNat, unsigned?_pair_iff.mpr ?_, UInt8.ofNat_toNat⟩
    rcases h with ⟨x, y, hx, hy, hv⟩ | h
    · exact Or.inl ⟨x, y, hx, hy, hv⟩
    · exact Or.inr h

/-- The characters that are read as a colour are three or four pairs. -/
theorem ofHex?_eq_some_iff {cs : List Char} {c : Color} :
    ofHex? cs = some c ↔ Denotes IsChannel cs c := by
  constructor
  · intro h
    rw [ofHex?.eq_def] at h
    split at h
    · simp only [Option.bind_eq_bind, Option.bind_eq_some_iff, Option.pure_def, Option.some.injEq,
        channel?_eq_some_iff] at h
      obtain ⟨r, hr, g, hg, b, hb, rfl⟩ := h
      exact Or.inl ⟨rfl, .cons hr (.cons hg (.cons hb .nil))⟩
    · simp only [Option.bind_eq_bind, Option.bind_eq_some_iff, Option.pure_def, Option.some.injEq,
        channel?_eq_some_iff] at h
      obtain ⟨r, hr, g, hg, b, hb, a, ha, rfl⟩ := h
      exact Or.inr (.cons hr (.cons hg (.cons hb (.cons ha .nil))))
    · cases h
  · obtain ⟨r, g, b, a⟩ := c
    rintro (⟨rfl, h⟩ | h)
    · obtain _ | ⟨hr, _ | ⟨hg, _ | ⟨hb, _ | _⟩⟩⟩ := h
      simp only [ofHex?, channel?_eq_some_iff.mpr hr, channel?_eq_some_iff.mpr hg,
        channel?_eq_some_iff.mpr hb]
      rfl
    · obtain _ | ⟨hr, _ | ⟨hg, _ | ⟨hb, _ | ⟨ha, _ | _⟩⟩⟩⟩ := h
      simp only [ofHex?, channel?_eq_some_iff.mpr hr, channel?_eq_some_iff.mpr hg,
        channel?_eq_some_iff.mpr hb, channel?_eq_some_iff.mpr ha]
      rfl

/-! ## What stands around the digits -/

/-- A digit is no blank and none of the signs. -/
theorem apart_of_isHexDigit {x : Char} {d : Nat} (h : IsHexDigit x d) :
    isBlank x = false ∧ x ≠ '#' ∧ x ≠ '+' := by
  have hd := h.lt
  rcases h with h | h <;> interval_cases d <;> cases h <;> decide

theorem Pairs.mono {P Q : Char → Char → UInt8 → Prop} {cs : List Char} {vs : List UInt8}
    (h : Pairs P cs vs) (himp : ∀ a b v, a ∈ cs → P a b v → Q a b v) : Pairs Q cs vs := by
  induction h with
  | nil => exact .nil
  | cons hpair hrest ih =>
      exact .cons (himp _ _ _ List.mem_cons_self hpair)
        (ih fun a b v ha => himp a b v (List.mem_cons_of_mem _ (List.mem_cons_of_mem _ ha)))

/-- Whatever holds of both characters of every pair holds of all characters. -/
theorem Pairs.forall_mem {P : Char → Char → UInt8 → Prop} {Q : Char → Prop}
    (hpair : ∀ a b v, P a b v → Q a ∧ Q b) {cs : List Char} {vs : List UInt8} (h : Pairs P cs vs) :
    ∀ x ∈ cs, Q x := by
  induction h with
  | nil => exact fun x hx => absurd hx List.not_mem_nil
  | cons hab hrest ih =>
      rw [List.forall_mem_cons, List.forall_mem_cons]
      exact ⟨(hpair _ _ _ hab).1, (hpair _ _ _ hab).2, ih⟩

theorem Denotes.forall_mem {P : Char → Char → UInt8 → Prop} {Q : Char → Prop}
    (hpair : ∀ a b v, P a b v → Q a ∧ Q b) {digits : List Char} {c : Color}
    (h : Denotes P digits c) : ∀ x ∈ digits, Q x :=
  h.elim (fun h => h.2.forall_mem hpair) fun h => h.forall_mem hpair

theorem Denotes.mono {P Q : Char → Char → UInt8 → Prop} {digits : List Char} {c : Color}
    (h : Denotes P digits c) (himp : ∀ a b v, a ∈ digits → P a b v → Q a b v) :
    Denotes Q digits c :=
  h.imp (fun h => ⟨h.1, h.2.mono himp⟩) fun h => h.mono himp

theorem Denotes.ne_nil {P : Char → Char → UInt8 → Prop} {digits : List Char} {c : Color}
    (h : Denotes P digits c) : digits ≠ [] := by
  rintro rfl
  rcases h with ⟨-, h⟩ | h <;> cases h

/-- What is taken for a pair holds no blank and no `#`. -/
theorem IsChannel.apart {a b : Char} {v : UInt8} (h : IsChannel a b v) :
    (isBlank a = false ∧ a ≠ '#') ∧ isBlank b = false ∧ b ≠ '#' := by
  rcases h with ⟨x, y, hx, hy, -⟩ | ⟨rfl, hb⟩
  · exact ⟨⟨(apart_of_isHexDigit hx).1, (apart_of_isHexDigit hx).2.1⟩,
      (apart_of_isHexDigit hy).1, (apart_of_isHexDigit hy).2.1⟩
  · exact ⟨by decide, (apart_of_isHexDigit hb).1, (apart_of_isHexDigit hb).2.1⟩

/-- Digits are found between blanks and behind `#` signs, since they are neither. -/
theorem digits_of_written {before signs digits after : List Char} {c : Color}
    (hbefore : ∀ x ∈ before, isBlank x = true) (hafter : ∀ x ∈ after, isBlank x = true)
    (hsigns : ∀ x ∈ signs, x = '#') (h : Denotes IsChannel digits c) :
    (trimChars (before ++ (signs ++ digits) ++ after)).dropWhile (· == '#') = digits := by
  have hmem := h.forall_mem (Q := fun x => isBlank x = false ∧ x ≠ '#') fun _ _ _ hab => hab.apart
  have htrimmed : Trimmed (signs ++ digits) := by
    constructor
    · intro x hx
      rcases List.mem_append.mp (List.mem_of_mem_head? hx) with hx | hx
      · rw [hsigns x hx]
        rfl
      · exact (hmem x hx).1
    · intro x hx
      rw [List.getLast?_append_of_ne_nil _ h.ne_nil] at hx
      exact (hmem x (List.mem_of_mem_getLast? hx)).1
  rw [trimChars_append hbefore hafter htrimmed,
    List.dropWhile_append_of_pos fun x hx => beq_iff_eq.mpr (hsigns x hx)]
  cases digits with
  | nil => rfl
  | cons x rest =>
      exact List.dropWhile_cons_of_neg (by simpa using (hmem x List.mem_cons_self).2)

/-! ## Colours -/

theorem ofHex?_trimChars_eq_some_iff {s : String} {c : Color} :
    ofHex? ((trimChars s.toList).dropWhile (· == '#')) = some c ↔ Written IsChannel s c := by
  constructor
  · intro h
    obtain ⟨before, after, hs, hbefore, hafter, -⟩ := exists_trimmed s.toList
    refine ⟨before, (trimChars s.toList).takeWhile (· == '#'), _, after, ?_, hbefore, hafter, ?_,
      ofHex?_eq_some_iff.mp h⟩
    · rw [List.takeWhile_append_dropWhile]
      exact hs
    · intro x hx
      have hsign := List.mem_takeWhile_imp hx
      exact beq_iff_eq.mp hsign
  · rintro ⟨before, signs, digits, after, hs, hbefore, hafter, hsigns, h⟩
    rw [hs, digits_of_written hbefore hafter hsigns h]
    exact ofHex?_eq_some_iff.mpr h

/-- What is read are the texts that consist of three or four pairs, or what is taken for pairs. -/
theorem parse_eq_ok_iff {s : String} {c : Color} : parse s = .ok c ↔ Written IsChannel s c := by
  rw [← ofHex?_trimChars_eq_some_iff, parse]
  cases ofHex? ((trimChars s.toList).dropWhile (· == '#')) with
  | none => simp
  | some other => simp

/-- Any other text is refused, and the error holds it. -/
theorem parse_eq_error_iff {s : String} {e : ParseError} :
    parse s = .error e ↔ e = ⟨s⟩ ∧ ∀ c, ¬ Written IsChannel s c := by
  simp only [← ofHex?_trimChars_eq_some_iff, parse]
  cases ofHex? ((trimChars s.toList).dropWhile (· == '#')) with
  | none => simp [eq_comm]
  | some other => simp

/-- A text of digits alone is one without a plus sign. -/
theorem written_isPair_iff {s : String} {c : Color} :
    Written IsPair s c ↔ Written IsChannel s c ∧ '+' ∉ s.toList := by
  constructor
  · rintro ⟨before, signs, digits, after, hs, hbefore, hafter, hsigns, h⟩
    have hdigits := h.forall_mem (Q := fun x => x ≠ '+') fun a b v hab => by
      obtain ⟨x, y, hx, hy, -⟩ := hab
      exact ⟨(apart_of_isHexDigit hx).2.2, (apart_of_isHexDigit hy).2.2⟩
    refine ⟨⟨before, signs, digits, after, hs, hbefore, hafter, hsigns,
      h.mono fun _ _ _ _ => Or.inl⟩, ?_⟩
    rw [hs]
    simp only [List.mem_append, not_or]
    refine ⟨⟨fun hmem => ?_, fun hmem => ?_, fun hmem => hdigits _ hmem rfl⟩, fun hmem => ?_⟩
    · exact absurd (hbefore _ hmem) (by decide)
    · exact absurd (hsigns _ hmem) (by decide)
    · exact absurd (hafter _ hmem) (by decide)
  · rintro ⟨⟨before, signs, digits, after, hs, hbefore, hafter, hsigns, h⟩, hplus⟩
    refine ⟨before, signs, digits, after, hs, hbefore, hafter, hsigns, h.mono ?_⟩
    intro a b v ha hab
    refine hab.resolve_right fun hsign => hplus ?_
    rw [hs, ← hsign.1]
    simp [ha]

/-- **Which texts are colours.** A text is read as a colour exactly when, with blanks around it and
    `#` signs in front, it consists of three or four pairs that are each two hexadecimal digits or a
    plus sign and one digit. Those among them that consist of digits alone are the ones without a plus
    sign. Any other text is refused with an error that holds it. -/
theorem parse_spec (s : String) :
    (∀ c, parse s = .ok c ↔ Written IsChannel s c) ∧
    (∀ c, Written IsPair s c ↔ parse s = .ok c ∧ '+' ∉ s.toList) ∧
    ∀ e, parse s = .error e ↔ e = ⟨s⟩ ∧ ∀ c, ¬ Written IsChannel s c :=
  ⟨fun _ => parse_eq_ok_iff, fun _ => by rw [parse_eq_ok_iff, written_isPair_iff],
    fun _ => parse_eq_error_iff⟩

/-- Three signs and three digits are read as a dark grey, and they are not six digits. -/
theorem parse_spec_signed :
    parse "+f+f+f" = .ok ⟨15, 15, 15, 255⟩ ∧ ∀ c, ¬ Written IsPair "+f+f+f" c := by
  refine ⟨by decide +kernel, fun c h => ?_⟩
  exact (((parse_spec "+f+f+f").2.1 c).mp h).2 (by decide)

end Formulary.Color
