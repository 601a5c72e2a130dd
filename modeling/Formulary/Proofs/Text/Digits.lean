import Formulary.Text.Digits
import Mathlib

/-!
# Numbers in digits — which characters are read as a number

A number is one or more digits with at most one plus sign in front of them. The sign belongs to the
number, not to its digits, so whoever reads digits in groups of a fixed width reads signs as well.

* `unsigned?_eq_some_iff` — the characters that are read as a number, in any base.
* `foldDigits_decimal_iff` — the value of decimal digits.
* `IsHexDigit`, `hexValue?_eq_some_iff` — the hexadecimal digits of both cases.
* `unsigned?_pair_iff` — two characters that are read as a hexadecimal number.
-/

namespace Formulary.Text

/-- The sign that may stand in front of a number, or nothing. -/
def IsSign (cs : List Char) : Prop := cs = [] ∨ cs = ['+']

/-- What is read is the value of one or more digits, behind a sign if there is one. -/
theorem unsigned?_eq_some_iff {base : Nat} {digit? : Char → Option Nat} (hplus : digit? '+' = none)
    {cs : List Char} {n : Nat} :
    unsigned? base digit? cs = some n ↔
      ∃ sign digits, cs = sign ++ digits ∧ IsSign sign ∧ digits ≠ [] ∧
        foldDigits base digit? 0 digits = some n := by
  -- digits that start with the sign have no value
  have hnone : ∀ rest, foldDigits base digit? 0 ('+' :: rest) = none := by
    intro rest
    rw [foldDigits, hplus]
  constructor
  · intro h
    rw [unsigned?.eq_def] at h
    split at h
    · next c rest => exact ⟨['+'], c :: rest, rfl, Or.inr rfl, List.cons_ne_nil _ _, h⟩
    · cases h
    · next _ hne => exact ⟨[], cs, rfl, Or.inl rfl, hne, h⟩
  · rintro ⟨sign, digits, rfl, rfl | rfl, hne, h⟩
    · rw [List.nil_append, unsigned?.eq_def]
      split
      · rw [hnone] at h
        cases h
      · exact absurd rfl hne
      · exact h
    · cases digits with
      | nil => exact absurd rfl hne
      | cons d rest => exact h

/-- The value of digits that are read on from `read`, digit by digit. -/
theorem foldDigits_cons_eq_some_iff {base : Nat} {digit? : Char → Option Nat} {read n : Nat}
    {c : Char} {rest : List Char} :
    foldDigits base digit? read (c :: rest) = some n ↔
      ∃ d, digit? c = some d ∧ foldDigits base digit? (read * base + d) rest = some n := by
  rw [foldDigits]
  cases digit? c with
  | none => simp
  | some d => simp

/-! ## Decimal digits -/

theorem decimalValue?_eq_some_iff {c : Char} {d : Nat} :
    decimalValue? c = some d ↔ c.isDigit = true ∧ c.toNat - '0'.toNat = d := by
  have hdigit : c.isDigit = true ↔ '0' ≤ c ∧ c ≤ '9' := by
    simp only [Char.isDigit, Bool.and_eq_true, decide_eq_true_eq]
    rfl
  rw [decimalValue?, Option.ite_none_right_eq_some, Option.some.injEq, hdigit]

/-- Characters have a decimal value when all of them are digits. -/
theorem foldDigits_decimal_iff {cs : List Char} {read n : Nat} :
    foldDigits 10 decimalValue? read cs = some n ↔
      (∀ c ∈ cs, c.isDigit = true) ∧ Nat.ofDigitChars 10 cs read = n := by
  induction cs generalizing read with
  | nil => simp [foldDigits]
  | cons c rest ih =>
      rw [foldDigits_cons_eq_some_iff, Nat.ofDigitChars_cons, List.forall_mem_cons,
        Nat.mul_comm 10 read]
      constructor
      · rintro ⟨d, hd, h⟩
        obtain ⟨hdigit, rfl⟩ := decimalValue?_eq_some_iff.mp hd
        exact ⟨⟨hdigit, (ih.mp h).1⟩, (ih.mp h).2⟩
      · rintro ⟨⟨hdigit, hrest⟩, h⟩
        exact ⟨_, decimalValue?_eq_some_iff.mpr ⟨hdigit, rfl⟩, ih.mpr ⟨hrest, h⟩⟩

/-! ## Hexadecimal digits -/

/-- A character is the hexadecimal digit of a number below sixteen, in either case. -/
def IsHexDigit (c : Char) (d : Nat) : Prop :=
  "0123456789abcdef".toList[d]? = some c ∨ "0123456789ABCDEF".toList[d]? = some c

instance (c : Char) (d : Nat) : Decidable (IsHexDigit c d) :=
  inferInstanceAs (Decidable (_ ∨ _))

theorem IsHexDigit.lt {c : Char} {d : Nat} (h : IsHexDigit c d) : d < 16 := by
  rcases h with h | h <;> exact (List.getElem?_eq_some_iff.mp h).1

/-- A character between two others, by its number. -/
theorem exists_ofNat {a b c : Char} (h : a ≤ c ∧ c ≤ b) :
    ∃ n, a.toNat ≤ n ∧ n ≤ b.toNat ∧ c = Char.ofNat n :=
  ⟨c.toNat, h.1, h.2, (Char.ofNat_toNat c).symm⟩

theorem isHexDigit_of_hexValue? {c : Char} {d : Nat} (h : hexValue? c = some d) :
    IsHexDigit c d := by
  rw [hexValue?] at h
  split_ifs at h with hc hc hc
  -- digits, small letters and capital letters
  all_goals
    obtain ⟨n, hlow, hhigh, rfl⟩ := exists_ofNat hc
    rw [← Option.some.inj h]
    simp only [Char.reduceToNat] at hlow hhigh
    interval_cases n <;> decide

theorem hexValue?_eq_some_iff {c : Char} {d : Nat} : hexValue? c = some d ↔ IsHexDigit c d := by
  refine ⟨isHexDigit_of_hexValue?, ?_⟩
  intro h
  have hd := h.lt
  rcases h with h | h <;> interval_cases d <;> cases h <;> rfl

/-- Two characters are read as the number of two digits, or as that of one digit behind a sign. -/
theorem unsigned?_pair_iff {a b : Char} {n : Nat} :
    unsigned? 16 hexValue? [a, b] = some n ↔
      (∃ x y, IsHexDigit a x ∧ IsHexDigit b y ∧ n = 16 * x + y) ∨ (a = '+' ∧ IsHexDigit b n) := by
  rw [unsigned?_eq_some_iff rfl]
  constructor
  · rintro ⟨sign, digits, heq, rfl | rfl, -, h⟩
    · rw [List.nil_append] at heq
      subst heq
      obtain ⟨x, hx, h⟩ := foldDigits_cons_eq_some_iff.mp h
      obtain ⟨y, hy, h⟩ := foldDigits_cons_eq_some_iff.mp h
      cases h
      exact Or.inl ⟨x, y, hexValue?_eq_some_iff.mp hx, hexValue?_eq_some_iff.mp hy, by omega⟩
    · obtain ⟨rfl, rfl⟩ := List.cons.inj heq
      obtain ⟨y, hy, h⟩ := foldDigits_cons_eq_some_iff.mp h
      cases h
      exact Or.inr ⟨rfl, hexValue?_eq_some_iff.mp (by simpa using hy)⟩
  · rintro (⟨x, y, hx, hy, rfl⟩ | ⟨rfl, hy⟩)
    · refine ⟨[], [a, b], rfl, Or.inl rfl, List.cons_ne_nil _ _, ?_⟩
      refine foldDigits_cons_eq_some_iff.mpr ⟨x, hexValue?_eq_some_iff.mpr hx, ?_⟩
      refine foldDigits_cons_eq_some_iff.mpr ⟨y, hexValue?_eq_some_iff.mpr hy, ?_⟩
      exact congrArg some (by omega)
    · refine ⟨['+'], [b], rfl, Or.inr rfl, List.cons_ne_nil _ _, ?_⟩
      refine foldDigits_cons_eq_some_iff.mpr ⟨n, hexValue?_eq_some_iff.mpr hy, ?_⟩
      exact congrArg some (by omega)

end Formulary.Text
