import Formulary.Location.Index
import Formulary.Proofs.Text.Digits
import Formulary.Proofs.Text.Split
import Formulary.Table
import Mathlib

/-!
# Keys of ranges — a range is read back from its key

A range is written as four numbers with a colon in each half and a hyphen between the halves.
Neither sign may stand in a number, so the text is cut where it was joined and each number is read by
itself. The texts that are read as a range are exactly those of this shape, and the key of a range is
one of them. No two ranges are written alike for that reason, and an index that ranges were added to
holds each of them under its own key.

* `SourceRange.Spells` — the texts that stand for a range.
* `SourceRange.parse_eq_ok_iff`, `SourceRange.parse_eq_error_iff` — what is read, and what is refused.
* `SourceRange.parse_key`, `SourceRange.key_injective` — a range is what its key says.
* `LocationIndex.lookup_cons_iff` — what an index holds after a range was added.
* `LocationIndex.ofRanges`, `LocationIndex.lookup_ofRanges` — the index of some ranges.
-/

namespace Formulary

/-! ## Positions and ranges -/

/-- Characters that stand for a coordinate: digits of its value, behind a plus sign if there is one. -/
def IsCoordinate (cs : List Char) (n : UInt64) : Prop :=
  ∃ sign digits, cs = sign ++ digits ∧ Text.IsSign sign ∧ digits ≠ [] ∧
    (∀ c ∈ digits, c.isDigit = true) ∧ Nat.ofDigitChars 10 digits 0 = n.toNat

/-- Characters that stand for a position: its line and its column with a colon in between. -/
def IsPosition (cs : List Char) (p : LineColumn) : Prop :=
  ∃ line column, cs = line ++ ':' :: column ∧ IsCoordinate line p.line ∧
    IsCoordinate column p.column

/-- A text that stands for a range: its two positions with a hyphen in between. -/
def SourceRange.Spells (s : String) (r : SourceRange) : Prop :=
  ∃ start stop, s.toList = start ++ '-' :: stop ∧ IsPosition start r.start ∧ IsPosition stop r.stop

theorem isCoordinate_toDigits (n : UInt64) : IsCoordinate (Nat.toDigits 10 n.toNat) n :=
  ⟨[], Nat.toDigits 10 n.toNat, rfl, Or.inl rfl, Nat.toDigits_ne_nil,
    fun _ hc => Nat.isDigit_of_mem_toDigits (by decide) (by decide) hc,
    Nat.ofDigitChars_ten_toDigits⟩

/-- A coordinate holds digits and a sign only. -/
theorem IsCoordinate.not_mem {cs : List Char} {n : UInt64} (h : IsCoordinate cs n) {c : Char}
    (hdigit : c.isDigit = false) (hplus : c ≠ '+') : c ∉ cs := by
  obtain ⟨sign, digits, rfl, hsign, -, hdigits, -⟩ := h
  rw [List.mem_append, not_or]
  constructor
  · rcases hsign with rfl | rfl
    · exact List.not_mem_nil
    · simpa using hplus
  · intro hc
    rw [hdigits c hc] at hdigit
    exact Bool.noConfusion hdigit

/-- A position holds no hyphen. -/
theorem IsPosition.hyphen_not_mem {cs : List Char} {p : LineColumn} (h : IsPosition cs p) :
    '-' ∉ cs := by
  obtain ⟨line, column, rfl, hline, hcolumn⟩ := h
  rw [List.mem_append, List.mem_cons, not_or, not_or]
  exact ⟨hline.not_mem rfl (by decide), by decide, hcolumn.not_mem rfl (by decide)⟩

namespace SourceRange

theorem coordinate?_eq_some_iff {cs : List Char} {n : UInt64} :
    coordinate? cs = some n ↔ IsCoordinate cs n := by
  rw [coordinate?, Text.decimalBelow?, Option.map_eq_some_iff]
  constructor
  · rintro ⟨m, hm, rfl⟩
    obtain ⟨hread, hlt⟩ := Option.filter_eq_some_iff.mp hm
    obtain ⟨sign, digits, rfl, hsign, hne, hfold⟩ := (Text.unsigned?_eq_some_iff rfl).mp hread
    obtain ⟨hdigits, hvalue⟩ := Text.foldDigits_decimal_iff.mp hfold
    refine ⟨sign, digits, rfl, hsign, hne, hdigits, ?_⟩
    exact hvalue.trans (UInt64.toNat_ofNat_of_lt' (of_decide_eq_true hlt)).symm
  · rintro ⟨sign, digits, rfl, hsign, hne, hdigits, hvalue⟩
    have hread : Text.unsigned? 10 Text.decimalValue? (sign ++ digits) = some n.toNat :=
      (Text.unsigned?_eq_some_iff rfl).mpr
        ⟨sign, digits, rfl, hsign, hne, Text.foldDigits_decimal_iff.mpr ⟨hdigits, hvalue⟩⟩
    exact ⟨n.toNat, Option.filter_eq_some_iff.mpr ⟨hread, decide_eq_true n.toNat_lt⟩,
      UInt64.ofNat_toNat⟩

/-- A position is cut at its colon, since its line holds none. -/
theorem position?_eq_some_iff {cs : List Char} {p : LineColumn} :
    position? cs = some p ↔ IsPosition cs p := by
  simp only [position?, Option.bind_eq_bind, Option.bind_eq_some_iff, Prod.exists,
    Option.pure_def, Option.some.injEq, Text.splitOnce_eq_some_iff, coordinate?_eq_some_iff]
  constructor
  · rintro ⟨line, column, ⟨rfl, -⟩, l, hl, c, hc, rfl⟩
    exact ⟨line, column, rfl, hl, hc⟩
  · rintro ⟨line, column, rfl, hline, hcolumn⟩
    exact ⟨line, column, ⟨rfl, hline.not_mem rfl (by decide)⟩, _, hline, _, hcolumn, rfl⟩

/-- A range is cut at its hyphen, since its first position holds none. -/
theorem ofChars?_eq_some_iff {s : String} {r : SourceRange} :
    ofChars? s.toList = some r ↔ Spells s r := by
  simp only [ofChars?, Option.bind_eq_bind, Option.bind_eq_some_iff, Prod.exists,
    Option.pure_def, Option.some.injEq, Text.splitOnce_eq_some_iff, position?_eq_some_iff]
  constructor
  · rintro ⟨start, stop, ⟨hs, -⟩, p, hp, q, hq, rfl⟩
    exact ⟨start, stop, hs, hp, hq⟩
  · rintro ⟨start, stop, hs, hstart, hstop⟩
    exact ⟨start, stop, ⟨hs, hstart.hyphen_not_mem⟩, _, hstart, _, hstop, rfl⟩

/-- What is read are the texts that stand for a range. -/
theorem parse_eq_ok_iff {s : String} {r : SourceRange} : parse s = .ok r ↔ Spells s r := by
  rw [← ofChars?_eq_some_iff, parse]
  cases ofChars? s.toList with
  | none => simp
  | some other => simp

/-- Any other text is refused, and the error holds it. -/
theorem parse_eq_error_iff {s : String} {e : ParseError} :
    parse s = .error e ↔ e = ⟨s⟩ ∧ ∀ r, ¬ Spells s r := by
  simp only [← ofChars?_eq_some_iff, parse]
  cases ofChars? s.toList with
  | none => simp [eq_comm]
  | some other => simp

theorem spells_key (r : SourceRange) : Spells r.key r :=
  ⟨r.start.toChars, r.stop.toChars, String.toList_ofList,
    ⟨_, _, rfl, isCoordinate_toDigits _, isCoordinate_toDigits _⟩,
    ⟨_, _, rfl, isCoordinate_toDigits _, isCoordinate_toDigits _⟩⟩

/-- A range is read back from its key. -/
theorem parse_key (r : SourceRange) : parse r.key = .ok r := parse_eq_ok_iff.mpr (spells_key r)

/-- Different ranges have different keys. -/
theorem key_injective {a b : SourceRange} (h : a.key = b.key) : a = b := by
  have hparse := parse_key a
  rw [h, parse_key b] at hparse
  exact (Except.ok.inj hparse).symm

end SourceRange

/-! ## The index of ranges -/

namespace LocationIndex

theorem lookup_empty (key : String) : ({} : LocationIndex).lookup key = none := rfl

/-- A range whose key is new is added. -/
theorem insert_of_lookup_eq_none {index : LocationIndex} {range : SourceRange}
    (h : index.lookup range.key = none) :
    index.insert range = (true, ⟨(range.key, range) :: index.entries⟩) := by
  rw [insert, h]

/-- A range whose key is there is not added. -/
theorem insert_of_lookup_eq_some {index : LocationIndex} {range r : SourceRange}
    (h : index.lookup range.key = some r) : index.insert range = (false, index) := by
  rw [insert, h]

/-- After a range was added its key stands for it, and other keys are not touched. -/
theorem lookup_cons_key (index : LocationIndex) (range : SourceRange) (key : String) :
    LocationIndex.lookup ⟨(range.key, range) :: index.entries⟩ key
      = if key = range.key then some range else index.lookup key :=
  Table.lookup_cons key (range.key, range) index.entries

/-- An index that holds ranges under their own keys holds one more of them after it was added. -/
theorem lookup_cons_iff {index : LocationIndex} {held : SourceRange → Prop}
    (h : ∀ key r, index.lookup key = some r ↔ key = r.key ∧ held r) (range : SourceRange)
    (key : String) (r : SourceRange) :
    LocationIndex.lookup ⟨(range.key, range) :: index.entries⟩ key = some r
      ↔ key = r.key ∧ (r = range ∨ held r) := by
  rw [lookup_cons_key]
  by_cases hkey : key = range.key
  · rw [if_pos hkey]
    constructor
    · intro hr
      rw [← Option.some.inj hr]
      exact ⟨hkey, Or.inl rfl⟩
    · rintro ⟨hr, -⟩
      rw [SourceRange.key_injective (hkey.symm.trans hr)]
  · rw [if_neg hkey, h]
    constructor
    · rintro ⟨hr, hheld⟩
      exact ⟨hr, Or.inr hheld⟩
    · rintro ⟨hr, rfl | hheld⟩
      · exact absurd hr hkey
      · exact ⟨hr, hheld⟩

/-- The index that some ranges were added to one after the other. -/
def ofRanges (ranges : List SourceRange) : LocationIndex :=
  ranges.foldl (fun index range => (index.insert range).2) empty

/-- The index of some ranges finds each of them under its own key, and nothing else. -/
theorem lookup_ofRanges (ranges : List SourceRange) (key : String) (r : SourceRange) :
    (ofRanges ranges).lookup key = some r ↔ key = r.key ∧ r ∈ ranges := by
  induction ranges using List.reverseRecOn generalizing key r with
  | nil => simp [ofRanges, empty, lookup]
  | append_singleton earlier last ih =>
      have hstep : ofRanges (earlier ++ [last]) = ((ofRanges earlier).insert last).2 :=
        List.foldl_append
      rw [hstep, List.mem_append, List.mem_singleton, or_comm]
      cases hlast : (ofRanges earlier).lookup last.key with
      | none =>
          rw [insert_of_lookup_eq_none hlast]
          exact lookup_cons_iff ih last key r
      | some other =>
          -- the key is there for the range itself
          have hmem : last ∈ earlier := by
            obtain ⟨hkey, hother⟩ := (ih _ _).mp hlast
            rwa [SourceRange.key_injective hkey]
          rw [insert_of_lookup_eq_some hlast, ih]
          constructor
          · rintro ⟨hkey, hr⟩
            exact ⟨hkey, Or.inr hr⟩
          · rintro ⟨hkey, rfl | hr⟩
            · exact ⟨hkey, hmem⟩
            · exact ⟨hkey, hr⟩

end LocationIndex
end Formulary
