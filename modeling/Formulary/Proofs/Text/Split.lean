import Formulary.Text.Split
import Mathlib

/-!
# Splitting — a cut text and its pieces

A text that is cut once is cut at the first separator, so the part in front of it holds none. A text
that is cut everywhere gives the only pieces without separators that it is joined of.

* `splitOnce_eq_some_iff` — the two parts of a text that is cut once.
* `Pieces` — what a text is joined of with a separator in between.
* `split_eq_iff` — the pieces of a text.
-/

namespace Formulary.Text

variable {sep : Char} {cs : List Char}

/-- A text is cut where it was joined, when the first part does not hold the separator. -/
theorem splitOnce_append {a : List Char} (b : List Char) (h : sep ∉ a) :
    splitOnce sep (a ++ sep :: b) = some (a, b) := by
  induction a with
  | nil => simp [splitOnce]
  | cons c rest ih =>
      rw [List.mem_cons, not_or] at h
      rw [List.cons_append, splitOnce, if_neg (Ne.symm h.1), ih h.2]
      rfl

theorem splitOnce_of_not_mem (h : sep ∉ cs) : splitOnce sep cs = none := by
  induction cs with
  | nil => rfl
  | cons c rest ih =>
      rw [List.mem_cons, not_or] at h
      rw [splitOnce, if_neg (Ne.symm h.1), ih h.2]
      rfl

/-- A text is cut once at the first separator, if there is one. -/
theorem splitOnce_eq_some_iff {a b : List Char} :
    splitOnce sep cs = some (a, b) ↔ cs = a ++ sep :: b ∧ sep ∉ a := by
  constructor
  · intro h
    by_cases hmem : sep ∈ cs
    · obtain ⟨front, back, rfl, hfront⟩ := List.eq_append_cons_of_mem hmem
      rw [splitOnce_append back hfront] at h
      cases h
      exact ⟨rfl, hfront⟩
    · rw [splitOnce_of_not_mem hmem] at h
      cases h
  · rintro ⟨rfl, h⟩
    exact splitOnce_append b h

/-! ## All pieces -/

/-- A text is joined of pieces with a separator in between, and no piece holds the separator. -/
structure Pieces (sep : Char) (cs : List Char) (pieces : List (List Char)) : Prop where
  ne_nil : pieces ≠ []
  apart : ∀ p ∈ pieces, sep ∉ p
  joined : [sep].intercalate pieces = cs

/-- Cutting a text everywhere is splitting it as a list. -/
theorem split_eq_splitOn (sep : Char) (cs : List Char) : split sep cs = cs.splitOn sep := by
  induction cs with
  | nil => rfl
  | cons c rest ih =>
      rw [List.splitOn_cons_eq_if_modifyHead, ← ih, split, List.foldr_cons, ← split]
      by_cases hc : c = sep
      · simp [hc]
      · rw [if_neg hc, if_neg (by simpa using hc)]
        cases hrest : split sep rest with
        | nil => exact absurd (ih.symm.trans hrest) (List.splitOn_ne_nil _ _)
        | cons p more => rfl

theorem not_mem_of_mem_splitOn {p : List Char} (h : p ∈ cs.splitOn sep) : sep ∉ p := by
  induction cs generalizing p with
  | nil =>
      rw [List.splitOn_nil, List.mem_singleton] at h
      simp [h]
  | cons c rest ih =>
      rw [List.splitOn_cons_eq_if_modifyHead] at h
      by_cases hc : c = sep
      · rw [if_pos (by simpa using hc)] at h
        rcases List.mem_cons.mp h with rfl | h
        · exact List.not_mem_nil
        · exact ih h
      · rw [if_neg (by simpa using hc)] at h
        cases hrest : rest.splitOn sep with
        | nil => exact absurd hrest (List.splitOn_ne_nil _ _)
        | cons q more =>
            rw [hrest] at h ih
            rcases List.mem_cons.mp h with rfl | h
            · rw [List.mem_cons, not_or]
              exact ⟨Ne.symm hc, ih List.mem_cons_self⟩
            · exact ih (List.mem_cons_of_mem _ h)

/-- The pieces that a text is cut into are the only ones that it is joined of. -/
theorem split_eq_iff {pieces : List (List Char)} :
    split sep cs = pieces ↔ Pieces sep cs pieces := by
  rw [split_eq_splitOn]
  constructor
  · rintro rfl
    exact ⟨List.splitOn_ne_nil _ _, fun p hp => not_mem_of_mem_splitOn hp,
      List.intercalate_splitOn sep⟩
  · rintro ⟨hne, hapart, rfl⟩
    exact List.splitOn_intercalate sep hapart hne

end Formulary.Text
