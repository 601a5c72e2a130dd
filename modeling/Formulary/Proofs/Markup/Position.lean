import Formulary.Text.Bytes
import Mathlib

/-!
# Positions — the characters and the pieces of a text by number

A position counts the characters in front of it. The text from a position on is `t.drop k`, and the piece
between two positions is `t.extract a b`.

* `charBefore` — the character in front of a position.
* `getElem?_of_drop`, `drop_succ_of_drop` — the next character of what is left to read.
* `extract_succ`, `extract_append`, `extract_append_drop` — pieces that follow one another.
* `offset`, `offset_add` — the byte offset of a position.
-/

namespace Formulary.Markup

variable {t rest : List Char} {c : Char} {a b i k : Nat}

/-! ## Characters -/

/-- The character in front of a position. -/
def charBefore (t : List Char) (i : Nat) : Option Char := if i = 0 then none else t[i - 1]?

/-- Behind a character that character comes before. -/
theorem charBefore_succ (hc : t[k]? = some c) : charBefore t (k + 1) = some c := by
  rw [charBefore, if_neg (Nat.succ_ne_zero k), Nat.add_sub_cancel, hc]

/-- The first character of what is left to read stands at the position. -/
theorem getElem?_of_drop (h : c :: rest = t.drop k) : t[k]? = some c := by
  have h0 := congrArg (fun l => l[0]?) h
  simpa [List.getElem?_drop] using h0.symm

/-- Behind it comes what is left from the next position on. -/
theorem drop_succ_of_drop (h : c :: rest = t.drop k) : rest = t.drop (k + 1) := by
  rw [← List.tail_drop, ← h, List.tail_cons]

/-- When nothing is left to read, nothing stands at any later position. -/
theorem getElem?_of_drop_nil (h : [] = t.drop k) (hk : k ≤ i) : t[i]? = none := by
  have hlength : t.length ≤ k := List.drop_eq_nil_iff.mp h.symm
  exact List.getElem?_eq_none (by omega)

/-! ## Pieces -/

theorem extract_self : t.extract a a = [] := by
  rw [List.extract, Nat.sub_self, List.take_zero]

/-- A piece with one more character. -/
theorem extract_succ (hc : t[k]? = some c) (h : a ≤ k) :
    t.extract a (k + 1) = t.extract a k ++ [c] := by
  have hlength : k + 1 - a = (k - a) + 1 := by omega
  have hposition : a + (k - a) = k := by omega
  rw [List.extract, List.extract, hlength, List.take_add_one, List.getElem?_drop, hposition, hc,
    Option.toList_some]

theorem extract_one {x : Char} (hx : t[i]? = some x) : t.extract i (i + 1) = [x] := by
  rw [extract_succ hx (Nat.le_refl i), extract_self, List.nil_append]

theorem extract_two {x y : Char} (hx : t[i]? = some x) (hy : t[i + 1]? = some y) :
    t.extract i (i + 2) = [x, y] := by
  rw [extract_succ hy (Nat.le_succ i), extract_one hx, List.singleton_append]

/-- A piece and the one that follows it make one piece. -/
theorem extract_append {d : Nat} (hab : a ≤ b) (hbd : b ≤ d) :
    t.extract a b ++ t.extract b d = t.extract a d := by
  have hlength : d - a = (b - a) + (d - b) := by omega
  have hdrop : t.drop b = (t.drop a).drop (b - a) := by
    rw [List.drop_drop]
    congr 1
    omega
  rw [List.extract, List.extract, List.extract, hlength, List.take_add, ← hdrop]

/-- A piece and what is left behind it make what was left before it. -/
theorem extract_append_drop (hab : a ≤ b) : t.extract a b ++ t.drop b = t.drop a := by
  have hdrop : t.drop b = (t.drop a).drop (b - a) := by
    rw [List.drop_drop]
    congr 1
    omega
  rw [List.extract, hdrop, List.take_append_drop]

/-! ## Bytes -/

/-- The byte offset of a position. -/
def offset (t : List Char) (i : Nat) : Nat := Text.byteSize (t.take i)

/-- Behind a piece the offset is greater by the bytes of the piece. -/
theorem offset_add (hab : a ≤ b) : offset t a + Text.byteSize (t.extract a b) = offset t b := by
  have hlength : b = a + (b - a) := by omega
  rw [offset, offset, ← Text.byteSize_append, hlength, List.take_add, List.extract,
    Nat.add_sub_cancel_left]

end Formulary.Markup
