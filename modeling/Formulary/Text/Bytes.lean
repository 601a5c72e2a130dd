/-!
# Byte counts — the size of a text in UTF-8

Offsets into a text count the bytes of its UTF-8 form.

* `byteSize` — the bytes of a list of characters; it is additive over `++`.
-/

namespace Formulary.Text

/-- The number of UTF-8 bytes of a list of characters. -/
def byteSize (cs : List Char) : Nat := cs.foldl (fun n c => n + c.utf8Size) 0

theorem foldl_utf8Size (n : Nat) (cs : List Char) :
    cs.foldl (fun n c => n + c.utf8Size) n = n + byteSize cs := by
  induction cs generalizing n with
  | nil => rfl
  | cons c rest ih =>
    simp only [byteSize, List.foldl_cons]
    rw [ih, ih (0 + c.utf8Size)]
    omega

@[simp] theorem byteSize_nil : byteSize [] = 0 := rfl

@[simp] theorem byteSize_cons (c : Char) (cs : List Char) :
    byteSize (c :: cs) = c.utf8Size + byteSize cs := by
  simp only [byteSize, List.foldl_cons]
  rw [foldl_utf8Size]
  simp [byteSize]

@[simp] theorem byteSize_append (a b : List Char) :
    byteSize (a ++ b) = byteSize a + byteSize b := by
  induction a with
  | nil => simp
  | cons c rest ih => simp [ih, Nat.add_assoc]

/-- No character takes less than a byte. -/
theorem length_le_byteSize (cs : List Char) : cs.length ≤ byteSize cs := by
  induction cs with
  | nil => simp
  | cons c rest ih =>
    have := c.utf8Size_pos
    simp only [List.length_cons, byteSize_cons]
    omega

end Formulary.Text
