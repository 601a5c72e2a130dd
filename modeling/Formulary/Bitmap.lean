import Formulary.Color

/-!
# Bitmaps — pixels of straight alpha

A bitmap has a width, a height and four bytes for each pixel, row by row.

* `Bitmap` — the number of bytes is part of the type.
* `Bitmap.uniform`, `Bitmap.ofPixels?` — a bitmap of one colour, and one of given bytes.
* `Bitmap.byteCost` — the bytes that its pixels take.
-/

namespace Formulary

/-- Pixels of straight alpha, row by row, four bytes each. -/
structure Bitmap where
  width : Nat
  height : Nat
  pixels : ByteArray
  size_pixels : pixels.size = 4 * (width * height)

namespace Bitmap

instance : DecidableEq Bitmap := fun a b =>
  decidable_of_iff (a.width = b.width ∧ a.height = b.height ∧ a.pixels.data = b.pixels.data) <| by
    obtain ⟨_, _, ⟨_⟩, _⟩ := a
    obtain ⟨_, _, ⟨_⟩, _⟩ := b
    simp

/-- The bitmap of given bytes, if there are four for each pixel. -/
def ofPixels? (width height : Nat) (pixels : ByteArray) : Option Bitmap :=
  if h : pixels.size = 4 * (width * height) then some ⟨width, height, pixels, h⟩ else none

/-- The bitmap without pixels. -/
def empty : Bitmap := ⟨0, 0, ByteArray.empty, rfl⟩

instance : Inhabited Bitmap := ⟨empty⟩

/-- Bytes followed by `n` pixels of one colour. -/
def pushPixels (color : Color) (bytes : ByteArray) : Nat → ByteArray
  | 0 => bytes
  | n + 1 =>
    pushPixels color ((((bytes.push color.red).push color.green).push color.blue).push color.alpha) n

theorem size_pushPixels (color : Color) (bytes : ByteArray) (n : Nat) :
    (pushPixels color bytes n).size = bytes.size + 4 * n := by
  induction n generalizing bytes with
  | zero => rfl
  | succ n ih =>
    simp only [pushPixels, ih, ByteArray.size_push]
    omega

/-- A bitmap of one colour. -/
def uniform (width height : Nat) (color : Color) : Bitmap :=
  ⟨width, height, pushPixels color ByteArray.empty (width * height), by
    simp [size_pushPixels]⟩

/-- The number of bytes that the pixels take. -/
def byteCost (b : Bitmap) : Nat := b.pixels.size

/-- The description of a bitmap by its width and height. -/
def describe (b : Bitmap) : String :=
  "Bitmap \x7b width: " ++ toString b.width ++ ", height: " ++ toString b.height ++ " \x7d"

end Bitmap
end Formulary
