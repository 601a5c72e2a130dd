import Formulary.Bitmap

/-!
# Images — bitmaps with the layout that they were read in

A reader gives the pixels of a file in a layout of the file's own: grey or coloured, with or without alpha, in
samples of one, two or four bytes. A bitmap of four bytes for each pixel is made of them afterwards. A
reader may take a number of bytes, and compares them with the pixels in their own layout.

* `PixelLayout`, `PixelLayout.bytes` — the layouts, and the bytes of a pixel in each of them.
* `Image`, `Image.nativeBytes` — a bitmap and the layout that it was read in, and what its pixels took there.
* `Reader` — from bytes to an image.
-/

namespace Formulary.Raster

/-- The layouts that pixels are read in; each is named with the bits of a sample. -/
inductive PixelLayout where
  | grey8
  | greyAlpha8
  | rgb8
  | rgba8
  | grey16
  | greyAlpha16
  | rgb16
  | rgba16
  | rgb32
  | rgba32
deriving DecidableEq, Repr, Inhabited

/-- The bytes of a pixel. -/
def PixelLayout.bytes : PixelLayout → Nat
  | grey8 => 1
  | greyAlpha8 | grey16 => 2
  | rgb8 => 3
  | rgba8 | greyAlpha16 => 4
  | rgb16 => 6
  | rgba16 => 8
  | rgb32 => 12
  | rgba32 => 16

/-- A bitmap, and the layout that its pixels were read in. -/
structure Image where
  layout : PixelLayout
  bitmap : Bitmap
deriving DecidableEq, Inhabited

/-- The bytes that the pixels take in their own layout. -/
def Image.nativeBytes (i : Image) : Nat := i.bitmap.width * i.bitmap.height * i.layout.bytes

/-- What is read of the bytes of a file when reading may take a number of bytes. -/
abbrev Reader := Nat → List UInt8 → Option Image

end Formulary.Raster
