import Formulary.Error.Job
import Formulary.Raster.Gif
import Formulary.Raster.Svg
import Formulary.Text.Utf8

/-!
# Decoding — from bytes to a bitmap

The first bytes of a file say which format it has. PNG and GIF images are read here. JPEG and WebP images
and drawings are read by readers that are given; the library has readers of its own, which read no JPEG and
WebP image and the rectangles of a drawing. The other formats are known by name only. An image whose
pixels would take more than a limit in their own layout is not read.

* `Format`, `format?` — the formats, and which of them bytes have.
* `Readers`, `Readers.basic` — what reads the formats that are not read here, and the library's own ones.
* `Decoder`, `Readers.decode` — the bitmap of bytes, with some readers.
* `decodeImage` — the bitmap of bytes, with the library's own readers.
* `roundTrip` — a bitmap written as a PNG file and read back.
-/

namespace Formulary.Raster

/-- The formats that are told apart. -/
inductive Format where
  | png
  | gif
  | jpeg
  | webp
  | other
deriving DecidableEq, Repr

/-- The first bytes of formats that are known and not read. -/
def otherMarks : List (List UInt8) :=
  [[0x4D, 0x4D, 0x00, 0x2A], [0x49, 0x49, 0x2A, 0x00], [0x42, 0x4D], [0x00, 0x00, 0x01, 0x00],
    [0x76, 0x2F, 0x31, 0x01]] ++
  ["DDS ", "#?RADIANCE", "farbfeld", "qoif", "P1", "P2", "P3", "P4", "P5", "P6", "P7"].map Png.kindOf

/-- Whether bytes are those of a WebP image, which names itself behind four bytes of size. -/
def isWebp (bytes : List UInt8) : Bool :=
  bytes.take 4 == Png.kindOf "RIFF" && (bytes.drop 8).take 4 == Png.kindOf "WEBP"

/-- Whether bytes are those of an AVIF image, which names itself behind four bytes of size. -/
def isAvif (bytes : List UInt8) : Bool :=
  bytes.take 2 == [0, 0] && (bytes.drop 4).take 8 == Png.kindOf "ftypavif"

/-- The format of bytes. -/
def format? (bytes : List UInt8) : Option Format :=
  if Png.signature.isPrefixOf bytes then some .png
  else if (Png.kindOf "GIF89a").isPrefixOf bytes || (Png.kindOf "GIF87a").isPrefixOf bytes then
    some .gif
  else if [0xFF, 0xD8, 0xFF].isPrefixOf bytes then some .jpeg
  else if isWebp bytes then some .webp
  else if isAvif bytes || otherMarks.any fun mark => mark.isPrefixOf bytes then some .other
  else none

/-- The words that stand for what is wrong inside a file. -/
def fileDetails : String := "<library>"

/-- Why there is no bitmap of a drawing, in words. -/
def Svg.Failure.reason : Svg.Failure → String
  | .malformed => "invalid SVG: " ++ fileDetails
  | .tooLarge width height needed limit =>
    "SVG raster " ++ toString width ++ "x" ++ toString height ++ " needs " ++ toString needed ++
      " bytes, limit is " ++ toString limit
  | .invalidSize width height =>
    "SVG has invalid size " ++ toString width ++ "x" ++ toString height
  | .sizeMismatch => "SVG raster buffer size mismatch"

/-- What is read of the formats that are not read here: JPEG and WebP images, and drawings. -/
structure Readers where
  jpeg : Reader
  webp : Reader
  scene? : ByteArray → Option Svg.Scene

namespace Readers

/-- The library's own readers: they read no JPEG and WebP image, and the rectangles of a drawing. -/
def basic : Readers where
  jpeg _ _ := none
  webp _ _ := none
  scene? := Svg.rectangles?

/-- The reader of a format. -/
def read (readers : Readers) : Format → Reader
  | .png => Png.decode?
  | .gif => Gif.decode?
  | .jpeg => readers.jpeg
  | .webp => readers.webp
  | .other => fun _ _ => none

end Readers

/-- From a limit and the bytes of an image to a bitmap. -/
abbrev Decoder := Nat → ByteArray → Except JobError Bitmap

/-- Whether bytes are read as a drawing. -/
def isDrawing (bytes : ByteArray) : Bool :=
  Svg.looksLike (Text.decodeLossy (bytes.data.toList.take 512))

/-- The bitmap of bytes, read with some readers. -/
def Readers.decode (readers : Readers) : Decoder := fun limit bytes =>
  if isDrawing bytes then
    match Svg.decode readers.scene? (UInt64.ofNat limit) bytes with
    | .ok bitmap => .ok bitmap
    | .error failure => .error (.decode failure.reason)
  else
    match format? bytes.data.toList with
    | none => .error (.decode "unrecognised image format")
    | some format =>
      match readers.read format limit bytes.data.toList with
      | some image => .ok image.bitmap
      | none => .error (.decode fileDetails)

/-- The bitmap of bytes, read with the library's own readers. -/
def decodeImage : Decoder := Readers.basic.decode

/-- The limit where none is given. -/
def defaultLimit : Nat := 100 * 1024 * 1024

/-- A bitmap written as a PNG file and read back. -/
def roundTrip (b : Bitmap) : Except JobError Bitmap :=
  match Png.encode? b with
  | none => .error (.render ("PNG re-encode failed: " ++ fileDetails))
  | some file =>
    match Png.decode? (4 * (b.width * b.height)) file with
    | some image => .ok image.bitmap
    | none => .error (.render ("PNG re-decode failed: " ++ fileDetails))

end Formulary.Raster
