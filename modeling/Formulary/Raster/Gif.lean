import Formulary.Raster.Png

/-!
# GIF images — the first picture of a file

A picture is a rectangle of a screen. Its pixels are numbers of palette entries, packed by a code
whose words grow while they are read; one entry may stand for transparency.

* `Gif.Picture` — a picture, its place and its palette.
* `Gif.Words.read` — the pixels of packed data.
* `Gif.screen?`, `Gif.decode?` — the screen with its first picture, and the image that it is.
-/

namespace Formulary.Raster.Gif

/-- Bytes in blocks, each behind its length; the last one is empty. -/
def blocks? : Nat → List UInt8 → Option (List UInt8 × List UInt8)
  | 0, _ => none
  | _, [] => none
  | fuel + 1, length :: bytes =>
    let n := length.toNat
    if n = 0 then some ([], bytes)
    else if bytes.length < n then none
    else (blocks? fuel (bytes.drop n)).map fun (data, rest) => (bytes.take n ++ data, rest)

/-- A picture of a file. -/
structure Picture where
  left : Nat
  top : Nat
  width : Nat
  height : Nat
  interlaced : Bool
  palette : List UInt8
  transparent : Option UInt8
  codeSize : Nat
  data : List UInt8

/-- The palette that flags announce, and what is left behind it. -/
def palette? (flags : UInt8) (bytes : List UInt8) : Option (Option (List UInt8) × List UInt8) :=
  if flags &&& 0x80 = 0 then some (none, bytes)
  else
    let size := 3 <<< ((flags &&& 7).toNat + 1)
    if bytes.length < size then none else some (some (bytes.take size), bytes.drop size)

/-- Reads blocks up to the first picture. -/
def picture? (palette : Option (List UInt8)) : Nat → Option UInt8 → List UInt8 → Option Picture
  | 0, _, _ => none
  | fuel + 1, transparent, bytes =>
    match bytes with
    | 0x21 :: label :: rest => do
      let (data, rest) ← blocks? (rest.length + 1) rest
      let transparent := match label, data with
        | 0xF9, [flags, _, _, index] => if flags &&& 1 = 1 then some index else none
        | _, _ => transparent
      picture? palette fuel transparent rest
    | 0x2C :: x0 :: x1 :: y0 :: y1 :: w0 :: w1 :: h0 :: h1 :: flags :: rest => do
      let (own, rest) ← palette? flags rest
      let palette ← own.or palette
      match rest with
      | codeSize :: rest =>
        let (data, _) ← blocks? (rest.length + 1) rest
        if codeSize < 1 || 11 < codeSize then none
        else return {
          left := ofLittleEndian [x0, x1], top := ofLittleEndian [y0, y1]
          width := ofLittleEndian [w0, w1], height := ofLittleEndian [h0, h1]
          interlaced := flags &&& 0x40 != 0
          palette, transparent, codeSize := codeSize.toNat, data }
      | [] => none
    | _ => none

/-- The words of the code while it is read: each with its bytes in reverse and its first byte, and
the word read before. -/
structure Words where
  table : Array (List UInt8 × UInt8)
  before : Option (List UInt8 × UInt8) := none

namespace Words

/-- The words at first: one for each byte, and two marks. -/
def start (codeSize : Nat) : Words :=
  ⟨((List.range (1 <<< codeSize)).map fun i => ([UInt8.ofNat i], UInt8.ofNat i)).toArray ++
    #[([], 0), ([], 0)], none⟩

/-- The number of bits of the next word. -/
def width (w : Words) : Nat := min 12 (Nat.log2 w.table.size + 1)

/-- The table with one more word, unless it is full. -/
def add (w : Words) (word : List UInt8 × UInt8) : Array (List UInt8 × UInt8) :=
  if w.table.size < 4096 then w.table.push word else w.table

/-- Reads words: `out` holds the bytes in reverse. -/
def read (codeSize : Nat) : Nat → Words → List UInt8 → List Bool → Option (List UInt8)
  | 0, _, out, _ => some out
  | fuel + 1, w, out, bits =>
    match takeNumber w.width bits with
    | none => some out
    | some (code, bits) =>
      if code = 1 <<< codeSize then read codeSize fuel (start codeSize) out bits
      else if code = (1 <<< codeSize) + 1 then some out
      else
        match w.before, w.table[code]? with
        | none, some word =>
          read codeSize fuel { w with before := some word } (word.1 ++ out) bits
        | some (previous, first), some word =>
          let table := w.add (word.2 :: previous, first)
          read codeSize fuel ⟨table, some word⟩ (word.1 ++ out) bits
        | some (previous, first), none =>
          if code = w.table.size then
            let word := (first :: previous, first)
            read codeSize fuel ⟨w.add word, some word⟩ (word.1 ++ out) bits
          else none
        | none, none => none

end Words

/-- The colour of a pixel. -/
def colorOf (p : Picture) (index : UInt8) : Color :=
  match (p.palette.drop (3 * index.toNat)).take 3 with
  | [r, g, b] => ⟨r, g, b, if p.transparent = some index then 0 else 255⟩
  | _ => ⟨0, 0, 0, 0⟩

/-- The rows of a picture in the order in which they are stored. -/
def rowOrder (p : Picture) : List Nat :=
  let every (start step : Nat) := (List.range p.height).filter fun y => start ≤ y && (y - start) % step == 0
  if p.interlaced then every 0 8 ++ every 4 8 ++ every 2 4 ++ every 1 2 else List.range p.height

/-- Puts the pixels of a picture on a screen. -/
def place (screen : Array Color) (width height : Nat) (p : Picture) :
    List Nat → List UInt8 → Array Color
  | [], _ => screen
  | y :: rows, pixels =>
    let row := (pixels.take p.width).zipIdx
    let screen := row.foldl (fun screen (index, x) =>
      if p.left + x < width && p.top + y < height then
        screen.setIfInBounds ((p.top + y) * width + p.left + x) (colorOf p index)
      else screen) screen
    place screen width height p rows (pixels.drop p.width)

/-- Whether a picture reaches over the whole width of a screen and not below it, so that it is read
in place. -/
def Picture.isInPlace (p : Picture) (width height : Nat) : Bool :=
  p.left = 0 && p.width = width && p.top + p.height ≤ height

/-- The screen of a file with its first picture. The pixels of the screen, with those of a picture
that is not read in place, take at most `limit` bytes. -/
def screen? (limit : Nat) (bytes : List UInt8) : Option Bitmap :=
  match bytes.drop 6 with
  | w0 :: w1 :: h0 :: h1 :: flags :: _ :: _ :: rest => do
    let width := ofLittleEndian [w0, w1]
    let height := ofLittleEndian [h0, h1]
    let (palette, rest) ← palette? flags rest
    if limit < 4 * (width * height) then none
    else
      let p ← picture? palette (rest.length + 1) none rest
      if !p.isInPlace width height && limit - 4 * (width * height) < 4 * (p.width * p.height) then none
      else
        let bits := bitsOf p.data
        let pixels ← Words.read p.codeSize (bits.length + 1) (Words.start p.codeSize) [] bits
        if pixels.length < p.width * p.height then none
        else
          let screen := Array.replicate (width * height) (⟨0, 0, 0, 0⟩ : Color)
          Bitmap.ofPixels? width height
            (Png.colorBytes (place screen width height p (rowOrder p) pixels.reverse))
  | _ => none

/-- The image of a file: pixels of a screen are coloured and have alpha. -/
def decode? : Reader := fun limit bytes => (screen? limit bytes).map fun b => ⟨.rgba8, b⟩

end Formulary.Raster.Gif
