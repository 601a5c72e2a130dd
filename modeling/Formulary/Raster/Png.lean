import Formulary.Raster.Image
import Formulary.Raster.Inflate

/-!
# PNG images — chunks of packed rows

An image is a header, an optional palette and an optional transparency, and packed rows. Each row
names the filter that was applied to it; interlaced images hold seven smaller images.

* `Png.Header` — the size and the layout of the pixels.
* `Png.File.pixelLayout`, `Png.File.nativeBytes` — the layout that the pixels are read in, and the bytes
  that they take there, which is what a limit is compared with.
* `Png.File.bitmap?`, `Png.decode?` — the bitmap of a file, and the image within a limit.
* `Png.encode?` — a file that holds a bitmap.
-/

namespace Formulary.Raster.Png

/-- The bytes that every file starts with. -/
def signature : List UInt8 := [0x89, 0x50, 0x4E, 0x47, 0x0D, 0x0A, 0x1A, 0x0A]

/-- What a pixel is made of. -/
inductive Layout where
  | grey
  | rgb
  | palette
  | greyAlpha
  | rgba
deriving DecidableEq, Repr, Inhabited

/-- The number of samples of a pixel. -/
def Layout.samples : Layout → Nat
  | grey | palette => 1
  | greyAlpha => 2
  | rgb => 3
  | rgba => 4

/-- The header of an image; `depth` is the number of bits of a sample. -/
structure Header where
  width : Nat
  height : Nat
  layout : Layout
  depth : Nat
  interlaced : Bool
deriving Repr, Inhabited

/-- The layout of a number, with the depths that it allows. -/
def layout? : Nat → Option (Layout × List Nat)
  | 0 => some (.grey, [1, 2, 4, 8, 16])
  | 2 => some (.rgb, [8, 16])
  | 3 => some (.palette, [1, 2, 4, 8])
  | 4 => some (.greyAlpha, [8, 16])
  | 6 => some (.rgba, [8, 16])
  | _ => none

/-- Reads a header. -/
def Header.ofBytes? (data : List UInt8) : Option Header :=
  match data.drop 8 with
  | [depth, layout, compression, filter, interlace] => do
    let width := ofBigEndian (data.take 4)
    let height := ofBigEndian ((data.drop 4).take 4)
    let (layout, depths) ← layout? layout.toNat
    if width = 0 || height = 0 || !depths.contains depth.toNat || compression != 0 || filter != 0 ||
        1 < interlace then none
    else return ⟨width, height, layout, depth.toNat, interlace = 1⟩
  | _ => none

/-- A file up to its pixels: the header, the palette, the transparency and the packed rows. -/
structure File where
  header : Header
  palette : List UInt8 := []
  transparency : Option (List UInt8) := none
  packed : List UInt8 := []
deriving Inhabited

/-- A chunk, whether its checksum is right, and what is left behind it. -/
def chunk? (bytes : List UInt8) : Option (List UInt8 × List UInt8 × Bool × List UInt8) :=
  let length := ofBigEndian (bytes.take 4)
  let kind := (bytes.drop 4).take 4
  let behind := bytes.drop 8
  let data := behind.take length
  let sum := (behind.drop length).take 4
  if bytes.length < 12 + length then none
  else some (kind, data, sum == bigEndian (crc32 (kind ++ data)), behind.drop (length + 4))

/-- The kind of a chunk, four letters. -/
def kindOf (name : String) : List UInt8 := name.toList.map fun c => UInt8.ofNat c.toNat

/-- Whether an image cannot be read without chunks of a kind. -/
def isCritical (kind : List UInt8) : Bool := kind.head?.all fun b => b &&& 0x20 == 0

/-- Reads chunks up to the first one behind the pixels, of which kind and length have to be there.
`inPixels` says that the chunk in front held pixels. -/
def readChunks : Nat → File → Bool → List UInt8 → Option File
  | 0, _, _, _ => none
  | fuel + 1, file, inPixels, bytes =>
    let kind := (bytes.drop 4).take 4
    if inPixels && kind != kindOf "IDAT" then if bytes.length < 8 then none else some file
    else do
      let (kind, data, sound, rest) ← chunk? bytes
      if kind = kindOf "IDAT" then
        if sound then readChunks fuel { file with packed := file.packed ++ data } true rest else none
      else if kind = kindOf "IEND" then none
      else if !sound then if isCritical kind then none else readChunks fuel file false rest
      else if kind = kindOf "PLTE" then readChunks fuel { file with palette := data } false rest
      else if kind = kindOf "tRNS" then readChunks fuel { file with transparency := some data } false rest
      else readChunks fuel file false rest

/-- Reads a file up to its pixels. -/
def File.ofBytes? (bytes : List UInt8) : Option File := do
  if bytes.take 8 != signature then none
  else
    let (kind, data, sound, rest) ← chunk? (bytes.drop 8)
    let header ← Header.ofBytes? data
    if kind != kindOf "IHDR" || !sound then none
    else
      let file ← readChunks (rest.length + 1) { header } false rest
      if header.layout = .palette && file.palette.isEmpty then none else return file

/-- The layout that the pixels are read in, once palettes, short samples and transparency are resolved. -/
def File.pixelLayout (f : File) : PixelLayout :=
  let isTransparent := f.transparency.isSome
  let isLong := f.header.depth = 16
  match f.header.layout with
  | .palette => if isTransparent then .rgba8 else .rgb8
  | .grey =>
    if isLong then if isTransparent then .greyAlpha16 else .grey16
    else if isTransparent then .greyAlpha8 else .grey8
  | .rgb =>
    if isLong then if isTransparent then .rgba16 else .rgb16
    else if isTransparent then .rgba8 else .rgb8
  | .greyAlpha => if isLong then .greyAlpha16 else .greyAlpha8
  | .rgba => if isLong then .rgba16 else .rgba8

/-- The bytes that all pixels take in the layout that they are read in. -/
def File.nativeBytes (f : File) : Nat := f.header.width * f.header.height * f.pixelLayout.bytes

/-! ## Rows -/

/-- The predictor that is nearest to `left + above - corner`. -/
def nearestOf (left above corner : Nat) : Nat :=
  let p : Int := left + above - corner
  let distance (n : Nat) : Nat := (p - n).natAbs
  if distance left ≤ distance above && distance left ≤ distance corner then left
  else if distance above ≤ distance corner then above
  else corner

/-- What a filter predicts for a byte from its neighbours. -/
def predict? (filter : Nat) (left above corner : Nat) : Option Nat :=
  match filter with
  | 0 => some 0
  | 1 => some left
  | 2 => some above
  | 3 => some ((left + above) / 2)
  | 4 => some (nearestOf left above corner)
  | _ => none

/-- Undoes a filter; `step` is the distance to the byte on the left. -/
def unfilter? (filter step : Nat) (above row : Array UInt8) : List UInt8 → Option (Array UInt8)
  | [] => some row
  | byte :: rest =>
    let i := row.size
    let at' (bytes : Array UInt8) (i : Nat) : Nat := (bytes[i]?.getD 0).toNat
    let before (bytes : Array UInt8) : Nat := if step ≤ i then at' bytes (i - step) else 0
    match predict? filter (before row) (at' above i) (before above) with
    | some p => unfilter? filter step above (row.push (byte + UInt8.ofNat p)) rest
    | none => none

/-- Reads rows, each of `size` bytes behind its filter, and what is left behind them. -/
def rows? (size step : Nat) : Nat → Array UInt8 → List UInt8 → Option (List (Array UInt8) × List UInt8)
  | 0, _, bytes => some ([], bytes)
  | n + 1, above, bytes =>
    match bytes with
    | [] => none
    | filter :: bytes =>
      let data := bytes.take size
      if data.length < size then none
      else do
        let row ← unfilter? filter.toNat step above #[] data
        let (rows, left) ← rows? size step n row (bytes.drop size)
        return (row :: rows, left)

/-- The samples of a row. -/
def samplesOf (depth : Nat) (row : List UInt8) : List Nat :=
  match depth with
  | 16 =>
    let rec pairs : List UInt8 → List Nat
      | high :: low :: rest => (high.toNat * 256 + low.toNat) :: pairs rest
      | _ => []
    pairs row
  | 8 => row.map UInt8.toNat
  | depth =>
    let perByte := 8 / depth
    row.flatMap fun byte =>
      (List.range perByte).map fun i => (byte.toNat >>> (8 - depth * (i + 1))) % (1 <<< depth)

/-- A sample as a byte. -/
def scale (depth sample : Nat) : UInt8 :=
  match depth with
  | 16 => UInt8.ofNat ((sample + 128) / 257)
  | depth => UInt8.ofNat (sample * 255 / ((1 <<< depth) - 1))

/-- The colour of a palette entry. -/
def paletteColor (f : File) (i : Nat) : Color :=
  let alpha := ((f.transparency.getD [])[i]?).getD 255
  match (f.palette.drop (3 * i)).take 3 with
  | [r, g, b] => ⟨r, g, b, alpha⟩
  | _ => ⟨0, 0, 0, alpha⟩

/-- Whether samples are those that stand for transparency. -/
def isTransparent (f : File) (samples : List Nat) : Bool :=
  match f.transparency with
  | some data => samplesOf 16 data == samples
  | none => false

/-- The colour of the samples of a pixel. -/
def colorOf (f : File) (samples : List Nat) : Color :=
  let byte := scale f.header.depth
  let alpha : UInt8 := if isTransparent f samples then 0 else 255
  match f.header.layout, samples with
  | .palette, [i] => paletteColor f i
  | .grey, [v] => ⟨byte v, byte v, byte v, alpha⟩
  | .rgb, [r, g, b] => ⟨byte r, byte g, byte b, alpha⟩
  | .greyAlpha, [v, a] => ⟨byte v, byte v, byte v, byte a⟩
  | .rgba, [r, g, b, a] => ⟨byte r, byte g, byte b, byte a⟩
  | _, _ => ⟨0, 0, 0, 0⟩

/-- Samples in groups of `n`. -/
def groups (n : Nat) : Nat → List Nat → List (List Nat)
  | 0, _ => []
  | count + 1, samples => samples.take n :: groups n count (samples.drop n)

/-- The colours of a row of `width` pixels. -/
def rowColors (f : File) (width : Nat) (row : Array UInt8) : List Color :=
  (groups f.header.layout.samples width (samplesOf f.header.depth row.toList)).map (colorOf f)

/-! ## Passes -/

/-- Every `dx`th pixel of every `dy`th row from a pixel on. -/
structure Pass where
  x : Nat
  y : Nat
  dx : Nat
  dy : Nat

/-- The passes of an image. -/
def passes (interlaced : Bool) : List Pass :=
  if interlaced then [⟨0, 0, 8, 8⟩, ⟨4, 0, 8, 8⟩, ⟨0, 4, 4, 8⟩, ⟨2, 0, 4, 4⟩, ⟨0, 2, 2, 4⟩, ⟨1, 0, 2, 2⟩,
    ⟨0, 1, 1, 2⟩]
  else [⟨0, 0, 1, 1⟩]

/-- The number of pixels of a pass along a side. -/
def Pass.count (start step size : Nat) : Nat := (size - start + step - 1) / step

/-- Puts the colours of a row of a pass in their places. -/
def placeRow (canvas : Array Color) (width : Nat) (p : Pass) (y : Nat) (colors : List Color) : Array Color :=
  colors.zipIdx.foldl
    (fun canvas (c, i) => canvas.setIfInBounds (y * width + p.x + p.dx * i) c) canvas

/-- Reads the passes of an image one after the other. -/
def readPasses? (f : File) (canvas : Array Color) : List Pass → List UInt8 → Option (Array Color)
  | [], _ => some canvas
  | p :: rest, bytes =>
    let width := Pass.count p.x p.dx f.header.width
    let height := Pass.count p.y p.dy f.header.height
    if width = 0 || height = 0 then readPasses? f canvas rest bytes
    else do
      let bits := f.header.layout.samples * f.header.depth
      let (rows, left) ← rows? ((width * bits + 7) / 8) (max (bits / 8) 1) height #[] bytes
      let canvas := rows.zipIdx.foldl
        (fun canvas (row, i) => placeRow canvas f.header.width p (p.y + p.dy * i) (rowColors f width row)) canvas
      readPasses? f canvas rest left

/-- The bytes of colours. -/
def colorBytes (colors : Array Color) : ByteArray :=
  colors.foldl (fun bytes c => (((bytes.push c.red).push c.green).push c.blue).push c.alpha) ByteArray.empty

/-- The bitmap of a file, whatever it takes. -/
def File.bitmap? (f : File) : Option Bitmap := do
  let data ← unpack? f.packed
  let canvas := Array.replicate (f.header.width * f.header.height) (⟨0, 0, 0, 0⟩ : Color)
  let canvas ← readPasses? f canvas (passes f.header.interlaced) data
  Bitmap.ofPixels? f.header.width f.header.height (colorBytes canvas)

/-- The image of a file whose pixels take at most `limit` bytes. -/
def decode? : Reader := fun limit bytes => do
  let file ← File.ofBytes? bytes
  if limit < file.nativeBytes then none
  else return ⟨file.pixelLayout, ← file.bitmap?⟩

/-! ## Writing -/

/-- A chunk. -/
def chunk (name : String) (data : List UInt8) : List UInt8 :=
  let body := kindOf name ++ data
  bigEndian (UInt32.ofNat data.length) ++ body ++ bigEndian (crc32 body)

/-- Bytes as rows of `size` bytes without a filter. -/
def plainRows (size : Nat) : Nat → List UInt8 → List UInt8
  | 0, _ => []
  | n + 1, bytes => 0 :: bytes.take size ++ plainRows size n (bytes.drop size)

/-- A file that holds a bitmap, which must have pixels. -/
def encode? (b : Bitmap) : Option (List UInt8) :=
  if b.width = 0 || b.height = 0 then none
  else
    let header := bigEndian (UInt32.ofNat b.width) ++ bigEndian (UInt32.ofNat b.height) ++ [8, 6, 0, 0, 0]
    let rows := plainRows (4 * b.width) b.height b.pixels.data.toList
    some (signature ++ chunk "IHDR" header ++ chunk "IDAT" (packStored rows) ++ chunk "IEND" [])

end Formulary.Raster.Png
