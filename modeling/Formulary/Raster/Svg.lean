import Formulary.Number.Binary32
import Formulary.Raster.Png
import Formulary.Raster.Xml
import Formulary.Text.Utf8
import Formulary.Text.Whitespace

/-!
# SVG drawings — scenes, and rectangles on a sheet

A drawing is read as a scene, which has a size and can be painted on a canvas. It is painted at its own size,
one pixel to a unit, after its size was checked. What a drawing shows is up to the one who reads it; here
rectangles are read. A sheet has a size and may have a view box, which is fitted into the size; a pixel
that is covered in part takes part of the colour.

* `Svg.looksLike` — whether bytes start as a drawing does.
* `Svg.neededBytes`, `Svg.exceeds` — the bytes that a raster needs, and the check of a limit, in 64
  bits.
* `Svg.Scene`, `Svg.decode` — a drawing that was read, and its bitmap.
* `Svg.Sheet.ofElement?`, `Svg.draw`, `Svg.size_draw` — size and view of a drawing, and its rectangles.
* `Svg.rectangles?` — a drawing read as the rectangles in it.
-/

namespace Formulary.Raster.Svg

/-- Why there is no bitmap of a drawing. -/
inductive Failure where
  | malformed
  | tooLarge (width height : UInt32) (needed : UInt64) (limit : UInt64)
  | invalidSize (width height : UInt32)
  | sizeMismatch
deriving DecidableEq, Repr

/-- Whether the first bytes, up to 512, are those of a drawing. -/
def looksLike (head : List Char) : Bool :=
  let text := Text.trimLeft (head.dropWhile (· == '\ufeff'))
  let mark := "<svg".toList
  mark.isPrefixOf text ||
    ("<?xml".toList.isPrefixOf text && (Element.upTo? mark [] text).isSome)

/-- The bytes of a raster, four for each pixel, in 64 bits. -/
def neededBytes (width height : UInt32) : UInt64 := width.toUInt64 * height.toUInt64 * 4

/-- Whether a raster needs more bytes than a limit. -/
def exceeds (width height : UInt32) (limit : UInt64) : Bool := limit < neededBytes width height

/-- Whether a raster can be addressed: the bytes of a row are a positive number below `2^31`. -/
def isAddressable (width height : UInt32) : Bool :=
  width != 0 && height != 0 && width.toNat * 4 < 0x80000000

/-! ## Numbers -/

/-- The rational number of a value. -/
def rational (v : Binary.Value) : Rat :=
  match v with
  | .finite negative m q =>
    let (n, d) := Binary.scaleTwo m 1 q
    let x : Rat := mkRat n d
    if negative then -x else x
  | _ => 0

/-- The number that starts a text, and what is left behind it. -/
def number? (cs : List Char) : Option (Rat × List Char) :=
  let (negative, body) := match cs with
    | '-' :: rest => (true, rest)
    | '+' :: rest => (false, rest)
    | cs => (false, cs)
  let whole := body.takeWhile Text.isDigit
  let rest := body.drop whole.length
  let fraction := match rest with
    | '.' :: rest => '.' :: rest.takeWhile Text.isDigit
    | _ => []
  let rest := rest.drop fraction.length
  let exponent := match rest with
    | e :: rest =>
      if e = 'e' || e = 'E' then
        let (sign, digits) := match rest with
          | s :: rest => if s = '-' || s = '+' then ([s], rest) else ([], s :: rest)
          | [] => ([], [])
        let digits := digits.takeWhile Text.isDigit
        if digits.isEmpty then [] else e :: sign ++ digits
      else []
    | [] => []
  (Binary.magnitude? (whole ++ fraction ++ exponent)).map fun (digits, e) =>
    (rational (Binary.single.ofDecimal negative digits e), rest.drop exponent.length)

/-- A length in units of the drawing; a percentage is one of `whole`. -/
def length? (whole : Rat) (cs : List Char) : Option Rat := do
  let (x, unit) ← number? (Text.trimChars cs)
  match String.ofList unit with
  | "" | "px" => return x
  | "%" => return x * whole / 100
  | "in" => return x * 96
  | "cm" => return x * 96 * 100 / 254
  | "mm" => return x * 96 * 10 / 254
  | "pt" => return x * 4 / 3
  | "pc" => return x * 16
  | "em" => return x * 12
  | "ex" => return x * 6
  | _ => none

/-- Numbers with white space and commas between them. -/
def numbers? : Nat → List Char → Option (List Rat)
  | 0, _ => none
  | fuel + 1, cs =>
    let text := cs.dropWhile fun c => Element.isSpace c || c == ','
    if text.isEmpty then some []
    else do
      let (x, rest) ← number? text
      let xs ← numbers? fuel rest
      return x :: xs

/-- The nearest whole number of a number that is not negative, a half upwards. -/
def roundUp (x : Rat) : Nat := (x + 1 / 2).floor.toNat

/-- A size in pixels: the nearest whole number, at least one, as a number of 24 bits and an
exponent, at most `2^32 - 1`. -/
def pixelSize (x : Rat) : UInt32 :=
  let n := min (max 1 (roundUp x)) (UInt32.size - 1)
  let rounded := (rational (Binary.single.ofRatio false n 1)).floor.toNat
  UInt32.ofNat (min rounded (UInt32.size - 1))

/-! ## Sheets -/

/-- The attribute of an element. -/
def attribute? (e : Element) (name : String) : Option (List Char) := e.attributes.lookup name.toList

/-- The value of a property: one in the style of an element goes before its attribute. -/
def property? (e : Element) (name : String) : Option (List Char) :=
  let styles := ((attribute? e "style").map String.ofList).getD ""
  let declarations := (styles.splitOn ";").filterMap fun d =>
    match d.splitOn ":" with
    | [key, value] => some (Text.trim key, Text.trim value)
    | _ => none
  ((declarations.lookup name).map String.toList).or (attribute? e name)

/-- A sheet: its size, and the place and scale of the view on it. -/
structure Sheet where
  width : Rat
  height : Rat
  viewWidth : Rat
  viewHeight : Rat
  scale : Rat
  left : Rat
  top : Rat

/-- The view box of a drawing. -/
def viewBox? (e : Element) : Option (Rat × Rat × Rat × Rat) := do
  let value ← attribute? e "viewBox"
  match ← numbers? (value.length + 1) value with
  | [x, y, w, h] => if 0 < w && 0 < h then some (x, y, w, h) else none
  | _ => none

/-- The sheet of a drawing. A size that is missing is that of the view box, or 100. -/
def Sheet.ofElement? (e : Element) : Option Sheet :=
  let box := viewBox? e
  let size (name : String) (whole : Rat) := (((attribute? e name).bind (length? whole))).getD whole
  let width := size "width" ((box.map fun b => b.2.2.1).getD 100)
  let height := size "height" ((box.map fun b => b.2.2.2).getD 100)
  if width ≤ 0 || height ≤ 0 then none
  else
    match box with
    | none => some ⟨width, height, width, height, 1, 0, 0⟩
    | some (x, y, w, h) =>
      let scale := if width * h ≤ height * w then width / w else height / h
      some ⟨width, height, w, h, scale, (width - w * scale) / 2 - x * scale, (height - h * scale) / 2 - y * scale⟩

/-! ## Colours -/

/-- Colours with a name. -/
def namedColors : List (String × Nat) := [("black", 0), ("silver", 0xC0C0C0), ("gray", 0x808080),
  ("grey", 0x808080), ("white", 0xFFFFFF), ("maroon", 0x800000), ("red", 0xFF0000),
  ("purple", 0x800080), ("fuchsia", 0xFF00FF), ("magenta", 0xFF00FF), ("green", 0x008000),
  ("lime", 0x00FF00), ("olive", 0x808000), ("yellow", 0xFFFF00), ("navy", 0x000080),
  ("blue", 0x0000FF), ("teal", 0x008080), ("aqua", 0x00FFFF), ("cyan", 0x00FFFF),
  ("orange", 0xFFA500), ("pink", 0xFFC0CB), ("brown", 0xA52A2A), ("gold", 0xFFD700),
  ("indigo", 0x4B0082), ("violet", 0xEE82EE), ("crimson", 0xDC143C), ("coral", 0xFF7F50),
  ("salmon", 0xFA8072), ("tomato", 0xFF6347), ("khaki", 0xF0E68C), ("orchid", 0xDA70D6),
  ("plum", 0xDDA0DD), ("tan", 0xD2B48C), ("turquoise", 0x40E0D0), ("beige", 0xF5F5DC),
  ("ivory", 0xFFFFF0), ("lavender", 0xE6E6FA), ("linen", 0xFAF0E6), ("skyblue", 0x87CEEB),
  ("steelblue", 0x4682B4), ("chocolate", 0xD2691E), ("rebeccapurple", 0x663399)]

/-- The channels of a colour written with hexadecimal digits, without its sign. -/
def hexColor? (digits : List Char) : Option Color :=
  let doubled := if digits.length ≤ 4 then digits.flatMap fun d => [d, d] else digits
  match (Text.bytesOfHex? doubled ByteArray.empty).map fun b => b.data.toList with
  | some [r, g, b] => some ⟨r, g, b, 255⟩
  | some [r, g, b, a] => some ⟨r, g, b, a⟩
  | _ => none

/-- The colour of a fill; nothing is filled with `none`. -/
def fill? (value : List Char) : Option Color :=
  match Text.trimChars value with
  | '#' :: digits => hexColor? digits
  | name =>
    (namedColors.lookup (String.ofList (name.map Char.toLower))).map fun n =>
      ⟨UInt8.ofNat (n / 65536), UInt8.ofNat (n / 256), UInt8.ofNat n, 255⟩

/-- The smaller of two numbers. -/
def least (a b : Rat) : Rat := if a ≤ b then a else b

/-- The greater of two numbers. -/
def greatest (a b : Rat) : Rat := if a ≤ b then b else a

/-- A share between none and all. -/
def share (value : Option (List Char)) : Rat :=
  match value.bind (length? 1) with
  | some x => greatest 0 (least 1 x)
  | none => 1

/-! ## Drawing -/

/-- A colour times a share, its channels times its alpha. -/
def premultiplied (c : Color) (share : Rat) : Color :=
  let alpha : Rat := share * c.alpha.toNat / 255
  let channel (b : UInt8) := UInt8.ofNat (roundUp (alpha * b.toNat))
  ⟨channel c.red, channel c.green, channel c.blue, UInt8.ofNat (roundUp (alpha * 255))⟩

/-- A byte times `n / 255`. -/
def times (b : UInt8) (n : Nat) : Nat := (2 * (b.toNat * n) + 255) / 510

/-- A colour over another, where `coverage` of 255 parts of a pixel are covered; the channels of
both are times their alpha. -/
def blend (coverage : Nat) (top bottom : Color) : Color :=
  let alpha := times top.alpha coverage
  let channel (t b : UInt8) := UInt8.ofNat (min 255 (times t coverage + times b (255 - alpha)))
  ⟨channel top.red bottom.red, channel top.green bottom.green, channel top.blue bottom.blue,
    channel top.alpha bottom.alpha⟩

/-- How much of the unit from `i` on lies between two numbers. -/
def overlap (low high : Rat) (i : Nat) : Rat := greatest 0 (least high (i + 1) - greatest low i)

/-- Draws a rectangle on a raster. -/
def drawRect (width height : Nat) (canvas : Array Color) (c : Color) (x y w h : Rat) : Array Color :=
  let columns := (List.range width).filterMap fun i =>
    let part := overlap x (x + w) i
    if 0 < part then some (i, part) else none
  let rows := (List.range height).filterMap fun i =>
    let part := overlap y (y + h) i
    if 0 < part then some (i, part) else none
  rows.foldl (fun canvas (j, tall) => columns.foldl (fun canvas (i, wide) =>
    let coverage := min 255 (roundUp (256 * (tall * wide)))
    canvas.modify (j * width + i) (blend coverage c)) canvas) canvas

/-- What the elements around an element say of its fill. -/
structure Paint where
  fill : Option (List Char) := none
  fillOpacity : Option (List Char) := none
  opacity : Rat := 1

/-- What is said of the fill inside an element. -/
def Paint.inside (p : Paint) (e : Element) : Paint :=
  ⟨(property? e "fill").or p.fill, (property? e "fill-opacity").or p.fillOpacity,
    p.opacity * share (property? e "opacity")⟩

/-- Draws a rectangle element. -/
def drawElement (s : Sheet) (width height : Nat) (canvas : Array Color) (p : Paint) (e : Element) :
    Array Color :=
  let value (name : String) (whole : Rat) := ((attribute? e name).bind (length? whole)).getD 0
  let color := match p.fill with
    | none => some (⟨0, 0, 0, 255⟩ : Color)
    | some value => fill? value
  let w := value "width" s.viewWidth
  let h := value "height" s.viewHeight
  match color with
  | some c =>
    if 0 < w && 0 < h then
      drawRect width height canvas (premultiplied c (p.opacity * share p.fillOpacity))
        (value "x" s.viewWidth * s.scale + s.left) (value "y" s.viewHeight * s.scale + s.top)
        (w * s.scale) (h * s.scale)
    else canvas
  | none => canvas

mutual

/-- Draws an element and those inside it. -/
def draw (s : Sheet) (width height : Nat) (canvas : Array Color) (p : Paint) : Element → Array Color
  | .mk name attributes children =>
    let paint := p.inside (.mk name attributes [])
    match String.ofList name with
    | "rect" => drawElement s width height canvas paint (.mk name attributes [])
    | "svg" | "g" => drawAll s width height canvas paint children
    | _ => canvas

/-- Draws elements one after the other. -/
def drawAll (s : Sheet) (width height : Nat) (canvas : Array Color) (p : Paint) :
    List Element → Array Color
  | [] => canvas
  | e :: rest => drawAll s width height (draw s width height canvas p e) p rest

end

/-- A fold whose steps keep the number of pixels keeps it. -/
theorem size_foldl {α : Type} {f : Array Color → α → Array Color}
    (hf : ∀ canvas a, (f canvas a).size = canvas.size) (l : List α) (canvas : Array Color) :
    (l.foldl f canvas).size = canvas.size := by
  induction l generalizing canvas with
  | nil => rfl
  | cons a rest ih => rw [List.foldl_cons, ih, hf]

/-- A rectangle changes pixels and adds none. -/
theorem size_drawRect (width height : Nat) (canvas : Array Color) (c : Color) (x y w h : Rat) :
    (drawRect width height canvas c x y w h).size = canvas.size := by
  refine size_foldl ?_ _ canvas
  intro canvas row
  refine size_foldl ?_ _ canvas
  intro canvas column
  exact Array.size_modify

theorem size_drawElement (s : Sheet) (width height : Nat) (canvas : Array Color) (p : Paint)
    (e : Element) : (drawElement s width height canvas p e).size = canvas.size := by
  rw [drawElement]
  split
  · dsimp only
    split
    · exact size_drawRect _ _ _ _ _ _ _ _
    · rfl
  · rfl

/-- Drawing leaves the number of pixels as it is. The induction is on the element and those inside it. -/
theorem size_draw (s : Sheet) (width height : Nat) (e : Element) (canvas : Array Color) (p : Paint) :
    (draw s width height canvas p e).size = canvas.size := by
  refine @Element.rec (fun e => ∀ canvas p, (draw s width height canvas p e).size = canvas.size)
    (fun es => ∀ canvas p, (drawAll s width height canvas p es).size = canvas.size) ?_ ?_ ?_ e canvas p
  · intro name attributes children ih canvas p
    rw [draw]
    split
    · exact size_drawElement _ _ _ _ _ _
    · exact ih _ _
    · exact ih _ _
    · rfl
  · intro canvas p
    rfl
  · intro first rest hfirst hrest canvas p
    rw [drawAll, hrest, hfirst]

/-! ## Scenes -/

/-- A drawing that was read: its size, and the pixels of a canvas that it is painted on, row by row. Their
channels are times their alpha. -/
structure Scene where
  width : Rat
  height : Rat
  paint : (width height : Nat) → Array Color
  size_paint : ∀ width height, (paint width height).size = width * height

/-- The scene of a sheet. -/
def Sheet.scene (s : Sheet) (root : Element) : Scene where
  width := s.width
  height := s.height
  paint width height :=
    draw s width height (Array.replicate (width * height) ⟨0, 0, 0, 0⟩) {} root
  size_paint width height := by rw [size_draw, Array.size_replicate]

/-- The name space of drawings. -/
def nameSpace : String := "http://www.w3.org/2000/svg"

/-- The sheet and the element of a document. -/
def sheet? (text : List Char) : Option (Sheet × Element) := do
  let root ← Element.parse? text
  let isDrawing := root.name = "svg".toList &&
    (attribute? root "xmlns").all fun value => value = nameSpace.toList
  if isDrawing then return (← Sheet.ofElement? root, root) else none

/-- The scene of the rectangles in a document. -/
def rectangles? (bytes : ByteArray) : Option Scene := do
  let text ← Text.text? bytes
  let (sheet, root) ← sheet? text.toList
  return sheet.scene root

/-! ## Bitmaps of scenes -/

/-- A colour whose channels are times its alpha, with straight alpha. -/
def straight (c : Color) : Color :=
  let a := c.alpha.toNat
  let channel (b : UInt8) := UInt8.ofNat (min 255 ((b.toNat * 255 + a / 2) / a))
  if a = 0 then ⟨0, 0, 0, 0⟩ else ⟨channel c.red, channel c.green, channel c.blue, c.alpha⟩

/-- Checks that a raster of a size has a place. -/
def checkSize (width height : UInt32) (limit : UInt64) : Except Failure Unit :=
  if exceeds width height limit then .error (.tooLarge width height (neededBytes width height) limit)
  else if isAddressable width height then .ok ()
  else .error (.invalidSize width height)

/-- The bitmap of a canvas, whose channels are times their alpha. -/
def bitmapOf? (width height : Nat) (canvas : Array Color) : Option Bitmap :=
  Bitmap.ofPixels? width height (Png.colorBytes (canvas.map straight))

/-- The bitmap of a drawing that needs at most `limit` bytes, when drawings are read with `scene?`. -/
def decode (scene? : ByteArray → Option Scene) (limit : UInt64) (bytes : ByteArray) :
    Except Failure Bitmap :=
  match scene? bytes with
  | none => .error .malformed
  | some scene => do
    let w := pixelSize scene.width
    let h := pixelSize scene.height
    checkSize w h limit
    match bitmapOf? w.toNat h.toNat (scene.paint w.toNat h.toNat) with
    | some bitmap => return bitmap
    | none => .error .sizeMismatch

end Formulary.Raster.Svg
