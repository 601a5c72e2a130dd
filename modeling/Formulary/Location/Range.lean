import Formulary.Text.Digits
import Formulary.Text.Split

/-!
# Source ranges — where a piece of a document stands

A range has a first and a last position, each a line and a column of 64 bits. It is written
`line:column-line:column`, and this text is the key under which results are kept.

* `SourceRange.key` — the written form.
* `SourceRange.parse` — reads it: the text is cut at its first hyphen, each half at its first
  colon, and each of the four pieces is an optional plus sign with digits of a value below `2^64`.
* `SourceRange.lt` — ranges in order of their four coordinates.
-/

namespace Formulary

/-- A position in a text: a line and a column. -/
structure LineColumn where
  line : UInt64
  column : UInt64
deriving DecidableEq, Repr, Inhabited, Hashable

/-- A range of a text from its first to its last position. -/
structure SourceRange where
  start : LineColumn
  stop : LineColumn
deriving DecidableEq, Repr, Inhabited, Hashable

namespace LineColumn

/-- The position of a line and a column. -/
def ofNat (line column : Nat) : LineColumn := ⟨UInt64.ofNat line, UInt64.ofNat column⟩

/-- Positions are ordered by line, then by column. -/
def lt (a b : LineColumn) : Bool := a.line < b.line || (a.line == b.line && a.column < b.column)

/-- The characters `line:column`. -/
def toChars (p : LineColumn) : List Char :=
  Nat.toDigits 10 p.line.toNat ++ ':' :: Nat.toDigits 10 p.column.toNat

end LineColumn

namespace SourceRange

/-- The range of four coordinates. -/
def ofCoords (startLine startColumn stopLine stopColumn : Nat) : SourceRange :=
  ⟨.ofNat startLine startColumn, .ofNat stopLine stopColumn⟩

/-- Ranges are ordered by their first, then by their last position. -/
def lt (a b : SourceRange) : Bool :=
  a.start.lt b.start || (a.start == b.start && a.stop.lt b.stop)

/-- The characters of the written form. -/
def toChars (r : SourceRange) : List Char := r.start.toChars ++ '-' :: r.stop.toChars

/-- The written form, under which results are kept. -/
def key (r : SourceRange) : String := String.ofList r.toChars

instance : ToString SourceRange := ⟨key⟩

/-- A text that is no range. -/
structure ParseError where
  input : String
deriving DecidableEq, Repr

/-- The text of the error. -/
def ParseError.message (e : ParseError) : String := "invalid source range `" ++ e.input ++ "`"

/-- One coordinate: an optional plus sign and digits of a value below `2^64`. -/
def coordinate? (cs : List Char) : Option UInt64 :=
  (Text.decimalBelow? UInt64.size cs).map UInt64.ofNat

/-- A position `line:column`. -/
def position? (cs : List Char) : Option LineColumn := do
  let (line, column) ← Text.splitOnce ':' cs
  return ⟨← coordinate? line, ← coordinate? column⟩

/-- The range that characters are the written form of. -/
def ofChars? (cs : List Char) : Option SourceRange := do
  let (start, stop) ← Text.splitOnce '-' cs
  return ⟨← position? start, ← position? stop⟩

/-- Reads a written range. -/
def parse (s : String) : Except ParseError SourceRange :=
  match ofChars? s.toList with
  | some r => .ok r
  | none => .error ⟨s⟩

/-- Ranges in increasing order; equal ones keep their places. -/
def sort (rs : List SourceRange) : List SourceRange := rs.mergeSort fun a b => !b.lt a

end SourceRange
end Formulary
