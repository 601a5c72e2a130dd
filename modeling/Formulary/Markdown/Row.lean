import Formulary.Markdown.Glyph
import Formulary.Text.Bytes

/-!
# Table rows — a line cut at its pipes

A pipe behind a backslash belongs to its cell. Offsets count bytes from the start of the row.

* `Cell` — where a cell and its content start, where it stops, and its content.
* `cells?` — the cells of a row.
* `isDelimiterRow` — whether cells are the line below the head of a table.
-/

namespace Formulary.Markdown

/-- A cell of a row. Its content stands without blanks around it, and without the backslashes in
front of pipes; `stop` is the offset behind the cell. -/
structure Cell where
  start : Nat
  contentStart : Nat
  stop : Nat
  content : List Char
deriving Repr, Inhabited

/-- The characters up to the next pipe that has no backslash in front, or to the line end, and what
is left. -/
def cellChars : List Char → List Char × List Char
  | '\\' :: '|' :: rest =>
    let (cell, rest) := cellChars rest
    ('\\' :: '|' :: cell, rest)
  | c :: rest =>
    if c = '|' || isLineEnd c then ([], c :: rest)
    else
      let (cell, rest) := cellChars rest
      (c :: cell, rest)
  | [] => ([], [])

/-- Characters without the backslashes in front of pipes. -/
def resolvePipes : List Char → List Char
  | '\\' :: '|' :: rest => '|' :: resolvePipes rest
  | c :: rest => c :: resolvePipes rest
  | [] => []

/-- Whether a character may stand around the content of a cell. -/
def isCellBlank (c : Char) : Bool := isSpaceOrTab c || c == '\x0b' || c == '\x0c'

/-- The cells of what is left of a row; the cell in front starts at `start`, its content at
`offset`. -/
def cellsFrom : Nat → Nat → Nat → List Char → List Cell
  | 0, _, _, _ => []
  | fuel + 1, start, offset, cs =>
    let (cell, rest) := cellChars cs
    let stop := offset + Text.byteSize cell
    let this : Cell := ⟨start, offset, stop, trimAscii (resolvePipes cell)⟩
    match rest with
    | '|' :: rest =>
      let blanks := (rest.takeWhile isCellBlank).length
      this :: cellsFrom fuel (stop + 1) (stop + 1 + blanks) (rest.drop blanks)
    | _ => if cell.isEmpty then [] else [this]

/-- The cells of a row, or nothing where there are none. -/
def cells? (row : List Char) : Option (List Cell) :=
  let cells := match row with
    | '|' :: rest =>
      let blanks := (rest.takeWhile isCellBlank).length
      cellsFrom (row.length + 1) 1 (1 + blanks) (rest.drop blanks)
    | _ => cellsFrom (row.length + 1) 0 0 row
  if cells.isEmpty then none else some cells

/-- Whether the content of a cell is a line of hyphens, with or without colons at its ends. -/
def isDelimiter (content : List Char) : Bool :=
  let inner := if content.head? = some ':' then content.drop 1 else content
  let inner := if inner.getLast? = some ':' then inner.dropLast else inner
  !inner.isEmpty && inner.all (· == '-')

/-- Whether cells are the line below the head of a table. -/
def isDelimiterRow (cells : List Cell) : Bool := cells.all fun cell => isDelimiter cell.content

end Formulary.Markdown
