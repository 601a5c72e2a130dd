import Formulary.Markdown.Glyph

/-!
# Cursors — reading a line on a grid of tab stops

Indentation is counted in columns of a grid on which a tab reaches to the next multiple of four. A
marker may take some columns of a tab and leave the others, so a cursor holds what is left of a line
and the column of the grid that it has reached.

* `Cursor.skip` — moves over characters.
* `Cursor.skipColumns` — moves over columns.
* `Cursor.indent`, `Cursor.text` — the columns up to the first character that is no blank, and the
  line from there.
* `Cursor.remaining` — what is left, the columns left of a tab taken in part as spaces.
-/

namespace Formulary.Markdown

/-- What is left of a line, and the column reached; `midTab` says that a part of the tab in front
has been taken. -/
structure Cursor where
  rest : List Glyph
  column : Nat := 0
  midTab : Bool := false
deriving Repr, Inhabited

namespace Cursor

/-- The columns from `column` to the next tab stop. -/
def toTabStop (column : Nat) : Nat := 4 - column % 4

/-- Moves over a number of characters. -/
def skip : Nat → Cursor → Cursor
  | 0, c => c
  | n + 1, c =>
    match c.rest with
    | [] => c
    | g :: rest =>
      skip n { rest, column := c.column + (if g.char = '\t' then toTabStop c.column else g.width) }

/-- Moves over a number of columns of a line. -/
def skipColumnsFrom (column n : Nat) : List Glyph → Cursor
  | [] => { rest := [], column }
  | g :: rest =>
    if n = 0 then { rest := g :: rest, column }
    else if g.char = '\t' then
      if n < toTabStop column then { rest := g :: rest, column := column + n, midTab := true }
      else skipColumnsFrom (column + toTabStop column) (n - toTabStop column) rest
    else skipColumnsFrom (column + 1) (n - 1) rest

/-- Moves over a number of columns. -/
def skipColumns (n : Nat) (c : Cursor) : Cursor :=
  if n = 0 then c else skipColumnsFrom c.column n c.rest

/-- The column and the rest of a line behind the spaces and tabs in front. -/
def skipBlanks (column : Nat) : List Glyph → Nat × List Glyph
  | [] => (column, [])
  | g :: rest =>
    if g.char = ' ' then skipBlanks (column + 1) rest
    else if g.char = '\t' then skipBlanks (column + toTabStop column) rest
    else (column, g :: rest)

/-- The number of columns in front of the text. -/
def indent (c : Cursor) : Nat := (skipBlanks c.column c.rest).1 - c.column

/-- The line from its first character on that is neither space nor tab. -/
def text (c : Cursor) : List Glyph := (skipBlanks c.column c.rest).2

/-- The cursor at the text. -/
def toText (c : Cursor) : Cursor :=
  let (column, rest) := skipBlanks c.column c.rest
  { rest, column }

/-- Whether nothing but blanks is left. -/
def isBlank (c : Cursor) : Bool := c.text.head?.all fun g => isLineEnd g.char

/-- Whether a space or a tab is in front. -/
def atBlank (c : Cursor) : Bool := c.rest.head?.any fun g => isSpaceOrTab g.char

/-- Moves over one column if a space or a tab is in front. -/
def skipOptionalBlank (c : Cursor) : Cursor := if c.atBlank then c.skipColumns 1 else c

/-- Moves over at most `n` columns of spaces and tabs. -/
def skipUpTo : Nat → Cursor → Cursor
  | 0, c => c
  | n + 1, c => if c.atBlank then skipUpTo n (c.skipColumns 1) else c

/-- What is left of the line. -/
def remaining (c : Cursor) : List Glyph :=
  match c.midTab, c.rest with
  | true, tab :: rest =>
    List.replicate (toTabStop c.column) ({ tab with char := ' ' } : Glyph) ++ rest
  | _, rest => rest

end Cursor
end Formulary.Markdown
