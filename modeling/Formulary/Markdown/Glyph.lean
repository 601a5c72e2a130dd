import Formulary.Location.Range
import Formulary.Text.Bytes

/-!
# Glyphs — characters that know their place

A reader of markup takes a text apart and puts pieces of it together again; each piece has to know
where it stood. A glyph is a character with its line, the column of its first byte, and the number
of bytes of the line that it stands for. An escaped character stands for two, a character reference
for its whole text.

* `lines` — the lines of a text, each with its line end.
* `place` — the glyphs of characters that stand one after the other.
* `spanRange` — the range from the first to the last glyph of a run.
-/

namespace Formulary.Markdown

/-- A character and the piece of a line it stands for. -/
structure Glyph where
  char : Char
  line : Nat
  column : Nat
  width : Nat
deriving DecidableEq, Repr, Inhabited

/-- The column of the last byte that a glyph stands for. -/
def Glyph.lastColumn (g : Glyph) : Nat := g.column + g.width - 1

/-- The glyphs of characters that start at a column of a line. -/
def place (line column : Nat) : List Char → List Glyph
  | [] => []
  | c :: rest => ⟨c, line, column, c.utf8Size⟩ :: place line (column + c.utf8Size) rest

/-- The characters of glyphs. -/
def charsOf (gs : List Glyph) : List Char := gs.map Glyph.char

/-- The text of glyphs. -/
def textOf (gs : List Glyph) : String := String.ofList (charsOf gs)

/-- The range from one glyph to another. -/
def rangeBetween (first last : Glyph) : SourceRange :=
  .ofCoords first.line first.column last.line last.lastColumn

/-- The range of a run of glyphs. -/
def spanRange (gs : List Glyph) : SourceRange :=
  match gs, gs.getLast? with
  | first :: _, some last => rangeBetween first last
  | _, _ => default

/-- Whether a character ends a line. -/
def isLineEnd (c : Char) : Bool := c == '\n' || c == '\r'

/-- Whether a character is a space or a tab. -/
def isSpaceOrTab (c : Char) : Bool := c == ' ' || c == '\t'

/-- Whether a character is white space of the ASCII class. -/
def isAsciiSpace (c : Char) : Bool := c == ' ' || ('\t' ≤ c && c ≤ '\r')

/-- Whether a character is punctuation of the ASCII class. -/
def isAsciiPunctuation (c : Char) : Bool :=
  ('!' ≤ c && c ≤ '/') || (':' ≤ c && c ≤ '@') || ('[' ≤ c && c ≤ '`') || ('\x7b' ≤ c && c ≤ '~')

/-- Whether a character is a letter of the ASCII class. -/
def isAsciiLetter (c : Char) : Bool := ('a' ≤ c && c ≤ 'z') || ('A' ≤ c && c ≤ 'Z')

/-- Whether a character is a letter or a digit of the ASCII class. -/
def isAsciiAlphanumeric (c : Char) : Bool := isAsciiLetter c || ('0' ≤ c && c ≤ '9')

/-- The lines of a text, where `line` holds the characters, last first, of the line being read. -/
def linesFrom (line : List Char) : List Char → List (List Char)
  | [] => if line.isEmpty then [] else [line.reverse]
  | '\r' :: '\n' :: rest => ('\n' :: '\r' :: line).reverse :: linesFrom [] rest
  | c :: rest =>
    if isLineEnd c then (c :: line).reverse :: linesFrom [] rest else linesFrom (c :: line) rest

/-- The lines of a text, each with its line end: a line feed, a carriage return or both. -/
def lines (s : String) : List (List Char) := linesFrom [] s.toList

/-- The number of bytes of a line in front of its line end. -/
def lineWidth (line : List Char) : Nat := Text.byteSize (line.takeWhile fun c => !isLineEnd c)

/-- Characters without white space of the ASCII class at both ends. -/
def trimAscii (cs : List Char) : List Char :=
  ((cs.dropWhile isAsciiSpace).reverse.dropWhile isAsciiSpace).reverse

/-- A run without the glyphs behind it that satisfy `p`. -/
def dropRightWhile (p : Char → Bool) (gs : List Glyph) : List Glyph :=
  (gs.reverse.dropWhile fun g => p g.char).reverse

end Formulary.Markdown
