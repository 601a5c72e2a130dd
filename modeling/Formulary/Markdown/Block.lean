import Formulary.Markdown.Link

/-!
# Blocks — the parts of a document before their text is read

A document is read line by line. Blocks that may go on in the next line are open; they form a path
from the document to the innermost one. Closed blocks form a tree.

* `BlockKind` — the kinds of blocks, with what decides how they go on.
* `BlockKind.holds` — which blocks may stand directly inside another.
* `Block` — a closed block with a content of some type.
* `OpenBlock` — an open block: its closed children and the lines read, the last ones first.
-/

namespace Formulary.Markdown

/-- What marks the items of a list: a bullet, or the sign behind a number. -/
structure ListMarker where
  isNumber : Bool
  sign : Char
deriving DecidableEq, Repr, Inhabited

/-- The kinds of blocks. An `indent` is the number of columns in front of the lines that belong to a
block; a fence has a length and columns in front of it. -/
inductive BlockKind where
  | document
  | quote
  | fencedQuote (length : Nat) (offset : Nat)
  | list (marker : ListMarker)
  | item (indent : Nat)
  | definitionList
  | definitionItem (indent : Nat)
  | term
  | details
  | footnote (label : List Char)
  | fencedCode (fence : Char) (length : Nat) (offset : Nat) (info : String)
  | indentedCode
  | code (info : String) (literal : String)
  | html (kind : Nat)
  | paragraph
  | heading (level : Nat)
  | thematicBreak
  | table (columns : Nat)
  | row
  | cell
deriving DecidableEq, Repr, Inhabited

namespace BlockKind

/-- Whether a block may stand directly inside another. -/
def holds (outer inner : BlockKind) : Bool :=
  match outer, inner with
  | list _, item _ => true
  | list _, _ => false
  | definitionList, definitionItem _ => true
  | definitionList, _ => false
  | definitionItem _, details => true
  | definitionItem _, _ => false
  | table _, row => true
  | table _, _ => false
  | document, item _ | quote, item _ | fencedQuote .., item _ | item _, item _ | details, item _
  | footnote _, item _ => false
  | document, _ | quote, _ | fencedQuote .., _ | item _, _ | details, _ | footnote _, _ => true
  | _, _ => false

/-- Whether the lines of a block are taken as they stand. -/
def isVerbatim : BlockKind → Bool
  | fencedCode .. | indentedCode | html _ => true
  | _ => false

/-- Whether a block is an item of a definition list. -/
def isDefinitionItem : BlockKind → Bool
  | definitionItem _ => true
  | _ => false

end BlockKind

/-- A position of a document: a line and a column. -/
structure Place where
  line : Nat
  column : Nat
deriving DecidableEq, Repr, Inhabited

/-- The place of a glyph. -/
def Glyph.place (g : Glyph) : Place := ⟨g.line, g.column⟩

/-- The place of the last byte of a glyph. -/
def Glyph.lastPlace (g : Glyph) : Place := ⟨g.line, g.lastColumn⟩

/-- A closed block. -/
inductive Block (α : Type) where
  | mk (kind : BlockKind) (start stop : Place) (content : α) (children : List (Block α))

namespace Block

variable {α : Type}

/-- The kind of a block. -/
def kind : Block α → BlockKind
  | mk kind .. => kind

/-- Where a block starts. -/
def start : Block α → Place
  | mk _ start .. => start

/-- Where a block stops. -/
def stop : Block α → Place
  | mk _ _ stop .. => stop

/-- The blocks directly inside a block. -/
def children : Block α → List (Block α)
  | mk _ _ _ _ children => children

end Block

/-- A block whose text has not been read. -/
abbrev RawBlock : Type := Block (List Glyph)

/-- An open block. -/
structure OpenBlock where
  kind : BlockKind
  start : Place
  children : List RawBlock := []
  lines : List (List Glyph) := []
  triedTable : Bool := false
deriving Inhabited

namespace OpenBlock

/-- The content read so far. -/
def content (b : OpenBlock) : List Glyph := b.lines.reverse.flatten

/-- Adds a line. -/
def addLine (b : OpenBlock) (line : List Glyph) : OpenBlock :=
  if line.isEmpty then b else { b with lines := line :: b.lines }

/-- Adds a closed block. -/
def addChild (b : OpenBlock) (child : RawBlock) : OpenBlock :=
  { b with children := child :: b.children }

/-- Opens a closed block again. -/
def reopen (b : RawBlock) : OpenBlock :=
  { kind := b.kind, start := b.start, children := b.children.reverse }

/-- Whether a line holds nothing but white space. -/
def isBlankLine (line : List Glyph) : Bool := line.all fun g => isAsciiSpace g.char

/-- The text of lines without the blank ones behind. -/
def withoutBlankLines (lines : List (List Glyph)) : List Glyph :=
  dropRightWhile isLineEnd (lines.dropWhile isBlankLine).reverse.flatten

/-- Closes a block that stops at a place: the definitions at the start of a paragraph, and the block
with what is left, unless that is nothing. -/
def close (b : OpenBlock) (stop : Place) : List Definition × Option RawBlock :=
  let block (kind : BlockKind) (start stop : Place) (content : List Glyph) : RawBlock :=
    .mk kind start stop content b.children.reverse
  match b.kind with
  | .paragraph =>
    let content := b.content
    let (definitions, left) := definitionsOf content.length content
    match left with
    | [] => (definitions, none)
    | g :: _ =>
      if isBlankLine left then (definitions, none)
      else
        let start := if definitions.isEmpty then b.start else g.place
        (definitions, some (block b.kind start stop left))
  | .fencedCode _ _ _ info => ([], some (block (.code info (textOf b.content)) b.start stop []))
  | .indentedCode =>
    ([], some (block (.code "" (textOf (withoutBlankLines b.lines) ++ "\n")) b.start stop []))
  | .html _ =>
    let stop := ((withoutBlankLines b.lines).getLast?.map Glyph.lastPlace).getD stop
    ([], some (block b.kind b.start stop []))
  | kind => ([], some (block kind b.start stop []))

end OpenBlock
end Formulary.Markdown
