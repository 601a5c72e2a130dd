import Formulary.Markdown.Autolink
import Formulary.Markdown.Emphasis
import Formulary.Markdown.Escape

/-!
# Prose — from pieces to nodes

Texts that stand next to each other are one text. Mail addresses in it are links, except inside a
link; a text at the start of a list item may hold the box of a task.

* `nodesOf` — the nodes of pieces.
* `taskRest?` — the pieces behind the box of a task.
* `footnoteLabels`, `resolveFootnotes` — the references to footnotes among pieces.
-/

namespace Formulary.Markdown

open Markup

/-- The node of a text. -/
def textNode (gs : List Glyph) : Node := .mk (.text (textOf gs)) (spanRange gs) []

/-- The node of a text, unless it is empty. -/
def textNodes (gs : List Glyph) : List Node := if gs.isEmpty then [] else [textNode gs]

/-- The mail address in a text: the glyphs in front, its own and those behind. `before` holds the
reversed glyphs passed, and `depth` counts the brackets opened in them. -/
def mailIn? (depth : Int) (before : List Glyph) :
    List Glyph → Option (List Glyph × List Glyph × List Glyph)
  | [] => none
  | g :: rest =>
    let depth := if g.char = '[' then depth + 1 else if g.char = ']' then depth - 1 else depth
    match if g.char = '@' && depth ≤ 0 then mail? (charsOf before) (charsOf (g :: rest)) else none with
    | some (back, n) =>
      some ((before.drop back).reverse, (before.take back).reverse ++ (g :: rest).take n,
        (g :: rest).drop n)
    | none => mailIn? depth (g :: before) rest

/-- The nodes of a text whose mail addresses are links. -/
def mailNodes : Nat → List Glyph → List Node
  | 0, gs => textNodes gs
  | fuel + 1, gs =>
    match mailIn? 0 [] gs with
    | some (front, address, rest) =>
      textNodes front ++ .mk .container (spanRange address) [textNode address] ::
        mailNodes fuel rest
    | none => textNodes gs

/-- The nodes of a text, whose glyphs are given last first. -/
def proseNodes (inLink : Bool) (reversed : List Glyph) : List Node :=
  if inLink then textNodes reversed.reverse else mailNodes reversed.length reversed.reverse

/-- The kind of a node that has the given children. -/
def kindWith (kind : NodeKind) (children : List Node) : NodeKind :=
  match kind with
  | .other => if children.isEmpty then .other else .container
  | kind => kind

mutual

/-- The node of a piece that is no text. -/
def nodeOf : Inline → Node
  | .text gs => textNode gs
  | .tag gs => .mk .other (spanRange gs) []
  | .footnote _ range => .mk .other range []
  | .node kind range children =>
    let isImage := match kind with | .image .. => true | _ => false
    let nodes := nodesFrom isImage [] children
    .mk (kindWith kind nodes) range nodes
  | .link range children =>
    let nodes := nodesFrom true [] children
    .mk (kindWith .other nodes) range nodes

/-- The nodes of pieces, `text` being the reversed glyphs of the text in front of them. -/
def nodesFrom (inLink : Bool) (text : List Glyph) : List Inline → List Node
  | [] => proseNodes inLink text
  | .text gs :: rest => nodesFrom inLink (gs.reverse ++ text) rest
  | i :: rest => proseNodes inLink text ++ nodeOf i :: nodesFrom inLink [] rest

end

/-- The nodes of the pieces of a paragraph. -/
def nodesOf (pieces : List Inline) : List Node := nodesFrom false [] pieces

/-- The glyphs of the text that pieces start with, and the pieces behind it. -/
def leadingText : List Inline → List Glyph × List Inline
  | .text gs :: rest =>
    let (more, rest) := leadingText rest
    (gs ++ more, rest)
  | pieces => ([], pieces)

/-- The number of glyphs of the box of a task that a text starts with: white space, a box that is
empty or marked, and white space or the end of the text. -/
def taskBox? (cs : List Char) : Option Nat :=
  let text := cs.dropWhile isAsciiSpace
  match text with
  | '[' :: mark :: ']' :: rest =>
    if [' ', 'x', 'X'].contains mark && rest.head?.all isAsciiSpace then
      some (cs.length - rest.length + (if rest.isEmpty then 0 else 1))
    else none
  | _ => none

/-- The pieces behind the box of a task, and the column at which they start. -/
def taskRest? (pieces : List Inline) : Option (Nat × List Inline) := do
  let (text, rest) := leadingText pieces
  let n ← taskBox? (charsOf text)
  let last ← (text.take n).getLast?
  some (last.lastColumn + 1, if n < text.length then .text (text.drop n) :: rest else rest)

mutual

/-- The labels of the footnotes that a piece refers to, in their order. -/
def footnoteLabelsOf : Inline → List (List Char)
  | .footnote label _ => [label]
  | .node _ _ children | .link _ children => footnoteLabels children
  | .text _ | .tag _ => []

/-- The labels of the footnotes that pieces refer to, in their order. -/
def footnoteLabels : List Inline → List (List Char)
  | [] => []
  | i :: rest => footnoteLabelsOf i ++ footnoteLabels rest

end

/-- The text of a reference to a footnote that does not exist. -/
def footnoteText (label : List Char) (range : SourceRange) : List Glyph :=
  let cs := '[' :: '^' :: label ++ [']']
  place range.start.line.toNat range.start.column.toNat cs

mutual

/-- A piece whose references to footnotes that are not `defined` are text. -/
def resolveFootnote (defined : List Char → Bool) : Inline → Inline
  | .footnote label range =>
    if defined label then .footnote label range else .text (footnoteText label range)
  | .node kind range children => .node kind range (resolveFootnotes defined children)
  | .link range children => .link range (resolveFootnotes defined children)
  | .text gs => .text gs
  | .tag gs => .tag gs

/-- Pieces whose references to footnotes that are not `defined` are text. -/
def resolveFootnotes (defined : List Char → Bool) : List Inline → List Inline
  | [] => []
  | i :: rest => resolveFootnote defined i :: resolveFootnotes defined rest

end

end Formulary.Markdown
