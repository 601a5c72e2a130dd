import Formulary.Markdown.Inline
import Formulary.Markdown.Prose
import Formulary.Markdown.Reader

/-!
# Documents — from a text to its tree

The blocks of a text are read first, because a definition may stand behind the links that use it.
Then the text of each block is read. Footnotes that are referred to stand at the end, in the order
of the first reference; the others are left out.

* `Block.mapContent` — a function applied to all contents.
* `footnotesOf` — the footnotes of a document by their labels.
* `parse` — the tree of a text.
-/

namespace Formulary.Markdown

open Markup

namespace Block

variable {α β : Type}

mutual

/-- Applies a function to the contents of a block and all blocks inside it. -/
def mapContent (f : α → β) : Block α → Block β
  | mk kind start stop content children => mk kind start stop (f content) (mapContents f children)

/-- Applies a function to the contents of blocks and all blocks inside them. -/
def mapContents (f : α → β) : List (Block α) → List (Block β)
  | [] => []
  | b :: rest => b.mapContent f :: mapContents f rest

end

mutual

/-- The contents of a block and all blocks inside it, in their order. -/
def contents : Block α → List α
  | mk _ _ _ content children => content :: allContents children

/-- The contents of blocks and all blocks inside them, in their order. -/
def allContents : List (Block α) → List α
  | [] => []
  | b :: rest => b.contents ++ allContents rest

end

mutual

/-- The footnotes in a block, outside each other, with their labels. -/
def footnotes : Block α → List (List Char × Block α)
  | mk kind start stop content children =>
    match kind with
    | .footnote label => [(labelKey label, mk kind start stop content children)]
    | _ => allFootnotes children

/-- The footnotes in blocks, outside each other, with their labels. -/
def allFootnotes : List (Block α) → List (List Char × Block α)
  | [] => []
  | b :: rest => b.footnotes ++ allFootnotes rest

end

mutual

/-- A block without the footnotes in it. -/
def withoutFootnotes : Block α → Block α
  | mk kind start stop content children =>
    mk kind start stop content (allWithoutFootnotes children)

/-- Blocks without the footnotes among and in them. -/
def allWithoutFootnotes : List (Block α) → List (Block α)
  | [] => []
  | b :: rest =>
    match b.kind with
    | .footnote _ => allWithoutFootnotes rest
    | _ => b.withoutFootnotes :: allWithoutFootnotes rest

end

end Block

/-- The kind of node that a block becomes. -/
def BlockKind.nodeKind : BlockKind → NodeKind
  | .code info literal => .codeBlock info literal
  | .heading level => .heading level
  | _ => .other

/-- The range of a block with the nodes in it. A block that stops in front of a line stops with the
last node in it. -/
def blockRange (start stop : Place) (children : List Node) : SourceRange :=
  match children.getLast? with
  | some last =>
    if stop.column = 0 then ⟨.ofNat start.line start.column, last.range.stop⟩
    else .ofCoords start.line start.column stop.line stop.column
  | none => .ofCoords start.line start.column stop.line stop.column

/-- The blocks of a list item with the box of a task taken off its first paragraph. -/
def withoutTask : List (Block (List Inline)) → List (Block (List Inline))
  | .mk .paragraph start stop pieces children :: rest =>
    match taskRest? pieces with
    | some (_, []) => rest
    | some (column, pieces) => .mk .paragraph ⟨start.line, column⟩ stop pieces children :: rest
    | none => .mk .paragraph start stop pieces children :: rest
  | blocks => blocks

mutual

/-- The node of a block. -/
def blockNode : Block (List Inline) → Node
  | .mk kind start stop pieces children =>
    let nodes := nodesOf pieces ++ blockNodes children
    .mk (kindWith kind.nodeKind nodes) (blockRange start stop nodes) nodes

/-- The nodes of blocks. -/
def blockNodes : List (Block (List Inline)) → List Node
  | [] => []
  | b :: rest => blockNode b :: blockNodes rest

end

mutual

/-- A block whose list items have no boxes of tasks. -/
def withoutTasks : Block (List Inline) → Block (List Inline)
  | .mk kind start stop pieces children =>
    let children := allWithoutTasks children
    .mk kind start stop pieces (match kind with | .item _ => withoutTask children | _ => children)

/-- Blocks whose list items have no boxes of tasks. -/
def allWithoutTasks : List (Block (List Inline)) → List (Block (List Inline))
  | [] => []
  | b :: rest => withoutTasks b :: allWithoutTasks rest

end

/-- The footnotes that labels refer to, in the order of the first reference; of two footnotes with
one label the second counts. -/
def usedFootnotes (footnotes : List (List Char × Block (List Inline))) (labels : List (List Char)) :
    List (Block (List Inline)) :=
  labels.eraseDups.filterMap fun label => footnotes.reverse.lookup label

/-- The node of a whole document, whose range is kept as it is. -/
def documentNode : Block (List Inline) → Node
  | .mk _ start stop _ children =>
    let nodes := blockNodes children
    .mk (kindWith .other nodes) (.ofCoords start.line start.column stop.line stop.column) nodes

/-- The tree of a text. -/
def parse (text : String) : Node :=
  let reader := Reader.read (lines text)
  let document := reader.document.mapContent (inlines reader.allDefinitions)
  let footnotes := document.footnotes
  let isDefined (label : List Char) : Bool := (footnotes.lookup (labelKey label)).isSome
  let labels := (document.contents.flatMap footnoteLabels).map labelKey
  let used := usedFootnotes footnotes labels
  let resolve (b : Block (List Inline)) := withoutTasks (b.mapContent (resolveFootnotes isDefined))
  match document.withoutFootnotes with
  | .mk kind start stop content children =>
    documentNode (resolve (.mk kind start stop content
      (children ++ used.map Block.withoutFootnotes)))

end Formulary.Markdown
