import Formulary.Location.Range
import Formulary.Text.Whitespace

/-!
# Document trees — what a markup reader makes of a text

A tree has nodes of a few kinds, each with its range in the text. Readers of any markup produce
such trees, and all later stages work on them.

* `Node` — a kind, a range and the nodes inside.
* `Node.preorder` — the node and all nodes inside it, each before those inside it.
* `Node.plainText` — the text inside a node.
-/

namespace Formulary.Markup

/-- The kinds of nodes. -/
inductive NodeKind where
  | codeBlock (info literal : String)
  | inlineCode (literal : String)
  | image (source title : String)
  | text (literal : String)
  | heading (level : Nat)
  | container
  | lineBreak
  | other
deriving DecidableEq, Repr, Inhabited

/-- The language of a code block: the first word of its info text. -/
def NodeKind.language? : NodeKind → Option String
  | codeBlock info _ => (Text.words info).head?
  | _ => none

/-- A node of a document tree. -/
inductive Node where
  | mk (kind : NodeKind) (range : SourceRange) (children : List Node)
deriving Repr, Inhabited

namespace Node

/-- The kind of a node. -/
def kind : Node → NodeKind
  | mk kind _ _ => kind

/-- The range of a node. -/
def range : Node → SourceRange
  | mk _ range _ => range

/-- The nodes directly inside a node. -/
def children : Node → List Node
  | mk _ _ children => children

mutual

/-- A node and all nodes inside it, each before those inside it. -/
def preorder : Node → List Node
  | mk kind range children => mk kind range children :: preorderAll children

/-- The nodes of a list and all nodes inside them, in the same order. -/
def preorderAll : List Node → List Node
  | [] => []
  | n :: rest => n.preorder ++ preorderAll rest

end

/-- What a node of its own adds to the text: texts and code spans their literals, a line break a
space. -/
def ownText (n : Node) : String :=
  match n.kind with
  | .text literal | .inlineCode literal => literal
  | .lineBreak => " "
  | _ => ""

/-- The text inside a node. -/
def plainText (n : Node) : String := String.join ((preorderAll n.children).map ownText)

end Node
end Formulary.Markup
