import Formulary.Markup.Tree

/-!
# Alterations — trees as a faulty reader would make them

A markup reader may lose a code span, double it, or take it for text. These alterations of a tree
show what a document makes of it.

* `Node.codeCount` — the number of code spans in a tree.
* `Node.alter` — a tree with its nth code span altered.
-/

namespace Formulary.Markup

/-- What happens to a code span: it is lost, it comes a second time as the last child of its parent,
or it is text. -/
inductive Alteration where
  | drop
  | duplicate
  | toText
deriving DecidableEq, Repr

namespace Node

/-- Whether a node is a code span. -/
def isCode (n : Node) : Bool :=
  match n.kind with
  | .inlineCode _ => true
  | _ => false

/-- The number of code spans among a node and all nodes inside it. -/
def codeCount (n : Node) : Nat := n.preorder.countP isCode

/-- The siblings that a code span and those behind it become. -/
def alterAt (a : Alteration) (code : Node) (rest : List Node) : List Node :=
  match a with
  | .drop => rest
  | .duplicate => code :: rest ++ [code]
  | .toText => mk (.text code.ownText) code.range code.children :: rest

mutual

/-- A node whose nth code span, in the order of their places, is altered. -/
def alter (a : Alteration) (n : Nat) : Node → Node
  | mk kind range children => mk kind range (alterAll a n children)

/-- Siblings among and in which the nth code span is altered. -/
def alterAll (a : Alteration) (n : Nat) : List Node → List Node
  | [] => []
  | c :: rest =>
    if c.isCode && n = 0 then alterAt a c rest
    else if n < c.codeCount then c.alter a (n - if c.isCode then 1 else 0) :: rest
    else c :: alterAll a (n - c.codeCount) rest

end

end Node
end Formulary.Markup
