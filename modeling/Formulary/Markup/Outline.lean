import Formulary.Entry.Basic
import Formulary.Location.Map
import Formulary.Markup.Tree

/-!
# Outlines — the headings of a document

* `Heading` — the level, the range and the text of a heading, formulas between dollar signs.
* `outline` — the headings of a tree in their order.
* `Heading.markdown` — a heading as a line, indented by its level.
-/

namespace Formulary.Markup

/-- A heading of a document. -/
structure Heading where
  level : Nat
  range : SourceRange
  text : String
deriving DecidableEq, Repr, Inhabited

/-- A heading as a line: three spaces for each level above, then the signs of the level. -/
def Heading.markdown (h : Heading) : String :=
  let depth := max h.level 1
  String.ofList (List.replicate (3 * (depth - 1)) ' ' ++ List.replicate depth '#' ++ [' ']) ++
    h.text

/-- What a node adds to the text of a heading: a code span whose range holds a formula is shown as
the formula between dollar signs. -/
def headingPiece (math : RangeMap MathEntry) (n : Node) : String :=
  match n.kind with
  | .inlineCode _ =>
    match math.get? n.range with
    | some entry => "$" ++ entry.latex ++ "$"
    | none => n.ownText
  | _ => n.ownText

/-- The text of a heading, its words separated by single spaces. -/
def headingText (math : RangeMap MathEntry) (n : Node) : String :=
  Text.normalize (String.join ((Node.preorderAll n.children).map (headingPiece math)))

/-- The headings of a tree. -/
def outline (tree : Node) (math : RangeMap MathEntry) : List Heading :=
  tree.preorder.filterMap fun n =>
    match n.kind with
    | .heading level => some ⟨level, n.range, headingText math n⟩
    | _ => none

end Formulary.Markup
