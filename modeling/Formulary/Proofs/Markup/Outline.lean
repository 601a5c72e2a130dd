import Formulary.Markup.Outline
import Formulary.Proofs.Table
import Formulary.Proofs.Text.Whitespace

/-!
# Outlines — the headings of a tree, with their formulas shown

The text of a heading is put together while its nodes are walked, and so is the plain text of a node.
To see that the two agree, the formulas are first put into the tree: the code spans that stand for one
turn into texts, and the walk of the new tree is the walk of the old one, node by node.

* `Node.reveal` — a tree with its formulas in place of the code spans that stand for them.
* `Node.induction`, `preorder_reveal` — induction on trees, and the walk of such a tree.
* `headingText_eq` — the text of a heading is the plain text of the revealed node.
* `IsItem`, `forall₂_outline` — what the outline of a tree lists.
-/

namespace Formulary.Markup

variable {math : RangeMap MathEntry}

/-! ## Trees with their formulas shown -/

/-- The kind of a node once formulas are shown: a code span whose range holds a formula is a text, the
    formula between dollar signs. -/
def revealKind (math : RangeMap MathEntry) (range : SourceRange) : NodeKind → NodeKind
  | .inlineCode literal =>
    match math.get? range with
    | some entry => .text ("$" ++ entry.latex ++ "$")
    | none => .inlineCode literal
  | kind => kind

mutual

/-- A tree with its formulas shown; no node moves, and none is lost. -/
def Node.reveal (math : RangeMap MathEntry) : Node → Node
  | .mk kind range children => .mk (revealKind math range kind) range (revealAll math children)

/-- The trees of a list with their formulas shown. -/
def Node.revealAll (math : RangeMap MathEntry) : List Node → List Node
  | [] => []
  | n :: rest => n.reveal math :: revealAll math rest

end

namespace Node

/-- What passes from the nodes directly inside a node to the node itself holds of all nodes. -/
theorem induction {P : Node → Prop}
    (mk : ∀ kind range children, (∀ n ∈ children, P n) → P (.mk kind range children)) (n : Node) :
    P n := by
  refine @Node.rec P (fun children => ∀ n ∈ children, P n) mk ?_ ?_ n
  · intro n hn
    cases hn
  · intro n rest hn hrest m hm
    rcases List.mem_cons.mp hm with rfl | hm
    · exact hn
    · exact hrest m hm

/-- The nodes of several trees stand one tree after the other. -/
theorem preorderAll_eq (children : List Node) :
    preorderAll children = children.flatMap preorder := by
  induction children with
  | nil => rfl
  | cons n rest ih => rw [preorderAll, ih, List.flatMap_cons]

theorem preorder_eq (n : Node) : n.preorder = n :: preorderAll n.children := by
  obtain ⟨kind, range, children⟩ := n
  rw [preorder, Node.children]

/-- What a node has inside it is inside all that the node is inside of. -/
theorem mem_preorder_trans {tree n m : Node} (hn : n ∈ tree.preorder) (hm : m ∈ n.preorder) :
    m ∈ tree.preorder := by
  induction tree using Node.induction with
  | mk kind range children ih =>
      rw [preorder, preorderAll_eq] at hn ⊢
      rcases List.mem_cons.mp hn with rfl | hn
      · rw [preorder, preorderAll_eq] at hm
        exact hm
      · obtain ⟨child, hchild, hn⟩ := List.mem_flatMap.mp hn
        exact List.mem_cons_of_mem _ (List.mem_flatMap.mpr ⟨child, hchild, ih child hchild hn⟩)

/-- Several trees are revealed one by one. -/
theorem revealAll_eq (children : List Node) :
    revealAll math children = children.map (reveal math) := by
  induction children with
  | nil => rfl
  | cons n rest ih => rw [revealAll, ih, List.map_cons]

/-- The walk of a revealed tree is that of the tree, with each of its nodes revealed. -/
theorem preorder_reveal (n : Node) :
    (n.reveal math).preorder = n.preorder.map (reveal math) := by
  induction n using Node.induction with
  | mk kind range children ih =>
      have hchildren : (children.map (reveal math)).flatMap preorder
          = (children.flatMap preorder).map (reveal math) := by
        rw [List.flatMap_map, List.map_flatMap]
        exact List.flatMap_congr ih
      rw [reveal, preorder, preorder, List.map_cons, preorderAll_eq, preorderAll_eq, revealAll_eq,
        hchildren, reveal, revealAll_eq]

/-- The nodes of revealed trees are the revealed nodes of the trees. -/
theorem preorderAll_revealAll (children : List Node) :
    preorderAll (revealAll math children) = (preorderAll children).map (reveal math) := by
  induction children with
  | nil => rfl
  | cons n rest ih =>
      rw [revealAll, preorderAll, preorderAll, ih, preorder_reveal, List.map_append]

/-- What a node adds to a heading is what the revealed node adds to a text. -/
theorem ownText_reveal (n : Node) : (n.reveal math).ownText = headingPiece math n := by
  obtain ⟨kind, range, children⟩ := n
  cases kind with
  | inlineCode literal =>
      cases hget : math.get? range with
      | some entry =>
          simp [reveal, revealKind, ownText, headingPiece, Node.kind, Node.range, hget]
      | none => simp [reveal, revealKind, ownText, headingPiece, Node.kind, Node.range, hget]
  | _ => rfl

end Node

/-! ## Headings -/

/-- The text of a heading is its plain text once its formulas are shown, with single spaces between
    the words. -/
theorem headingText_eq (math : RangeMap MathEntry) (n : Node) :
    headingText math n = Text.normalize (n.reveal math).plainText := by
  obtain ⟨kind, range, children⟩ := n
  have hpieces : (Node.preorderAll (Node.revealAll math children)).map Node.ownText
      = (Node.preorderAll children).map (headingPiece math) := by
    rw [Node.preorderAll_revealAll, List.map_map]
    exact List.map_congr_left fun n _ => Node.ownText_reveal n
  rw [headingText, Node.plainText, Node.reveal, Node.children, Node.children, hpieces]

/-- Whether a node is a heading. -/
def Node.isHeading (n : Node) : Bool :=
  match n.kind with
  | .heading _ => true
  | _ => false

/-- A heading of an outline says what a node does: its level, its range, and its plain text once its
    formulas are shown, words apart by single spaces and no space around them. -/
structure IsItem (math : RangeMap MathEntry) (n : Node) (h : Heading) : Prop where
  kind : n.kind = .heading h.level
  range : h.range = n.range
  text : h.text = Text.normalize (n.reveal math).plainText
  spaced : Text.SingleSpaced h.text.toList

/-- The heading that a node is. -/
def heading? (math : RangeMap MathEntry) (n : Node) : Option Heading :=
  match n.kind with
  | .heading level => some ⟨level, n.range, headingText math n⟩
  | _ => none

theorem outline_eq (tree : Node) : outline tree math = tree.preorder.filterMap (heading? math) := rfl

/-- The items of an outline are the headings. -/
theorem isSome_heading? (n : Node) : (heading? math n).isSome = n.isHeading := by
  obtain ⟨kind, range, children⟩ := n
  cases kind with
  | _ => rfl

/-- What a heading gives is an item with its rank, its place and its text. -/
theorem isItem_of_heading? {n : Node} {h : Heading} (hn : heading? math n = some h) :
    IsItem math n h := by
  obtain ⟨kind, range, children⟩ := n
  cases kind with
  | heading level =>
      cases hn
      have htext := headingText_eq math (.mk (.heading level) range children)
      exact ⟨rfl, rfl, htext, htext ▸ Text.singleSpaced_normalize _⟩
  | _ => cases hn

/-- The outline has one heading for each heading node, in the order of the walk. -/
theorem forall₂_outline (tree : Node) (math : RangeMap MathEntry) :
    List.Forall₂ (IsItem math) (tree.preorder.filter Node.isHeading) (outline tree math) := by
  have hfilter : tree.preorder.filter Node.isHeading
      = tree.preorder.filter fun n => (heading? math n).isSome :=
    List.filter_congr fun n _ => (isSome_heading? n).symm
  rw [hfilter, outline_eq]
  exact forall₂_filterMap fun n _ h hn => isItem_of_heading? hn

end Formulary.Markup
