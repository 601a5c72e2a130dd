import Formulary.Proofs.Document.Loading
import Formulary.Proofs.Markup.Outline

/-!
# Headings of a document — formulas shown in place of their identifiers

A formula was found by the identifier that a code span holds, but an outline looks it up by the range
of the span. The two agree when the reader gives code spans and code blocks ranges of their own; then a
heading shows each of its formulas as it stands in the text, and all other code as it is.

* `CodeApart` — trees whose code spans and code blocks have ranges of their own.
* `Displays` — what a node inside a heading is shown as.
* `displays_headingPiece` — the range of a code span leads to the formula of its identifier.
* `outline_spec` — the outlines of all trees, and of all documents.
-/

namespace Formulary

open Markup

namespace Uuid

theorem ofDigits?_dollar (cs : List Char) : ofDigits? ('$' :: cs) = none := by
  have hfold : Text.foldDigits 16 Text.hexValue? 0 ('$' :: cs) = none := rfl
  rw [ofDigits?, hfold, Option.map_none, ite_self]

theorem ofGroups?_dollar (cs : List Char) : ofGroups? ('$' :: cs) = none := by
  rw [ofGroups?]
  split
  · -- the sign is the first character of the first group
    exact ofDigits?_dollar _
  · rfl

/-- No identifier is written with a dollar sign in front. -/
theorem parse?_dollar (s : String) : parse? ("$" ++ s) = none := by
  rw [parse?, String.toList_append]
  show (ofDigits? ('$' :: s.toList)).or (ofGroups? ('$' :: s.toList)) = none
  rw [ofDigits?_dollar, ofGroups?_dollar, Option.none_or]

end Uuid

namespace Markup

/-- Whether a node is a code span or a code block. -/
def Node.holdsCode (n : Node) : Bool :=
  match n.kind with
  | .inlineCode _ | .codeBlock _ _ => true
  | _ => false

/-- The code spans and code blocks of a tree have ranges of their own. -/
def CodeApart (tree : Node) : Prop := ((tree.preorder.filter Node.holdsCode).map Node.range).Nodup

/-- What a node inside a heading is shown as, when the `i`-th of some formulas has the identifier
    `ids i`: a code span that holds one of these identifiers as the source of its formula between
    dollar signs, which is no identifier; any other code span, a text and a line break as they
    stand. -/
inductive Displays (ids : Nat → Uuid) (spans : List Segment) (n : Node) : String → Prop where
  | formula {literal latex : String} {i : Nat} {s : Segment} (kind : n.kind = .inlineCode literal)
      (holds : Uuid.parse? literal = some (ids i)) (span : spans[i]? = some s)
      (source : s.latex? = some latex) (hidden : Uuid.parse? ("$" ++ latex ++ "$") = none) :
      Displays ids spans n ("$" ++ latex ++ "$")
  | code {literal : String} (kind : n.kind = .inlineCode literal)
      (holds : ∀ i < spans.length, Uuid.parse? literal ≠ some (ids i)) : Displays ids spans n literal
  | other (kind : ∀ literal, n.kind ≠ .inlineCode literal) : Displays ids spans n n.ownText

/-- A heading of a document says what a node does: its level, its range, and, with single spaces
    between the words, what the nodes inside it are shown as. -/
structure Shows (ids : Nat → Uuid) (spans : List Segment) (n : Node) (h : Heading) : Prop where
  kind : n.kind = .heading h.level
  range : h.range = n.range
  text : ∃ pieces, List.Forall₂ (Displays ids spans) (Node.preorderAll n.children) pieces ∧
    h.text = Text.normalize (String.join pieces)

variable {ids : Nat → Uuid} {segments : List Segment} {tree n : Node} {e : Extraction}

/-- Code with ranges of its own is known by its range. -/
theorem CodeApart.eq_of_range {m : Node} (h : CodeApart tree) (hn : n ∈ tree.preorder)
    (hm : m ∈ tree.preorder) (hcode : n.holdsCode = true) (hcode' : m.holdsCode = true)
    (hrange : n.range = m.range) : n = m :=
  List.inj_on_of_nodup_map h (List.mem_filter.mpr ⟨hn, hcode⟩) (List.mem_filter.mpr ⟨hm, hcode'⟩)
    hrange

theorem IsSpan.holdsCode {table : PlaceholderTable} {m : MathEntry} (h : IsSpan table n m) :
    n.holdsCode = true := by
  obtain ⟨literal, _, _, hkind, -⟩ := h
  rw [Node.holdsCode, hkind]

theorem IsBlock.holdsCode {m : MathEntry} (h : IsBlock n m) : n.holdsCode = true := by
  obtain ⟨info, literal, hkind, -⟩ := h
  rw [Node.holdsCode, hkind]

/-- Where code has ranges of its own, the formula at the range of a code span is the one that its
    identifier stands for. -/
theorem get?_range_iff {table : PlaceholderTable} (h : extract tree table = .ok e)
    (hcode : CodeApart tree) (hn : n ∈ tree.preorder) {literal : String}
    (hkind : n.kind = .inlineCode literal) {m : MathEntry} :
    e.math.get? n.range = some m ↔ IsSpan table n m := by
  have hspan : n.holdsCode = true := by rw [Node.holdsCode, hkind]
  rw [(describes_of_extract h).math]
  constructor
  · rintro ⟨other, hother, hrange, hm | hm⟩
    · rw [← hcode.eq_of_range hother hn hm.holdsCode hspan hrange]
      exact hm
    · -- a block at this range would be the span itself
      obtain rfl := hcode.eq_of_range hother hn hm.holdsCode hspan hrange
      obtain ⟨info, content, hblock, -⟩ := hm
      cases hkind.symm.trans hblock
  · intro hm
    exact ⟨n, hn, rfl, Or.inl hm⟩

/-- The outline shows each node of the tree as it should. -/
theorem displays_headingPiece (hids : MintsApart ids segments) (hcode : CodeApart tree)
    (h : extract tree (placeholdersOf ids segments) = .ok e) (hn : n ∈ tree.preorder) :
    Displays ids (spanSegments segments) n (headingPiece e.math n) := by
  by_cases hkind : ∃ literal, n.kind = .inlineCode literal
  · obtain ⟨literal, hkind⟩ := hkind
    have hget : ∀ m, e.math.get? n.range = some m ↔ IsSpan (placeholdersOf ids segments) n m :=
      fun m => get?_range_iff h hcode hn hkind
    cases hentry : e.math.get? n.range with
    | some m =>
        obtain ⟨other, id, p, hother, hid, hp, rfl⟩ := (hget m).mp hentry
        obtain ⟨i, s, hs, rfl, rfl⟩ := (get?_placeholdersOf hids).mp hp
        cases hkind.symm.trans hother
        have hpiece : headingPiece e.math n = "$" ++ s.placeholder.latex ++ "$" := by
          simp only [headingPiece, hkind, hentry]
        rw [hpiece]
        refine .formula hkind hid hs (latex?_of_mem_spanSegments (List.mem_of_getElem? hs)) ?_
        rw [String.append_assoc]
        exact Uuid.parse?_dollar _
    | none =>
        have hpiece : headingPiece e.math n = literal := by
          simp only [headingPiece, hkind, hentry, Node.ownText]
        rw [hpiece]
        refine .code hkind ?_
        intro i hi hid
        have hp := (get?_placeholdersOf hids).mpr ⟨i, _, List.getElem?_eq_getElem hi, rfl, rfl⟩
        rw [(hget _).mpr ⟨literal, ids i, _, hkind, hid, hp, rfl⟩] at hentry
        cases hentry
  · have hpiece : headingPiece e.math n = n.ownText := by
      obtain ⟨kind, range, children⟩ := n
      cases kind with
      | inlineCode literal => exact absurd ⟨literal, rfl⟩ hkind
      | _ => rfl
    rw [hpiece]
    exact .other fun literal hliteral => hkind ⟨literal, hliteral⟩

/-- A heading node of the tree is shown with its formulas. -/
theorem IsItem.shows {heading : Heading} (hids : MintsApart ids segments) (hcode : CodeApart tree)
    (h : extract tree (placeholdersOf ids segments) = .ok e) (hn : n ∈ tree.preorder)
    (hitem : IsItem e.math n heading) : Shows ids (spanSegments segments) n heading := by
  refine ⟨hitem.kind, hitem.range, (Node.preorderAll n.children).map (headingPiece e.math), ?_, ?_⟩
  · refine List.forall₂_map_right_iff.mpr (List.forall₂_same.mpr ?_)
    intro m hm
    refine displays_headingPiece hids hcode h (Node.mem_preorder_trans hn ?_)
    rw [Node.preorder_eq]
    exact List.mem_cons_of_mem _ hm
  · rw [hitem.text, ← headingText_eq, headingText]

end Markup

namespace LoadedDocument

/-- The outline of a tree lists its heading nodes in the order of the walk, each with its plain text
    once formulas are shown in place of the code spans at their ranges. In a document whose code spans
    and code blocks have ranges of their own, what is shown for a code span that holds an identifier of
    the text is the formula that this identifier stands for, and all other code is shown as it is. -/
theorem outline_spec :
    (∀ (tree : Node) (math : RangeMap MathEntry),
      List.Forall₂ (IsItem math) (tree.preorder.filter Node.isHeading) (Markup.outline tree math)) ∧
    ∀ (ids : Nat → Uuid) (reader : String → Node) (text : String) (d : LoadedDocument),
      MintsApart ids (Markup.segments text) → CodeApart (treeOf ids reader text) →
      load ids reader text = .ok d →
      List.Forall₂ (Shows ids (spanSegments (Markup.segments text)))
        ((treeOf ids reader text).preorder.filter Node.isHeading) d.outline := by
  refine ⟨forall₂_outline, ?_⟩
  intro ids reader text d hids hcode hload
  have hextract := extract_of_load hload
  have houtline : d.outline = Markup.outline (treeOf ids reader text) d.extraction.math := by
    rw [load_eq, hextract] at hload
    exact congrArg LoadedDocument.outline (Except.ok.inj hload).symm
  rw [houtline]
  have hitems : List.Forall₂ (fun n h => n ∈ (treeOf ids reader text).preorder ∧
      IsItem d.extraction.math n h)
      ((treeOf ids reader text).preorder.filter Node.isHeading)
      (Markup.outline (treeOf ids reader text) d.extraction.math) :=
    (List.forall₂_and_left _ _).mpr
      ⟨fun n hn => (List.mem_filter.mp hn).1, forall₂_outline _ _⟩
  exact hitems.imp fun n h hn => hn.2.shows hids hcode hextract hn.1

/-- A heading with a formula and a piece of code, on two lines. -/
def sumTree : Node :=
  .mk (.heading 2) ⟨⟨1, 1⟩, ⟨2, 3⟩⟩
    [.mk (.text "Sum ") ⟨⟨1, 4⟩, ⟨1, 7⟩⟩ [],
      .mk (.inlineCode (Uuid.numbered 0).hyphenated) ⟨⟨1, 8⟩, ⟨1, 45⟩⟩ [],
      .mk .lineBreak ⟨⟨1, 46⟩, ⟨1, 46⟩⟩ [],
      .mk (.inlineCode "f") ⟨⟨2, 1⟩, ⟨2, 3⟩⟩ []]

/-- The formula of the heading is shown as it stands in the text, and the code as it is. -/
theorem outline_spec_sum :
    ∃ d, load Uuid.numbered (fun _ => sumTree) "## Sum $x$\n`f`" = .ok d ∧
      List.Forall₂ (Shows Uuid.numbered (spanSegments (Markup.segments "## Sum $x$\n`f`")))
        (sumTree.preorder.filter Node.isHeading) d.outline ∧
      d.outline.map Heading.text = ["Sum $x$ f"] := by
  have hone : (spanSegments (Markup.segments "## Sum $x$\n`f`")).length = 1 := by decide +kernel
  have hids : MintsApart Uuid.numbered (Markup.segments "## Sum $x$\n`f`") := by
    intro i j hi hj _
    omega
  have hcode : CodeApart sumTree := by
    rw [CodeApart]
    decide
  have hshown : (load Uuid.numbered (fun _ => sumTree) "## Sum $x$\n`f`").toOption.map
      (fun d => d.outline.map Heading.text) = some ["Sum $x$ f"] := by decide +kernel
  cases h : load Uuid.numbered (fun _ => sumTree) "## Sum $x$\n`f`" with
  | error err =>
      rw [h] at hshown
      cases hshown
  | ok d =>
      rw [h] at hshown
      exact ⟨d, rfl, outline_spec.2 Uuid.numbered (fun _ => sumTree) _ d hids hcode h,
        Option.some.inj hshown⟩

end LoadedDocument
end Formulary
