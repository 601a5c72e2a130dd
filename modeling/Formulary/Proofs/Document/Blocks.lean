import Formulary.Markdown.Document
import Formulary.Proofs.Document.Loading

/-!
# Blocks — displayed formulas come back only if the reader keeps them

Blocks leave as fenced code and carry no identifier, so nothing counts them on the way back: whether a
document is loaded does not depend on them. Each block of the text has a displayed formula of its own
exactly when the reader kept a code block of its own for it, in the language of formulas and with the
content of the block.

* `blockSegments` — the blocks of a text.
* `HasBlocks`, `KeepsBlocks` — entries for all blocks, and nodes for all blocks.
* `hasBlocks_iff_keepsBlocks`, `load_blocks_spec` — the one comes from the other, and loading asks for
  neither.
-/

namespace Formulary

open Markup

namespace Markup

/-- The blocks among some segments. -/
def blockSegments (segments : List Segment) : List Segment :=
  segments.filter fun s => s.kind == .block

/-- Each block has a displayed formula of its own with exactly its source. -/
def HasBlocks (blocks : List Segment) (e : Extraction) : Prop :=
  ∃ place : Fin blocks.length → SourceRange, Function.Injective place ∧
    ∀ i, ∃ latex, (blocks.get i).latex? = some latex ∧
      e.math.get? (place i) = some ⟨place i, latex, .display⟩

/-- Each block has a code block of its own in a tree, in the language of formulas and with its source
    as trimmed content. -/
def KeepsBlocks (blocks : List Segment) (tree : Node) : Prop :=
  ∃ node : Fin blocks.length → Node, Function.Injective (fun i => (node i).range) ∧
    ∀ i, node i ∈ tree.preorder ∧ ∃ info literal, (node i).kind = .codeBlock info literal ∧
      (NodeKind.codeBlock info literal).language? = some mathLanguage ∧
      (blocks.get i).latex? = some (Text.trim literal)

/-- An extraction has a formula for each block exactly when the tree kept a code block for each. -/
theorem hasBlocks_iff_keepsBlocks {table : PlaceholderTable} {tree : Node} {e : Extraction}
    (h : extract tree table = .ok e) (blocks : List Segment) :
    HasBlocks blocks e ↔ KeepsBlocks blocks tree := by
  have hdescribes := describes_of_extract h
  constructor
  · rintro ⟨place, hinj, hplace⟩
    -- only code blocks give entries that are displayed
    have hnode : ∀ i, ∃ n ∈ tree.preorder, n.range = place i ∧ ∃ info literal,
        n.kind = .codeBlock info literal ∧
        (NodeKind.codeBlock info literal).language? = some mathLanguage ∧
        (blocks.get i).latex? = some (Text.trim literal) := by
      intro i
      obtain ⟨latex, hlatex, hget⟩ := hplace i
      obtain ⟨n, hn, hrange, hspan | hblock⟩ := (hdescribes.math _ _).mp hget
      · obtain ⟨_, _, _, _, _, _, hm⟩ := hspan
        cases congrArg MathEntry.style hm
      · obtain ⟨info, literal, hkind, hlanguage, hm⟩ := hblock
        have hsource : latex = Text.trim literal := congrArg MathEntry.latex hm
        exact ⟨n, hn, hrange, info, literal, hkind, hlanguage, hsource ▸ hlatex⟩
    choose node hmem hrange hkind using hnode
    refine ⟨node, ?_, fun i => ⟨hmem i, hkind i⟩⟩
    intro i j hij
    exact hinj (by rw [← hrange i, ← hrange j]; exact hij)
  · rintro ⟨node, hinj, hnode⟩
    refine ⟨fun i => (node i).range, hinj, ?_⟩
    intro i
    obtain ⟨hmem, info, literal, hkind, hlanguage, hlatex⟩ := hnode i
    exact ⟨_, hlatex, (hdescribes.math _ _).mpr ⟨node i, hmem, rfl,
      Or.inr ⟨info, literal, hkind, hlanguage, rfl⟩⟩⟩

end Markup

namespace LoadedDocument

/-- Whatever the text and the reader, loading asks only for the identifiers and for ranges of their
    own; the blocks of the text are all there exactly when the reader kept them. -/
theorem load_blocks_spec (ids : Nat → Uuid) (reader : String → Node) (text : String) :
    ((∃ d, load ids reader text = .ok d) ↔
      Reunites (tableOf ids text) (treeOf ids reader text)) ∧
    ∀ d, load ids reader text = .ok d →
      (HasBlocks (blockSegments (Markup.segments text)) d.extraction ↔
        KeepsBlocks (blockSegments (Markup.segments text)) (treeOf ids reader text)) :=
  ⟨exists_load_iff, fun _ h => hasBlocks_iff_keepsBlocks (extract_of_load h) _⟩

/-- A block inside a code block of another kind is lost, and the document is loaded all the same. -/
theorem load_loses_fenced_block :
    ∃ d, load Uuid.numbered Markdown.parse "~~~\n$$x$$\n~~~\n" = .ok d ∧
      (blockSegments (Markup.segments "~~~\n$$x$$\n~~~\n")).length = 1 ∧ d.extraction.math.size = 0 ∧
      ¬ HasBlocks (blockSegments (Markup.segments "~~~\n$$x$$\n~~~\n")) d.extraction ∧
      ¬ KeepsBlocks (blockSegments (Markup.segments "~~~\n$$x$$\n~~~\n"))
        (treeOf Uuid.numbered Markdown.parse "~~~\n$$x$$\n~~~\n") := by
  have hone : (blockSegments (Markup.segments "~~~\n$$x$$\n~~~\n")).length = 1 := by decide +kernel
  have hempty : (load Uuid.numbered Markdown.parse "~~~\n$$x$$\n~~~\n").toOption.map
      (fun d => d.extraction.math.size) = some 0 := by decide +kernel
  cases h : load Uuid.numbered Markdown.parse "~~~\n$$x$$\n~~~\n" with
  | error err =>
      rw [h] at hempty
      cases hempty
  | ok d =>
      rw [h] at hempty
      have hsize : d.extraction.math.size = 0 := Option.some.inj hempty
      have hno : ¬ HasBlocks (blockSegments (Markup.segments "~~~\n$$x$$\n~~~\n")) d.extraction := by
        rintro ⟨place, -, hplace⟩
        obtain ⟨latex, -, hget⟩ := hplace ⟨0, by omega⟩
        have hmem := d.extraction.math.get?_eq_some_iff.mp hget
        rw [List.length_eq_zero_iff.mp hsize] at hmem
        cases hmem
      refine ⟨d, rfl, hone, hsize, hno, ?_⟩
      rw [← (load_blocks_spec Uuid.numbered Markdown.parse _).2 d h]
      exact hno

end LoadedDocument
end Formulary
