import Formulary.Entry.Basic
import Formulary.Error.Consistency
import Formulary.Location.Index
import Formulary.Location.Map
import Formulary.Markup.Placeholder
import Formulary.Markup.Tree

/-!
# Extraction — the entries of a document, found in its tree

Code spans that hold an identifier are inline formulas, code blocks in the language `math` are
displayed formulas, and images with a source are images. Every identifier has to be found exactly
once, and every entry has a place of its own.

* `Findings.ofTree` — what the nodes of a tree say, in their order.
* `Extraction` — the formulas and images by range, and the index of their ranges.
* `Findings.convert` — the extraction, or the first inconsistency.
-/

namespace Formulary.Markup

/-- The language of code blocks that hold a formula. -/
def mathLanguage : String := "math"

/-- What the nodes of a tree say. -/
structure Findings where
  blocks : List MathEntry := []
  pending : List (SourceRange × Uuid) := []
  images : List ImageEntry := []

namespace Findings

/-- The displayed formula that a node is. -/
def block? (n : Node) : Option MathEntry :=
  match n.kind with
  | .codeBlock info literal =>
    if (NodeKind.codeBlock info literal).language? = some mathLanguage then
      some ⟨n.range, Text.trim literal, .display⟩
    else none
  | _ => none

/-- The identifier that a node holds. -/
def pending? (n : Node) : Option (SourceRange × Uuid) :=
  match n.kind with
  | .inlineCode literal => (Uuid.parse? literal).map (n.range, ·)
  | _ => none

/-- The image that a node is. -/
def image? (n : Node) : Option ImageEntry :=
  match n.kind with
  | .image source _ =>
    let source := Text.trim source
    if source.isEmpty then none else some ⟨n.range, ImageReference.classify source⟩
  | _ => none

/-- What the nodes of a tree say, in their order. -/
def ofTree (tree : Node) : Findings :=
  let nodes := tree.preorder
  ⟨nodes.filterMap block?, nodes.filterMap pending?, nodes.filterMap image?⟩

end Findings

/-- The entries of a document and the index of their ranges. -/
structure Extraction where
  math : RangeMap MathEntry := RangeMap.empty
  images : RangeMap ImageEntry := RangeMap.empty
  index : LocationIndex := {}
deriving Inhabited

namespace Extraction

/-- The number of jobs that the document needs. -/
def jobCount (e : Extraction) : Nat := e.math.size + e.images.size

/-- Adds a formula at a place of its own. -/
def addMath (e : Extraction) (entry : MathEntry) : Except ConsistencyError Extraction :=
  match e.index.insert entry.range with
  | (true, index) => .ok { e with index, math := e.math.insert entry.range entry }
  | (false, _) => .error (.locationCollision entry.range)

/-- Adds an image at a place of its own. -/
def addImage (e : Extraction) (entry : ImageEntry) : Except ConsistencyError Extraction :=
  match e.index.insert entry.range with
  | (true, index) => .ok { e with index, images := e.images.insert entry.range entry }
  | (false, _) => .error (.locationCollision entry.range)

end Extraction

/-- Claims the formulas of the identifiers found. `consumed` holds the identifiers claimed before;
one that was never minted is a piece of code. -/
def claim (table : PlaceholderTable) (consumed : List Uuid) (e : Extraction) :
    List (SourceRange × Uuid) → Except ConsistencyError (PlaceholderTable × Extraction)
  | [] => .ok (table, e)
  | (range, id) :: rest =>
    match table.take id with
    | (some p, table) =>
      match e.addMath ⟨range, p.latex, .inline⟩ with
      | .ok e => claim table (id :: consumed) e rest
      | .error err => .error err
    | (none, _) =>
      if consumed.contains id then .error (.duplicated id) else claim table consumed e rest

/-- The extraction of a document whose identifiers are in `table`. -/
def Findings.convert (f : Findings) (table : PlaceholderTable) :
    Except ConsistencyError Extraction := do
  let (left, e) ← claim table [] {} f.pending
  if left.isEmpty then
    let e ← f.blocks.foldlM Extraction.addMath e
    f.images.foldlM Extraction.addImage e
  else .error (.unresolved left.size table.size left.remainingSources)

/-- The extraction of the document that a tree and a table of identifiers describe. -/
def extract (tree : Node) (table : PlaceholderTable) : Except ConsistencyError Extraction :=
  (Findings.ofTree tree).convert table

end Formulary.Markup
