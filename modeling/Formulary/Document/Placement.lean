import Formulary.Bitmap
import Formulary.Error.Job
import Formulary.Markup.Extraction

/-!
# Placements — what stands at a place, and what is known of it

* `Content` — the formula or the image at a place.
* `Resolution` — a bitmap, an error, or nothing yet.
* `Placement` — a place with its content and its resolution.
* `Extraction.contents` — the contents of a document, formulas first.
* `Extraction.source?` — the text that stands at a place.
-/

namespace Formulary

/-- What stands at a place. -/
inductive Content where
  | math (latex : String) (style : MathStyle)
  | image (reference : ImageReference)
deriving DecidableEq, Repr, Inhabited

namespace Content

/-- The source of a formula, or the address or name of an image. -/
def source : Content → String
  | math latex _ => latex
  | image reference => reference.toString

/-- The name of the kind of an answer's entry. -/
def kind : Content → String
  | math .. => "math"
  | image _ => "image"

/-- Formulas by their style and images by their kind. -/
def label : Content → String
  | math _ style => style.name
  | image _ => "image"

end Content

/-- What is known of a place. -/
inductive Resolution where
  | rendered (bitmap : Bitmap)
  /-- The last job of the place failed; the source says what it was about. -/
  | failed (error : JobError) (source : String)
  | pending
deriving DecidableEq, Inhabited

/-- The name of a resolution. -/
def Resolution.status : Resolution → String
  | rendered _ => "rendered"
  | failed .. => "failed"
  | pending => "pending"

/-- A place, its content, and what is known of it. -/
structure Placement where
  range : SourceRange
  content : Content
  resolution : Resolution
deriving Inhabited

/-- Placements in range order; those at equal ranges keep their places. -/
def Placement.sort (ps : List Placement) : List Placement :=
  ps.mergeSort fun a b => !b.range.lt a.range

namespace Markup.Extraction

/-- The contents of a document with their ranges, formulas first. -/
def contents (e : Extraction) : List (SourceRange × Content) :=
  e.math.values.map (fun m => (m.range, .math m.latex m.style)) ++
    e.images.values.map (fun i => (i.range, .image i.reference))

/-- The source text at a range. -/
def source? (e : Extraction) (range : SourceRange) : Option String :=
  match e.math.get? range with
  | some m => some m.latex
  | none => (e.images.get? range).map fun i => i.reference.toString

end Markup.Extraction
end Formulary
