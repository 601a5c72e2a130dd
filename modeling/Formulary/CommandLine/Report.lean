import Formulary.CommandLine.Json
import Formulary.Document.Placement
import Formulary.Document.Phase
import Formulary.Files.Path
import Formulary.Markup.Outline
import Formulary.Markup.Reformat
import Formulary.Render.Gate
import Formulary.Text.Quoted

/-!
# Reports — what the commands print

Every command prints lines for people or one JSON value for programs.

* `Report.segments`, `Report.segmentsJson` — the segments of a text and the text for the reader.
* `Report.outline`, `Report.outlineJson` — the headings of a document.
* `Report.rendering`, `Report.renderingJson` — the places of a document and what became of them.
-/

namespace Formulary.CommandLine.Report

open Markup

/-- Lines, each with its end. -/
def lines (ls : List String) : String := String.join (ls.map (· ++ "\n"))

/-- A JSON value with the end of its last line. -/
def json (j : Json) : String := j.pretty ++ "\n"

/-- A text filled up on its right. -/
def fill (width : Nat) (s : String) : String := String.ofList (Text.padRight width ' ' s.toList)

/-- A text filled up on its left. -/
def fillLeft (width : Nat) (s : String) : String := String.ofList (Text.padLeft width ' ' s.toList)

/-- The member of an object that is there only if there is a value. -/
def member? {α : Type} (name : String) (f : α → Json) : Option α → List (String × Json)
  | some a => [(name, f a)]
  | none => []

/-! ## Segments -/

/-- A segment as a line. -/
def segmentLine (s : Segment) : String :=
  fillLeft 6 (toString s.start) ++ ".." ++ fill 6 (toString s.stop) ++ " " ++ s.kind.name ++
    (s.style?.elim "" fun style => " [" ++ style.name ++ "]") ++
    (s.latex?.elim "" fun latex => " " ++ Text.quote latex)

/-- Segments, and the text for the reader behind an empty line. -/
def segments (ss : List Segment) (reformatted : String) : String :=
  lines (ss.map segmentLine ++ ["", reformatted])

/-- A segment as an object. -/
def segmentJson (s : Segment) : Json :=
  .object ([("kind", .text s.kind.name), ("start", .number s.start), ("end", .number s.stop)] ++
    member? "style" (fun style : MathStyle => .text style.name) s.style? ++
    member? "latex" .text s.latex?)

/-- Segments and the text for the reader as an object. -/
def segmentsJson (ss : List Segment) (reformatted : String) : String :=
  json (.object [("segments", .list (ss.map segmentJson)), ("reformatted", .text reformatted)])

/-! ## Outlines -/

/-- Headings as lines. -/
def outline (hs : List Heading) : String := lines (hs.map Heading.markdown)

/-- A position as an object. -/
def positionJson (p : LineColumn) : Json :=
  .object [("line", .number p.line.toNat), ("column", .number p.column.toNat)]

/-- A heading as an object. -/
def headingJson (h : Heading) : Json :=
  .object [("level", .number h.level),
    ("range", .object [("start", positionJson h.range.start), ("end", positionJson h.range.stop)]),
    ("plain_text", .text h.text)]

/-- Headings as a list. -/
def outlineJson (hs : List Heading) : String := json (.list (hs.map headingJson))

/-! ## Renderings -/

/-- A placement, and the file that its bitmap was written to. -/
structure Row where
  placement : Placement
  file : Option String := none
deriving Inhabited

/-- The error of a place whose job failed. -/
def Row.error? (r : Row) : Option JobError :=
  match r.placement.resolution with
  | .failed e _ => some e
  | _ => none

/-- The bitmap of a place whose job succeeded. -/
def Row.bitmap? (r : Row) : Option Bitmap :=
  match r.placement.resolution with
  | .rendered b => some b
  | _ => none

/-- A row as a line. -/
def rowLine (r : Row) : String :=
  fill 16 r.placement.range.key ++ " " ++ fill 6 r.placement.content.kind ++ " " ++
    fill 9 r.placement.resolution.status ++ " " ++ r.placement.content.source ++
    (r.error?.elim "" fun e => " (" ++ e.message ++ ")") ++
    (r.file.elim "" fun file => " -> " ++ file)

/-- Rows, and the phase of the document. -/
def rendering (phase : Phase) (rows : List Row) : String :=
  lines (rows.map rowLine ++ ["phase: " ++ phase.name])

/-- A row as an object. -/
def rowJson (r : Row) : Json :=
  .object ([("location", .text r.placement.range.key), ("kind", .text r.placement.content.kind),
      ("source", .text r.placement.content.source), ("status", .text r.placement.resolution.status)] ++
    member? "width" .number (r.bitmap?.map Bitmap.width) ++
    member? "height" .number (r.bitmap?.map Bitmap.height) ++
    member? "error_kind" .text (r.error?.map JobError.kind) ++
    member? "error" .text (r.error?.map JobError.message) ++
    member? "file" .text r.file)

/-- A summary as an object; the library keeps no time. -/
def summaryJson (s : Render.BatchSummary) : Json :=
  .object [("total", .number s.total), ("succeeded", .number s.succeeded),
    ("failed", .number s.failed), ("elapsed", .number 0)]

/-- Rows, the phase, the number of jobs and the summary as an object. -/
def renderingJson (phase : Phase) (total : Nat) (summary : Option Render.BatchSummary)
    (rows : List Row) : String :=
  json (.object ([("phase", .text phase.name), ("total", .number total)] ++
    member? "summary" summaryJson summary ++ [("placements", .list (rows.map rowJson))]))

end Formulary.CommandLine.Report
