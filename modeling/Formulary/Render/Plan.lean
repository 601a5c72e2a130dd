import Formulary.Markup.Extraction
import Formulary.Render.Request

/-!
# Plans — the jobs of a document

Every formula and every image of a document is one job: a formula is drawn, an image at a web
address is fetched, and any other image is loaded from the resources.

* `Job` — what is done, for which place.
* `Plan.ofExtraction` — the jobs of a document, sorted by kind.
* `Plan.jobs` — all of them in the order in which they are started.
-/

namespace Formulary.Render

/-- What a job does. -/
inductive Task where
  | fetch (url : WebUrl)
  | draw (request : MathRequest)
  | load (name : String)
deriving DecidableEq, Repr, Inhabited

/-- A task and the key of the place it is done for. -/
structure Job where
  location : String
  task : Task
deriving DecidableEq, Repr, Inhabited

/-- The name of the kind of a task. -/
def Task.name : Task → String
  | fetch _ => "remote_fetch"
  | draw _ => "math_render"
  | load _ => "local_load"

/-- The jobs of a document by kind. -/
structure Plan where
  remote : List Job := []
  math : List Job := []
  resources : List Job := []
deriving Repr, Inhabited

namespace Plan

/-- The number of jobs. -/
def total (p : Plan) : Nat := p.remote.length + p.math.length + p.resources.length

/-- Whether there is no job. -/
def isEmpty (p : Plan) : Bool := p.total == 0

/-- All jobs: those that wait for a server first, then drawing, then loading. -/
def jobs (p : Plan) : List Job := p.remote ++ p.math ++ p.resources

/-- The job of the formula at a range. -/
def mathJob (fontSize : Binary32) (color : Color) (entry : SourceRange × MathEntry) : Job :=
  ⟨entry.1.key, .draw ⟨entry.2.latex, entry.2.style, fontSize, color⟩⟩

/-- The fetch job of the image at a range, if it has one. -/
def remoteJob? (entry : SourceRange × ImageEntry) : Option Job :=
  match entry.2.reference with
  | .remote url => some ⟨entry.1.key, .fetch url⟩
  | .resource _ => none

/-- The load job of the image at a range, if it has one. -/
def resourceJob? (entry : SourceRange × ImageEntry) : Option Job :=
  match entry.2.reference with
  | .remote _ => none
  | .resource name => some ⟨entry.1.key, .load name⟩

/-- The jobs of a document: an entry is filed under the range that the document holds it at. -/
def ofExtraction (e : Markup.Extraction) (fontSize : Binary32) (color : Color) : Plan where
  remote := e.images.entries.filterMap remoteJob?
  math := e.math.entries.map (mathJob fontSize color)
  resources := e.images.entries.filterMap resourceJob?

end Plan
end Formulary.Render
