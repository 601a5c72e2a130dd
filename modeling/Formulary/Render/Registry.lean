import Formulary.Document.Key
import Formulary.Error.Job
import Formulary.Location.Index
import Formulary.Location.Map
import Formulary.Table

/-!
# The registry — the loaded documents and the errors of their jobs

A document is registered with the index of its places while it is loaded. The last outcome of a job
at a place decides whether the place has an error; outcomes for documents that are not registered
and for places that the index does not hold are dropped.

* `Registry.register`, `Registry.release` — a document comes and goes.
* `Registry.record` — the outcome of a job.
* `Registry.error`, `Registry.errors` — the errors of a document.
-/

namespace Formulary.Render

/-- The places of a document and the errors of its jobs. -/
structure DocumentSlot where
  index : LocationIndex
  errors : RangeMap JobError := RangeMap.empty
deriving Inhabited

/-- The slots of the registered documents. -/
structure Registry where
  slots : Table DocumentId DocumentSlot := Table.empty
deriving Inhabited

/-- What keeps a document registered until it is released. -/
structure Registration where
  document : DocumentId
deriving DecidableEq, Repr

namespace Registry

/-- The registry without documents. -/
def empty : Registry := {}

/-- The slot of a document. -/
def slot? (r : Registry) (d : DocumentId) : Option DocumentSlot := r.slots.get? d

/-- Registers a document with the index of its places; a slot it had before is given up. -/
def register (r : Registry) (d : DocumentId) (index : LocationIndex) : Registration × Registry :=
  (⟨d⟩, ⟨r.slots.set d { index }⟩)

/-- Gives up the slot of the document of a registration. -/
def release (r : Registry) (registration : Registration) : Registry :=
  ⟨r.slots.erase registration.document⟩

/-- Whether a document is registered. -/
def isRegistered (r : Registry) (d : DocumentId) : Bool := (r.slot? d).isSome

/-- Records the outcome of a job at a place: an error replaces the one before, a success removes
it. The flag says whether the outcome was kept. -/
def record (r : Registry) (d : DocumentId) (location : String) (error : Option JobError) :
    Bool × Registry :=
  match r.slot? d with
  | none => (false, r)
  | some slot =>
    match slot.index.lookup location with
    | none => (false, r)
    | some range =>
      let errors :=
        match error with
        | some e => slot.errors.insert range e
        | none => slot.errors.erase range
      (true, ⟨r.slots.set d { slot with errors }⟩)

/-- The error of a document at a range. -/
def error (r : Registry) (d : DocumentId) (range : SourceRange) : Option JobError :=
  (r.slot? d).bind (·.errors.get? range)

/-- The errors of a document in range order. -/
def errors (r : Registry) (d : DocumentId) : List (SourceRange × JobError) :=
  match r.slot? d with
  | some slot => slot.errors.entries
  | none => []

/-- The number of registered documents. -/
def size (r : Registry) : Nat := r.slots.size

/-- Whether no document is registered. -/
def isEmpty (r : Registry) : Bool := r.slots.isEmpty

end Registry
end Formulary.Render
