import Formulary.Document.Placement
import Formulary.Session.Basic

/-!
# Resolutions — what a session knows of the places of a document

A recorded error comes first, then a bitmap of the cache; otherwise the place is pending. Looking a
bitmap up makes it the one used last, and changes nothing else.

* `Session.resolve` — one place.
* `Session.placements` — all places of a document in range order.
* `Session.errors` — the recorded errors of a document.
-/

namespace Formulary
namespace Session

/-- The source text at a place of an open document, or nothing. -/
def sourceAt (s : Session) (id : DocumentId) (range : SourceRange) : String :=
  ((s.documents.get? id).bind fun d => d.loaded.extraction.source? range).getD ""

/-- What is known of a place. -/
def resolve (s : Session) (id : DocumentId) (range : SourceRange) : Resolution × Session :=
  match s.registry.error id range with
  | some e => (.failed e (s.sourceAt id range), s)
  | none =>
    let (found, cache) := s.cache.get ⟨id, range.key⟩
    (match found with
      | some bitmap => .rendered bitmap
      | none => .pending, { s with cache })

/-- What is known of some places, looked up one after the other. -/
def resolveAll (s : Session) (id : DocumentId) :
    List (SourceRange × Content) → List Placement × Session
  | [] => ([], s)
  | (range, content) :: rest =>
    let (resolution, s) := s.resolve id range
    let (placements, s) := s.resolveAll id rest
    (⟨range, content, resolution⟩ :: placements, s)

/-- What is known of all places of a document, in range order. -/
def placements (s : Session) (id : DocumentId) : List Placement × Session :=
  match s.documents.get? id with
  | none => ([], s)
  | some document =>
    let (placements, s) := s.resolveAll id document.loaded.extraction.contents
    (Placement.sort placements, s)

/-- The recorded errors of a document in range order. -/
def errors (s : Session) (id : DocumentId) : List (SourceRange × JobError) := s.registry.errors id

end Session
end Formulary
