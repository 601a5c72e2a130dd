import Formulary.Raster.Decode
import Formulary.Session.Advance
import Formulary.Session.Resolve
import Mathlib

/-!
# Events — what happens to a session, in any order

A session is used by its owner, who opens and closes documents, asks for batches and looks at places,
and by its jobs, each of which takes one step at a time. These events come in any order. What the
collaborators of a job say is fixed for each job beforehand and is otherwise arbitrary.

* `Reply`, `Reply.outcome` — what collaborators say to a job, and what becomes of the job.
* `Event`, `perform`, `play` — what may happen, and the session afterwards.
* `Notice`, `log` — arrivals at gates, signals of batches and bitmaps given up during a run.
* `Admissible` — runs in which documents are loaded under numbers that are not in use.
-/

namespace Formulary

open Render

/-- What the collaborators say to a job, whichever of them it calls, what the finishing step makes of a
    drawn bitmap, and what the bytes of an image are decoded to. -/
structure Reply where
  response : Answer Response
  drawing : Answer Bitmap
  finished : Bitmap → Answer Bitmap
  resource : Answer (Option ByteArray)
  decode : Raster.Decoder

/-- What becomes of a task; images may take `limit` bytes. -/
def Reply.outcome (limit : Nat) (reply : Reply) : Task → Outcome
  | .fetch _ => Outcome.ofResponse (reply.decode limit) reply.response
  | .draw _ => Outcome.ofDrawing reply.finished reply.drawing
  | .load name => Outcome.ofResource (reply.decode limit) name reply.resource

/-- What may happen to a session. -/
inductive Event where
  | load (id : DocumentId) (ids : Nat → Uuid) (reader : String → Markup.Node) (text : String)
  | close (id : DocumentId)
  | setFontSize (id : DocumentId) (size : Binary32)
  | setColor (id : DocumentId) (color : Color)
  | request (id : DocumentId)
  | resolve (id : DocumentId) (range : SourceRange)
  | placements (id : DocumentId)
  /-- The collaborator of a working job is done. -/
  | answer (job : JobId)
  /-- A job takes its next step. -/
  | step (job : JobId)

namespace Session

variable (replies : JobId → Reply)

/-- What becomes of a job that gets its reply. -/
def outcomeOf (s : Session) (id : JobId) (task : Task) : Outcome :=
  (replies id).outcome s.cache.maxBytes task

/-- The session after an event. A load that fails changes nothing. -/
def perform (s : Session) : Event → Session
  | .load id ids reader text =>
    match s.load id ids reader text with
    | .ok s' => s'
    | .error _ => s
  | .close id => s.close id
  | .setFontSize id size => s.setFontSize id size
  | .setColor id color => s.setColor id color
  | .request id =>
    match s.request id with
    | some (_, s') => s'
    | none => s
  | .resolve id range => (s.resolve id range).2
  | .placements id => (s.placements id).2
  | .answer id =>
    match s.jobs.get? id with
    | some job => s.finish id (outcomeOf replies s id job.task)
    | none => s
  | .step id => s.advance id

/-- The session after some events. -/
def play (s : Session) (events : List Event) : Session := events.foldl (perform replies) s

theorem play_cons (s : Session) (e : Event) (rest : List Event) :
    play replies s (e :: rest) = play replies (perform replies s e) rest := rfl

/-- Two runs one after the other are one run. -/
theorem play_append (s : Session) (a b : List Event) :
    play replies s (a ++ b) = play replies (play replies s a) b := List.foldl_append

/-! ## What is seen of a run -/

/-- What is seen from outside: a job arrives at its gate with its error, a batch signals that it is
    complete, or the cache gives a bitmap up to make room. -/
inductive Notice where
  | arrived (job : JobId) (error : Option JobError)
  | signalled (batch : BatchId) (summary : BatchSummary)
  | evicted (key : RenderKey)

/-- The signal of a batch, if there is one. -/
def signal (batch : BatchId) : Option BatchSummary → List Notice
  | some summary => [.signalled batch summary]
  | none => []

/-- What is seen of the next step of a job. -/
def noticesOfStep (s : Session) (id : JobId) : List Notice :=
  match s.jobs.get? id with
  | some ⟨_, .storing bitmap⟩ => (s.cache.insert id.renderKey bitmap).1.map .evicted
  | some ⟨_, .reporting error⟩ =>
    match s.batches.get? id.batch with
    | some batch => .arrived id error ::
        signal id.batch (batch.gate.arrive s.registry id.location error).summary
    | none => []
  | _ => []

/-- What is seen of an event. -/
def notices (s : Session) : Event → List Notice
  | .request id =>
    match s.request id with
    | some (batch, s') => signal batch ((s'.batches.get? batch).bind Batch.summary)
    | none => []
  | .step id => s.noticesOfStep id
  | _ => []

/-- What is seen of a run, in order. -/
def log (s : Session) : List Event → List Notice
  | [] => []
  | e :: rest => s.notices e ++ log (perform replies s e) rest

/-- What is seen of two runs is what is seen of each of them. -/
theorem log_append (s : Session) (a b : List Event) :
    log replies s (a ++ b) = log replies s a ++ log replies (play replies s a) b := by
  induction a generalizing s with
  | nil => rfl
  | cons e rest ih =>
      rw [List.cons_append, log, log, ih, List.append_assoc, play_cons]

/-! ## Numbers of documents -/

/-- A number under which no document is open and no batch was made. -/
def Unused (s : Session) (id : DocumentId) : Prop :=
  s.documents.get? id = none ∧ ∀ generation, s.batches.get? ⟨id, generation⟩ = none

/-- An event that loads a document does so under a number that is not in use. -/
def Fresh (s : Session) : Event → Prop
  | .load id .. => s.Unused id
  | _ => True

/-- Runs that load documents under numbers not in use. -/
def Admissible (s : Session) : List Event → Prop
  | [] => True
  | e :: rest => s.Fresh e ∧ Admissible (perform replies s e) rest

/-- A run in two parts is admissible if both parts are, the second one from where the first one ends. -/
theorem admissible_append {s : Session} {a b : List Event} :
    Admissible replies s (a ++ b)
      ↔ Admissible replies s a ∧ Admissible replies (play replies s a) b := by
  induction a generalizing s with
  | nil => exact ⟨fun h => ⟨trivial, h⟩, fun h => h.2⟩
  | cons e rest ih =>
      rw [List.cons_append, Admissible, Admissible, ih, play_cons]
      exact and_assoc.symm

end Session
end Formulary
