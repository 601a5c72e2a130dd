import Formulary.Cache
import Formulary.Document.Loaded
import Formulary.Document.Phase
import Formulary.Error.Application
import Formulary.Render.Gate
import Formulary.Render.Outcome
import Formulary.Render.Slots

/-!
# Sessions — open documents, their batches and the jobs that are under way

A session holds all that documents share: the cache, the registry, the slots and the running jobs.
A document that is opened is registered until it is closed. Each request makes a batch with one job
for each place of the document; requests of one document are numbered, and only the batch with the
last number completes the document.

* `Session.load`, `Session.close` — a document comes and goes.
* `Session.request` — starts a batch.
* `Session.result?` — how a batch ended.
* `Session.stop` — gives up all jobs.
-/

namespace Formulary

open Render

/-- The batch of a request: the document, and the number of the request. -/
structure BatchId where
  document : DocumentId
  generation : Nat
deriving DecidableEq, Repr, Inhabited

/-- A job of a batch: the key of its place. -/
structure JobId where
  batch : BatchId
  location : String
deriving DecidableEq, Repr, Inhabited

/-- Where the document and the bitmaps of a job are found. -/
def JobId.renderKey (j : JobId) : RenderKey := ⟨j.batch.document, j.location⟩

/-- How far a job is. From `working` to `leaving` it holds the slot that its task needs. -/
inductive Stage where
  /-- Waits for its slot. -/
  | queued
  /-- Its collaborator is at work. -/
  | working
  /-- The collaborator is done. -/
  | finished (outcome : Outcome)
  /-- The document was found registered, and the bitmap is about to be stored. -/
  | storing (bitmap : Bitmap)
  /-- The cache is up to date, and the gate is about to be told. -/
  | reporting (error : Option JobError)
  /-- The gate knows, and the slot is about to be given back. -/
  | leaving
deriving Inhabited

/-- A job under way. -/
structure RunningJob where
  task : Task
  stage : Stage := .queued
deriving Inhabited

/-- The gate of a batch, and its summary once the gate gave it. -/
structure Batch where
  gate : CompletionGate
  summary : Option BatchSummary := none
deriving Inhabited

/-- A document that is open, and how its formulas are drawn next. -/
structure OpenDocument where
  loaded : LoadedDocument
  registration : Registration
  fontSize : Binary32
  color : Color
  phase : Phase := .extracted
  generation : Nat := 0

/-- How a session draws formulas unless a document says otherwise, and its bounds. -/
structure SessionOptions where
  fontSize : Binary32 := Binary32.ofNat 16
  color : Color := Color.black
  bounds : CacheBounds := {}
  fetchBound : Nat := 12
  drawBound : Nat := 0

/-- All that the documents of one program share. -/
structure Session where
  fontSize : Binary32
  color : Color
  cache : RenderCache
  registry : Registry := Registry.empty
  slots : Slots
  documents : Table DocumentId OpenDocument := Table.empty
  batches : Table BatchId Batch := Table.empty
  jobs : Table JobId RunningJob := Table.empty
  stopped : Bool := false

namespace Session

/-- A session without documents. -/
def new (options : SessionOptions) : Session where
  fontSize := options.fontSize
  color := options.color
  cache := RenderCache.new options.bounds
  slots := Slots.new options.fetchBound options.drawBound

/-- Loads a document under a number. Nothing changes when it cannot be loaded. -/
def load (s : Session) (id : DocumentId) (ids : Nat → Uuid) (reader : String → Markup.Node)
    (text : String) : Except ConsistencyError Session := do
  let loaded ← LoadedDocument.load ids reader text
  let (registration, registry) := s.registry.register id loaded.extraction.index
  let document : OpenDocument :=
    { loaded, registration, fontSize := s.fontSize, color := s.color }
  return { s with registry, documents := s.documents.set id document }

/-- Closes a document. Its jobs go on, and what they give is dropped. -/
def close (s : Session) (id : DocumentId) : Session :=
  match s.documents.get? id with
  | none => s
  | some document =>
    { s with
      registry := s.registry.release document.registration
      documents := s.documents.erase id }

/-- Sets the font size of the requests to come. -/
def setFontSize (s : Session) (id : DocumentId) (size : Binary32) : Session :=
  { s with documents := s.documents.modify id fun d => { d with fontSize := size } }

/-- Sets the colour of the requests to come. -/
def setColor (s : Session) (id : DocumentId) (color : Color) : Session :=
  { s with documents := s.documents.modify id fun d => { d with color } }

/-- The jobs of a plan, waiting. -/
def enqueue (batch : BatchId) (jobs : Table JobId RunningJob) (plan : List Job) :
    Table JobId RunningJob :=
  plan.foldl (fun jobs job => jobs.set ⟨batch, job.location⟩ { task := job.task }) jobs

/-- The phase of the document of a batch that has completed: an older batch changes nothing. -/
def completeDocument (s : Session) (batch : BatchId) : Session :=
  { s with documents := s.documents.modify batch.document fun d =>
      if d.generation = batch.generation then { d with phase := .completed } else d }

/-- Starts a batch with a job for each place of a document. A batch without jobs completes at once,
and no job starts in a session that was stopped. -/
def request (s : Session) (id : DocumentId) : Option (BatchId × Session) :=
  match s.documents.get? id with
  | none => none
  | some document =>
    let plan := Plan.ofExtraction document.loaded.extraction document.fontSize document.color
    let batch : BatchId := ⟨id, document.generation + 1⟩
    let (summary, gate) := CompletionGate.new id plan.total
    let s := { s with
      documents := s.documents.set id
        { document with phase := .renderRequested, generation := batch.generation }
      batches := s.batches.set batch { gate, summary }
      jobs := if s.stopped then s.jobs else enqueue batch s.jobs plan.jobs }
    some (batch, if summary.isSome then s.completeDocument batch else s)

/-- How a batch ended, once it has: with its summary, or without one if the session was stopped. -/
def result? (s : Session) (batch : BatchId) : Option (Except WaitError BatchSummary) :=
  match (s.batches.get? batch).bind Batch.summary with
  | some summary => some (.ok summary)
  | none => if s.stopped then some (.error .abandoned) else none

/-- How a batch ended, or that it did not within a limit. -/
def resultWithin (s : Session) (batch : BatchId) (limit : Duration) : Except WaitError BatchSummary :=
  (s.result? batch).getD (.error (.timedOut limit))

/-- Gives up all jobs; no job starts after that. -/
def stop (s : Session) : Session := { s with jobs := Table.empty, stopped := true }

end Session

/-- The description of a document by the text of its number, its entries and its phase. -/
def OpenDocument.describe (d : OpenDocument) (id : String) : String :=
  "MathDocument \x7b id: DocumentId(" ++ id ++ "), math: " ++
    toString d.loaded.extraction.math.size ++ ", images: " ++
    toString d.loaded.extraction.images.size ++ ", phase: " ++ d.phase.title ++ " \x7d"

end Formulary
