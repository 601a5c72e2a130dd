import Formulary.Session.Basic

/-!
# Steps of a job — what one job does to the session, one thing at a time

A job takes its slot, lets its collaborator work, brings the cache up to date, tells the gate and
gives its slot back. Other jobs and requests may come between any two of these steps, so each of
them is one step here.

* `Session.finish` — the collaborator of a working job is done.
* `Session.advance` — the next step of any other job.
-/

namespace Formulary
namespace Session

open Render

/-- A job at another stage. -/
def setStage (s : Session) (id : JobId) (job : RunningJob) (stage : Stage) : Session :=
  { s with jobs := s.jobs.set id { job with stage } }

/-- A job waits until there is a slot for it. -/
def start (s : Session) (id : JobId) (job : RunningJob) : Session :=
  match s.slots.acquire? job.task with
  | none => s
  | some slots => { s with slots }.setStage id job .working

/-- A bitmap is kept only for a registered document, and an error takes away what was kept. -/
def settle (s : Session) (id : JobId) (job : RunningJob) : Outcome → Session
  | .ok bitmap =>
    s.setStage id job (if s.registry.isRegistered id.batch.document then .storing bitmap else .reporting none)
  | .error e =>
    { s with cache := (s.cache.remove id.renderKey).2 }.setStage id job (.reporting (some e))

/-- The bitmap goes into the cache. -/
def store (s : Session) (id : JobId) (job : RunningJob) (bitmap : Bitmap) : Session :=
  { s with cache := (s.cache.insert id.renderKey bitmap).2 }.setStage id job (.reporting none)

/-- The gate of the batch is told, and may complete. -/
def report (s : Session) (id : JobId) (job : RunningJob) (error : Option JobError) : Session :=
  match s.batches.get? id.batch with
  | none => s.setStage id job .leaving
  | some batch =>
    let arrived := batch.gate.arrive s.registry id.location error
    let summary := batch.summary.or arrived.summary
    let s := { s with
      registry := arrived.registry
      batches := s.batches.set id.batch { gate := arrived.gate, summary } }
    (if arrived.summary.isSome then s.completeDocument id.batch else s).setStage id job .leaving

/-- The slot is given back, and the job is over. -/
def leave (s : Session) (id : JobId) (job : RunningJob) : Session :=
  { s with slots := s.slots.release job.task, jobs := s.jobs.erase id }

/-- The collaborator of a job is done, with an outcome. Nothing changes unless the job is working. -/
def finish (s : Session) (id : JobId) (outcome : Outcome) : Session :=
  match s.jobs.get? id with
  | some ⟨task, .working⟩ => s.setStage id ⟨task, .working⟩ (.finished outcome)
  | _ => s

/-- The next step of a job. Nothing changes while it waits for a slot or for its collaborator, or
when there is no such job. -/
def advance (s : Session) (id : JobId) : Session :=
  match s.jobs.get? id with
  | none => s
  | some job =>
    match job.stage with
    | .queued => s.start id job
    | .working => s
    | .finished outcome => s.settle id job outcome
    | .storing bitmap => s.store id job bitmap
    | .reporting error => s.report id job error
    | .leaving => s.leave id job

end Session
end Formulary
