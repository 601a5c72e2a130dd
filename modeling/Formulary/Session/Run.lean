import Formulary.Raster.Decode
import Formulary.Session.Advance

/-!
# Runs — a session together with the collaborators that its jobs call

Collaborators act on a state of their own, which may be files, or a record of what was called. A
call may wait at a named hold until the hold is released. A run moves every job as far as it goes:
until it is over, waits for a slot, or its call waits at a hold.

* `Collaborators` — who fetches, draws, and finds resources.
* `Run.settle` — moves all jobs as far as they go.
* `Run.release`, `Run.parked` — lets calls go on, and counts those that wait.
-/

namespace Formulary

open Render

/-- A call that was taken: the hold at which it waits, if any, and how it ends. -/
structure Call (α : Type) where
  hold : Option String := none
  answer : Answer α
deriving Inhabited

/-- Who does the work of jobs, over a state `σ`, what is done to every drawn bitmap, and how the bytes of
images are decoded. -/
structure Collaborators (σ : Type) where
  fetch : WebUrl → σ → Call Response × σ
  draw : MathRequest → σ → Call Bitmap × σ
  find : String → σ → Call (Option ByteArray) × σ
  finish : Bitmap → Answer Bitmap := .given
  decode : Raster.Decoder := Raster.decodeImage

/-- A call of a job that is under way. -/
structure PendingCall where
  hold : Option String
  outcome : Outcome
deriving Inhabited

/-- The call that a task makes; images may take `limit` bytes. -/
def Collaborators.call {σ : Type} (c : Collaborators σ) (limit : Nat) (task : Task) (world : σ) :
    PendingCall × σ :=
  match task with
  | .fetch url =>
    let (call, world) := c.fetch url world
    (⟨call.hold, Outcome.ofResponse (c.decode limit) call.answer⟩, world)
  | .draw request =>
    let (call, world) := c.draw request world
    (⟨call.hold, Outcome.ofDrawing c.finish call.answer⟩, world)
  | .load name =>
    let (call, world) := c.find name world
    (⟨call.hold, Outcome.ofResource (c.decode limit) name call.answer⟩, world)

/-- A session, the state of its collaborators, and the calls that are under way. -/
structure Run (σ : Type) where
  session : Session
  world : σ
  calls : Table JobId PendingCall := Table.empty
  released : List String := []

namespace Run

variable {σ : Type}

/-- Whether a call waits at a hold. -/
def isHeld (r : Run σ) (call : PendingCall) : Bool :=
  match call.hold with
  | some name => !r.released.contains name
  | none => false

/-- The number of calls that wait at a hold. -/
def parked (r : Run σ) (name : String) : Nat :=
  r.calls.entries.countP fun e => e.2.hold == some name && r.isHeld e.2

/-- Moves a job by one step. A job that gets its slot makes its call. -/
def move (c : Collaborators σ) (r : Run σ) (id : JobId) : Run σ :=
  match r.session.jobs.get? id with
  | none => r
  | some ⟨_, .working⟩ =>
    match r.calls.get? id with
    | none => r
    | some call =>
      if r.isHeld call then r
      else { r with session := r.session.finish id call.outcome, calls := r.calls.erase id }
  | some ⟨task, .queued⟩ =>
    let session := r.session.advance id
    match (session.jobs.get? id).map RunningJob.stage with
    | some .working =>
      let (call, world) := c.call session.cache.maxBytes task r.world
      { r with session, world, calls := r.calls.set id call }
    | _ => { r with session }
  | some _ => { r with session := r.session.advance id }

/-- Moves a job as far as it goes, which is at most six steps. -/
def finishJob (c : Collaborators σ) (r : Run σ) (id : JobId) : Run σ :=
  (List.replicate 6 id).foldl (move c) r

/-- Moves all jobs as far as they go, up to `rounds` times; a round in which no call is made and no
job ends is the last one. -/
def settleWithin (c : Collaborators σ) (r : Run σ) : Nat → Run σ
  | 0 => r
  | rounds + 1 =>
    let next := r.session.jobs.keys.foldl (finishJob c) r
    if next.session.jobs.size = r.session.jobs.size && next.calls.size = r.calls.size then next
    else settleWithin c next rounds

/-- Moves all jobs as far as they go. A round makes a call or ends a job, and no job does either
more than once. -/
def settle (c : Collaborators σ) (r : Run σ) : Run σ :=
  r.settleWithin c (2 * r.session.jobs.size + 1)

/-- Releases a hold: the calls that wait there, now and later, go on. -/
def release (c : Collaborators σ) (r : Run σ) (name : String) : Run σ :=
  settle c { r with released := name :: r.released }

/-- Stops the session; the calls under way are forgotten. -/
def stop (r : Run σ) : Run σ := { r with session := r.session.stop, calls := Table.empty }

end Run
end Formulary
