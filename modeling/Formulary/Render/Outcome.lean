import Formulary.Bitmap
import Formulary.Error.Job

/-!
# Outcomes — what becomes of a job

A job calls a collaborator: one that fetches, one that draws, or one that looks up resources. The
call gives a value, fails with an error, or breaks off. Bytes are decoded to a bitmap. The outcome of
the job is a bitmap or an error, whatever the collaborator does.

* `Answer` — the three ways in which a call ends.
* `Outcome.ofResponse`, `Outcome.ofDrawing`, `Outcome.ofResource` — from answers to outcomes.
-/

namespace Formulary.Render

/-- How a call ends. A call that breaks off may leave a message. -/
inductive Answer (α : Type) where
  | given (value : α)
  | failed (error : JobError)
  | broken (message : Option String)
deriving Inhabited

/-- What a server answers. -/
structure Response where
  status : Nat
  body : ByteArray
deriving Inhabited

/-- A bitmap, or why there is none. -/
abbrev Outcome := Except JobError Bitmap

namespace Outcome

/-- The error of a call that broke off inside a job. -/
def jobBroken (message : Option String) : JobError :=
  .render ("render job panicked: " ++ message.getD "unknown panic")

/-- The error of a call that broke off in a task of its own. -/
def taskBroken (message : Option String) : JobError :=
  .render ("render task panicked: " ++ message.getD "unknown panic")

/-- A fetched image: the status has to be a success, and the body is decoded. -/
def ofResponse (decode : ByteArray → Outcome) : Answer Response → Outcome
  | .given response =>
    if isSuccess response.status then decode response.body
    else .error (.httpStatus response.status)
  | .failed e => .error e
  | .broken message => .error (jobBroken message)

/-- A drawn formula, after the bitmap has gone through the finishing step. -/
def ofDrawing (finish : Bitmap → Answer Bitmap) : Answer Bitmap → Outcome
  | .given bitmap =>
    match finish bitmap with
    | .given finished => .ok finished
    | .failed e => .error e
    | .broken message => .error (taskBroken message)
  | .failed e => .error e
  | .broken message => .error (taskBroken message)

/-- A resource: it has to be there, and is decoded. -/
def ofResource (decode : ByteArray → Outcome) (name : String) : Answer (Option ByteArray) → Outcome
  | .given (some bytes) => decode bytes
  | .given none => .error (.resourceNotFound name)
  | .failed e => .error e
  | .broken message => .error (jobBroken message)

end Outcome
end Formulary.Render
