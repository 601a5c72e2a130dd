/-!
# Job errors — why a piece of a document could not be rendered

* `JobError` — the four causes.
* `JobError.message`, `JobError.kind` — the text and the name of the kind.
* `isSuccess` — which answers of a server count as success.
-/

namespace Formulary

/-- Why a job gave no bitmap. -/
inductive JobError where
  /-- The server could not be reached, or answered with a status that is no success. -/
  | transport (status : Option Nat) (reason : String)
  /-- The bytes are no image that can be read. -/
  | decode (reason : String)
  /-- The formula could not be drawn. -/
  | render (reason : String)
  /-- There is no resource of that name. -/
  | resourceNotFound (name : String)
deriving DecidableEq, Repr, Inhabited

/-- Whether a status of a server is a success. -/
def isSuccess (status : Nat) : Bool := 200 ≤ status && status < 300

namespace JobError

/-- The error of an answer with a status that is no success. -/
def httpStatus (status : Nat) : JobError :=
  transport (some status) ("unexpected status " ++ toString status)

/-- The name of the kind. -/
def kind : JobError → String
  | transport .. => "transport"
  | decode _ => "decode"
  | render _ => "render"
  | resourceNotFound _ => "resource_not_found"

/-- The text of an error. -/
def message : JobError → String
  | transport (some status) reason =>
    "transport error (HTTP " ++ toString status ++ "): " ++ reason
  | transport none reason => "transport error (no response): " ++ reason
  | decode reason => "image decode failed: " ++ reason
  | render reason => "math render failed: " ++ reason
  | resourceNotFound name => "resource `" ++ name ++ "` not found"

end JobError
end Formulary
