import Formulary.Error.Consistency
import Formulary.Number.Duration

/-!
# Application errors — why the program ends without its result

* `SettingsError`, `ServiceError`, `WaitError` — the causes in the settings, in the services around
  the program, and in waiting for a batch.
* `ApplicationError` — all causes together.
* `ApplicationError.message`, `ApplicationError.chain` — the text, and the texts from the error down
  to its first cause.
* `ApplicationError.exitStatus` — the status that the program ends with.
-/

namespace Formulary

/-- Why settings are refused. -/
inductive SettingsError where
  /-- A file or the environment cannot be read or converted. -/
  | build (reason : String)
  /-- A value is out of its range. -/
  | invalid (key reason : String)
deriving DecidableEq, Repr, Inhabited

/-- The text of an error of the settings. -/
def SettingsError.message : SettingsError → String
  | build reason => "failed to build configuration: " ++ reason
  | invalid key reason => "invalid configuration for `" ++ key ++ "`: " ++ reason

/-- Why a service cannot be set up. -/
inductive ServiceError where
  | httpClient (reason : String)
  | telemetry (reason : String)
deriving DecidableEq, Repr, Inhabited

/-- The text of an error of a service. -/
def ServiceError.message : ServiceError → String
  | httpClient reason => "http client error: " ++ reason
  | telemetry reason => "telemetry initialization failed: " ++ reason

/-- Why waiting for a batch gave no summary. -/
inductive WaitError where
  | timedOut (limit : Duration)
  | abandoned
deriving DecidableEq, Repr, Inhabited

/-- The text of an error of waiting. -/
def WaitError.message : WaitError → String
  | timedOut limit => "render batch did not complete within " ++ limit.toString
  | abandoned => "render batch was abandoned before completion"

/-- Why the program ends without its result. -/
inductive ApplicationError where
  | document (cause : ConsistencyError)
  | service (cause : ServiceError)
  | settings (cause : SettingsError)
  | batch (cause : WaitError)
  /-- A file that cannot be read, with the reason. -/
  | input (path reason : String)
  | output (reason : String)
  | unexpected (reason : String)
deriving DecidableEq, Repr

namespace ApplicationError

/-- The text of an error. -/
def message : ApplicationError → String
  | document cause => cause.documentMessage
  | service cause => cause.message
  | settings cause => cause.message
  | batch cause => cause.message
  | input path reason => "failed to read `" ++ path ++ "`: " ++ reason
  | output reason => "failed to write output: " ++ reason
  | unexpected reason => "unexpected error: " ++ reason

/-- The texts of the causes below an error. -/
def causes : ApplicationError → List String
  | document cause => [cause.message]
  | input _ reason => [reason]
  | _ => []

/-- The texts from the error down to its first cause. -/
def chain (e : ApplicationError) : List String := e.message :: e.causes

/-- The status that the program ends with. -/
def exitStatus : ApplicationError → Nat
  | settings _ => 78
  | input .. => 66
  | document _ => 65
  | batch (.timedOut _) => 75
  | batch .abandoned | service _ | output _ | unexpected _ => 70

end ApplicationError
end Formulary
