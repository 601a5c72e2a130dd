import Formulary.Session.Run

/-!
# Scripts — collaborators that do as they are told

A script lists for each address, formula and resource what happens at each call; the last entry of a
list holds for all later calls. Calls are counted by what was called.

* `Script.collaborators` — the collaborators of a script; their state is the count of calls.
* `Script.plainDrawing` — the bitmap of a formula that a script does not mention.
-/

namespace Formulary

open Render

/-- How often each thing was called, by the kind and the name of the thing. -/
abbrev CallCounts := Table String Nat

/-- What happens at each call. -/
structure Script where
  fetches : List (String × List (Call Response)) := []
  /-- A drawing without a bitmap of its own is the plain one. -/
  drawings : List (String × List (Call (Option Bitmap))) := []
  resources : List (String × List (Call (Option ByteArray))) := []
  finish : Bitmap → Answer Bitmap := .given

namespace Script

/-- The entry of the `n`-th call, counted from zero: the last one holds for all later calls. -/
def turn? {α : Type} (turns : List (Call α)) (n : Nat) : Option (Call α) :=
  turns[min n (turns.length - 1)]?

/-- Counts a call, and gives its entry in a part of the script. -/
def take {α : Type} (part : List (String × List (Call α))) (kind name : String)
    (counts : CallCounts) : Option (Call α) × CallCounts :=
  let key := kind ++ " " ++ name
  let n := (counts.get? key).getD 0
  ((part.lookup name).bind fun turns => turn? turns n, counts.set key (n + 1))

/-- A bitmap of the colour of a formula, as wide as its font size, and two rows high when the
formula stands on its own. -/
def plainDrawing (request : MathRequest) : Bitmap :=
  Bitmap.uniform (request.fontSize.roundToNat (UInt32.size - 1))
    (match request.style with | .display => 2 | .inline => 1) request.color

/-- The answer of a drawing, with the plain one where the script gives no bitmap. -/
def drawn (request : MathRequest) : Answer (Option Bitmap) → Answer Bitmap
  | .given bitmap => .given (bitmap.getD (plainDrawing request))
  | .failed e => .failed e
  | .broken message => .broken message

/-- The collaborators of a script. -/
def collaborators (script : Script) : Collaborators CallCounts where
  fetch url counts :=
    let (call, counts) := take script.fetches "http" url.toString counts
    (call.getD { answer := .failed (.transport none "no route") }, counts)
  draw request counts :=
    let (call, counts) := take script.drawings "math" request.latex counts
    let call := call.getD { answer := .given none }
    ({ hold := call.hold, answer := drawn request call.answer }, counts)
  find name counts :=
    let (call, counts) := take script.resources "resources" name counts
    (call.getD { answer := .given none }, counts)
  finish := script.finish

end Script
end Formulary
