import Formulary.Render.Rasteriser

/-!
# Stand-in commands — a command that does the same whatever it is asked

The output file of a command is there, and empty, before the command starts.

* `StandIn.run` — what the command does.
-/

namespace Formulary.Render

/-- A command that copies one file to its output, leaves messages, and ends with a status. -/
structure StandIn where
  fixture : Option ByteArray := none
  messages : ByteArray := ByteArray.empty
  /-- `none` when the command is killed. -/
  status : Option Nat := some 0
  /-- Whether the output file is removed before anything is copied. -/
  removesOutput : Bool := false
deriving Inhabited

/-- What the command does. -/
def StandIn.run (c : StandIn) (_ : MathRequest) : CommandResult :=
  .finished c.status c.messages <|
    match c.fixture with
    | some content => some content
    | none => if c.removesOutput then none else some ByteArray.empty

end Formulary.Render
