import Formulary.Render.Gate

/-!
# Guarded gates — a gate that threads share, and its callback

The jobs of a batch run in threads of their own, so a gate stands under a lock. What is to be done
with the summary is a callback, which runs while the lock is held and after the registry has the last
outcome. It may panic: the call that ran it does not return then and the lock is poisoned. A poisoned
lock is recovered, and the gate is used as it was left.

* `Locked` — a value under a lock; `Locked.enter`, `Locked.leave`.
* `Callback` — what is done with a summary; `Callback.signal` runs it if there is one.
* `GuardedGate.new`, `GuardedGate.arrive` — a gate under a lock, and the arrival of a job.
-/

namespace Formulary.Render

/-- A value under a lock. The lock is poisoned once a thread panicked while it held it. -/
structure Locked (α : Type) where
  value : α
  poisoned : Bool := false
deriving DecidableEq, Repr

namespace Locked

variable {α : Type}

/-- What the lock gives: the value, as an error if it is poisoned. -/
def lock (l : Locked α) : Except α α := if l.poisoned then .error l.value else .ok l.value

/-- Takes the lock; one that is poisoned is recovered. -/
def enter (l : Locked α) : α :=
  match l.lock with
  | .ok value => value
  | .error value => value

/-- Gives the lock back with a value, in order or in a panic. -/
def leave (l : Locked α) (value : α) (panicked : Bool) : Locked α := ⟨value, l.poisoned || panicked⟩

end Locked

/-- What is done with a summary. It may read and change the registry, and the flag says whether it
panics. -/
abbrev Callback := BatchSummary → Registry → Bool × Registry

/-- A run of a callback: the summary and the registry that it was given. -/
structure CallbackRun where
  summary : BatchSummary
  registry : Registry

/-- What a signal did. -/
structure Signalled where
  ran : Option CallbackRun
  panicked : Bool
  registry : Registry

/-- Runs a callback if there is a summary. -/
def Callback.signal (callback : Callback) (summary : Option BatchSummary) (registry : Registry) :
    Signalled :=
  match summary with
  | none => ⟨none, false, registry⟩
  | some summary =>
    let (panicked, after) := callback summary registry
    ⟨some ⟨summary, registry⟩, panicked, after⟩

/-- How a call ended. -/
inductive GateReply where
  | returned (arrival : Arrival)
  | panicked
deriving DecidableEq, Repr, Inhabited

/-- The name of a reply. -/
def GateReply.name : GateReply → String
  | returned arrival => arrival.name
  | panicked => "panic"

/-- A gate under a lock. -/
abbrev GuardedGate := Locked CompletionGate

/-- A gate that was made, unless its callback panicked, with the run of the callback. -/
structure GateMade where
  gate : Option GuardedGate
  ran : Option CallbackRun
  registry : Registry

/-- How a call ended, what it ran and what it left. -/
structure GateCalled where
  reply : GateReply
  ran : Option CallbackRun
  gate : GuardedGate
  registry : Registry

namespace GuardedGate

/-- A gate for `total` jobs under a lock. For no jobs the callback runs here. -/
def new (document : DocumentId) (total : Nat) (callback : Callback) (registry : Registry) :
    GateMade :=
  let (summary, gate) := CompletionGate.new document total
  let signalled := callback.signal summary registry
  { gate := if signalled.panicked then none else some ⟨gate, false⟩
    ran := signalled.ran
    registry := signalled.registry }

/-- The arrival of a job at a gate under a lock. -/
def arrive (g : GuardedGate) (callback : Callback) (registry : Registry) (location : String)
    (outcome : Option JobError) : GateCalled :=
  let arrived := g.enter.arrive registry location outcome
  let signalled := callback.signal arrived.summary arrived.registry
  { reply := if signalled.panicked then .panicked else .returned arrived.arrival
    ran := signalled.ran
    gate := g.leave arrived.gate signalled.panicked
    registry := signalled.registry }

end GuardedGate
end Formulary.Render
