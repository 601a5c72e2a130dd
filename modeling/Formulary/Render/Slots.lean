import Formulary.Render.Plan

/-!
# Slots — how many jobs of a kind may work at once

Fetching is bounded, drawing is bounded if a bound is set, and loading never waits.

* `Slots.new` — all slots free.
* `Slots.acquire?`, `Slots.release` — a job takes the slot of its task, if it needs one, and gives
  it back.
-/

namespace Formulary.Render

/-- The free slots; `draw` is `none` when drawing is not bounded. -/
structure Slots where
  fetch : Nat
  draw : Option Nat
deriving DecidableEq, Repr, Inhabited

namespace Slots

/-- All slots free, at least one for fetching; zero leaves drawing unbounded. -/
def new (fetchBound drawBound : Nat) : Slots :=
  ⟨max 1 fetchBound, if drawBound = 0 then none else some drawBound⟩

/-- The slots left when a task has taken the one it needs, if there is one. -/
def acquire? (s : Slots) : Task → Option Slots
  | .fetch _ => if s.fetch = 0 then none else some { s with fetch := s.fetch - 1 }
  | .draw _ =>
    match s.draw with
    | none => some s
    | some 0 => none
    | some (n + 1) => some { s with draw := some n }
  | .load _ => some s

/-- The slots when a task has given its slot back. -/
def release (s : Slots) : Task → Slots
  | .fetch _ => { s with fetch := s.fetch + 1 }
  | .draw _ => { s with draw := s.draw.map (· + 1) }
  | .load _ => s

end Slots
end Formulary.Render
