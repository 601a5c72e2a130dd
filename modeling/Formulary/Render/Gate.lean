import Formulary.Render.Registry

/-!
# Completion gates — one signal when all jobs of a batch have reported

A gate is made for a number of jobs. Each job arrives once with its outcome, which is recorded in
the registry. When the last one has arrived the gate completes and gives its summary, once; a gate
for no jobs completes at once. Arrivals after that change nothing.

* `CompletionGate.new` — a gate, and its summary if there are no jobs.
* `CompletionGate.arrive` — the arrival of a job.
-/

namespace Formulary.Render

/-- How many jobs a batch had and how they ended. -/
structure BatchSummary where
  total : Nat
  succeeded : Nat
  failed : Nat
deriving DecidableEq, Repr, Inhabited

/-- What an arrival did. -/
inductive Arrival where
  | counted
  | completed
  | overflow
deriving DecidableEq, Repr, Inhabited

/-- The name of an arrival. -/
def Arrival.name : Arrival → String
  | counted => "counted"
  | completed => "completed"
  | overflow => "overflow"

/-- A gate for `total` jobs of a document. It is `signalled` when it gave its summary. -/
structure CompletionGate where
  document : DocumentId
  total : Nat
  arrived : Nat := 0
  failed : Nat := 0
  signalled : Bool := false
deriving DecidableEq, Repr, Inhabited

namespace CompletionGate

/-- The summary of the arrivals so far. -/
def summary (g : CompletionGate) : BatchSummary := ⟨g.total, g.arrived - g.failed, g.failed⟩

/-- Gives the summary, unless it was given before. -/
def complete (g : CompletionGate) : Option BatchSummary × CompletionGate :=
  if g.signalled then (none, g) else (some g.summary, { g with signalled := true })

/-- A gate for `total` jobs. -/
def new (document : DocumentId) (total : Nat) : Option BatchSummary × CompletionGate :=
  let g : CompletionGate := { document, total }
  if total = 0 then g.complete else (none, g)

/-- What an arrival changes and gives. -/
structure Arrived where
  arrival : Arrival
  summary : Option BatchSummary
  gate : CompletionGate
  registry : Registry

/-- The arrival of a job with its outcome. -/
def arrive (g : CompletionGate) (registry : Registry) (location : String)
    (outcome : Option JobError) : Arrived :=
  if g.arrived ≥ g.total then ⟨.overflow, none, g, registry⟩
  else
    let failed := if outcome.isSome then g.failed + 1 else g.failed
    let (_, registry) := registry.record g.document location outcome
    let g := { g with arrived := g.arrived + 1, failed }
    if g.arrived = g.total then
      let (summary, g) := g.complete
      ⟨.completed, summary, g, registry⟩
    else ⟨.counted, none, g, registry⟩

end CompletionGate
end Formulary.Render
