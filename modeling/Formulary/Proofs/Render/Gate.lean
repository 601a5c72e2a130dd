import Formulary.Proofs.Render.Registry
import Formulary.Render.Gate

/-!
# Gates — what a gate knows after some arrivals

A gate counts the arrivals and how many of them failed. So all that it knows follows from the outcomes
that arrived, and one more arrival adds one more outcome, until as many have arrived as the gate is for.

* `CompletionGate.after` — the gate after some outcomes arrived.
* `BatchSummary.of` — the summary of some outcomes.
* `CompletionGate.document_arrive`, `CompletionGate.index_arrive` — what no arrival changes.
* `CompletionGate.arrive_congr` — the registry decides neither the gate nor the summary.
* `CompletionGate.new_eq`, `CompletionGate.arrive_after` — a new gate, and one more arrival.
* `CompletionGate.arrive_full` — arrivals that come too late change nothing.
-/

namespace Formulary.Render

/-- How many outcomes there are, how many without and how many with an error. -/
def BatchSummary.of (outcomes : List (Option JobError)) : BatchSummary :=
  ⟨outcomes.length, outcomes.countP Option.isNone, outcomes.countP Option.isSome⟩

/-- The summary does not depend on the order. -/
theorem BatchSummary.of_perm {a b : List (Option JobError)} (h : a.Perm b) :
    BatchSummary.of a = BatchSummary.of b := by
  rw [BatchSummary.of, BatchSummary.of, h.length_eq, h.countP_eq, h.countP_eq]

namespace CompletionGate

/-- The gate for `total` jobs of a document after some outcomes arrived. -/
def after (document : DocumentId) (total : Nat) (outcomes : List (Option JobError)) :
    CompletionGate where
  document := document
  total := total
  arrived := outcomes.length
  failed := outcomes.countP Option.isSome
  signalled := decide (outcomes.length = total)

/-- The summary that a gate has given after some outcomes arrived. -/
def summaryAfter (total : Nat) (outcomes : List (Option JobError)) : Option BatchSummary :=
  if outcomes.length = total then some (BatchSummary.of outcomes) else none

/-! ## Any gate -/

theorem document_complete (g : CompletionGate) : g.complete.2.document = g.document := by
  rw [complete]
  by_cases hsignalled : g.signalled = true
  · rw [if_pos hsignalled]
  · rw [if_neg hsignalled]

/-- A gate stays that of its document. -/
theorem document_arrive (g : CompletionGate) (registry : Registry) (location : String)
    (error : Option JobError) : (g.arrive registry location error).gate.document = g.document := by
  rw [arrive]
  by_cases hfull : g.arrived ≥ g.total
  · rw [if_pos hfull]
  · rw [if_neg hfull]
    by_cases hlast : g.arrived + 1 = g.total
    · simp only [if_pos hlast]
      exact document_complete _
    · simp only [if_neg hlast]

/-- An arrival is recorded, or comes too late and changes nothing. -/
theorem registry_arrive (g : CompletionGate) (registry : Registry) (location : String)
    (error : Option JobError) :
    (g.arrive registry location error).registry
      = if g.arrived ≥ g.total then registry
        else (registry.record g.document location error).2 := by
  rw [arrive]
  by_cases hfull : g.arrived ≥ g.total
  · rw [if_pos hfull, if_pos hfull]
  · rw [if_neg hfull, if_neg hfull]
    by_cases hlast : g.arrived + 1 = g.total
    · simp only [if_pos hlast]
    · simp only [if_neg hlast]

/-- The registry has no part in what an arrival makes of the gate, nor in the summary. -/
theorem arrive_congr (g : CompletionGate) (registry registry' : Registry) (location : String)
    (error : Option JobError) :
    (g.arrive registry' location error).gate = (g.arrive registry location error).gate ∧
      (g.arrive registry' location error).summary = (g.arrive registry location error).summary := by
  rw [arrive, arrive]
  by_cases hfull : g.arrived ≥ g.total
  · rw [if_pos hfull, if_pos hfull]
    exact ⟨rfl, rfl⟩
  · rw [if_neg hfull, if_neg hfull]
    by_cases hlast : g.arrived + 1 = g.total
    · simp only [if_pos hlast, and_self]
    · simp only [if_neg hlast, and_self]

/-- An arrival changes no index. -/
theorem index_arrive (g : CompletionGate) (registry : Registry) (location : String)
    (error : Option JobError) (d : DocumentId) :
    ((g.arrive registry location error).registry.slot? d).map DocumentSlot.index
      = (registry.slot? d).map DocumentSlot.index := by
  rw [registry_arrive]
  by_cases hfull : g.arrived ≥ g.total
  · rw [if_pos hfull]
  · rw [if_neg hfull, Registry.index_record]

/-! ## Gates by what arrived -/

variable {document : DocumentId} {total : Nat} {outcomes : List (Option JobError)}
  {registry : Registry} {location : String} {error : Option JobError}

/-- Outcomes without an error are those that are left when the failed ones are taken away. -/
theorem countP_isNone (outcomes : List (Option JobError)) :
    outcomes.length - outcomes.countP Option.isSome = outcomes.countP Option.isNone := by
  have hsplit := List.length_eq_countP_add_countP Option.isSome (l := outcomes)
  have hnone : outcomes.countP (fun o => ¬ Option.isSome o = true)
      = outcomes.countP Option.isNone := by
    refine List.countP_congr ?_
    intro o _
    cases o with
    | none => simp
    | some e => simp
  omega

/-- A new gate has seen no arrival; if it is for no job it gives its summary at once. -/
theorem new_eq : new document total = (summaryAfter total [], after document total []) := by
  rw [new, summaryAfter, List.length_nil]
  by_cases htotal : total = 0
  · subst htotal
    rfl
  · rw [if_neg htotal, if_neg (Ne.symm htotal), after]
    simp [Ne.symm htotal]

/-- One more arrival at a gate that has room adds its outcome, which is recorded; the last one gives the
    summary. -/
theorem arrive_after (h : outcomes.length < total) :
    (after document total outcomes).arrive registry location error
      = { arrival := if outcomes.length + 1 = total then .completed else .counted
          summary := summaryAfter total (outcomes ++ [error])
          gate := after document total (outcomes ++ [error])
          registry := (registry.record document location error).2 } := by
  have hroom : ¬ outcomes.length ≥ total := by omega
  have hsignal : decide (outcomes.length = total) = false := by
    rw [decide_eq_false_iff_not]
    omega
  have hlength : (outcomes ++ [error]).length = outcomes.length + 1 := by
    rw [List.length_append, List.length_singleton]
  have hfailed : (if error.isSome then outcomes.countP Option.isSome + 1
      else outcomes.countP Option.isSome) = (outcomes ++ [error]).countP Option.isSome := by
    rw [List.countP_append, List.countP_singleton]
    by_cases herror : error.isSome = true
    · rw [if_pos herror, if_pos herror]
    · rw [if_neg herror, if_neg herror, Nat.add_zero]
  rw [arrive]
  show (if outcomes.length ≥ total then _ else _) = _
  rw [if_neg hroom]
  simp only [after, hfailed, summaryAfter, hlength]
  by_cases hlast : outcomes.length + 1 = total
  · -- the last job: the gate has not signalled before, so it completes now
    have hsucceeded : total - (outcomes ++ [error]).countP Option.isSome
        = (outcomes ++ [error]).countP Option.isNone := by
      rw [← countP_isNone, hlength, hlast]
    simp only [hlast, if_true, complete, hsignal, Bool.false_eq_true, if_false, summary,
      BatchSummary.of, hlength, hsucceeded, decide_true]
  · simp only [hsignal, hlast, if_false, decide_false]

/-- An arrival that comes when all jobs have arrived changes nothing. -/
theorem arrive_full (h : total ≤ outcomes.length) :
    (after document total outcomes).arrive registry location error
      = { arrival := .overflow, summary := none, gate := after document total outcomes
          registry } := by
  rw [arrive]
  exact if_pos h

end CompletionGate
end Formulary.Render
