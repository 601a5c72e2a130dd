import Formulary.Proofs.Session.Valid

/-!
# Batches — every job arrives at most once, and the last one signals

A batch is followed from its request on by the list of its jobs that have reported. Each job of the plan
either is on that list, or is under way with nothing but its own outcome; the gate knows exactly the
outcomes of the list. One event adds at most one job to the list.

* `jobOutcome`, `errorOf` — what becomes of a job of a batch, and what it reports.
* `Tracks` — the invariant of a batch.
* `Tracks.job_of`, `Tracks.waiting_of` — what is known of a running job of the batch.
* `Tracks.move`, `Tracks.report`, `Tracks.leave` — a job goes on, reports, and goes away.
-/

namespace Formulary

open Render

/-- The error of an outcome, which is what a job reports. -/
def errorOf : Outcome → Option JobError
  | .ok _ => none
  | .error e => some e

/-- The job that takes its next step in an event. -/
def Event.job? : Event → Option JobId
  | .answer id => some id
  | .step id => some id
  | _ => none

namespace Session

/-- What becomes of a job of a batch; images may take `limit` bytes. -/
def jobOutcome (replies : JobId → Reply) (limit : Nat) (b : BatchId) (job : Job) : Outcome :=
  (replies ⟨b, job.location⟩).outcome limit job.task

/-- What a job of a batch reports. -/
def jobError (replies : JobId → Reply) (limit : Nat) (b : BatchId) (job : Job) : Option JobError :=
  errorOf (jobOutcome replies limit b job)

/-- The stages that a job with an outcome passes before it has reported. -/
def Fits (outcome : Outcome) : Stage → Prop
  | .queued => True
  | .working => True
  | .finished o => o = outcome
  | .storing bitmap => outcome = .ok bitmap
  | .reporting error => error = errorOf outcome
  | .leaving => False

/-- The gate and the summary of a batch whose jobs reported some errors. -/
def batchAfter (b : BatchId) (total : Nat) (errors : List (Option JobError)) : Batch where
  gate := CompletionGate.after b.document total errors
  summary := CompletionGate.summaryAfter total errors

/-- A batch with a plan of jobs, of which `arrived` have reported, in this order. -/
structure Tracks (replies : JobId → Reply) (limit : Nat) (plan : List Job) (b : BatchId)
    (s : Session) (arrived : List Job) : Prop where
  maxBytes : s.cache.maxBytes = limit
  apart : (plan.map Job.location).Nodup
  batch : s.batches.get? b
    = some (batchAfter b plan.length (arrived.map (jobError replies limit b)))
  nodup : arrived.Nodup
  planned : ∀ job ∈ arrived, job ∈ plan
  waiting : ∀ job ∈ plan, job ∉ arrived → ∃ stage,
    s.jobs.get? ⟨b, job.location⟩ = some ⟨job.task, stage⟩ ∧
    Fits (jobOutcome replies limit b job) stage
  gone : ∀ job ∈ arrived, ∀ running, s.jobs.get? ⟨b, job.location⟩ = some running →
    running.stage = .leaving
  only : ∀ location running, s.jobs.get? ⟨b, location⟩ = some running →
    ∃ job ∈ plan, job.location = location

variable {replies : JobId → Reply} {limit : Nat} {plan : List Job} {b : BatchId}
  {s s' : Session} {arrived : List Job}

/-- The invariant depends on the batch, on its jobs and on the bound of the cache only. -/
theorem Tracks.congr (h : Tracks replies limit plan b s arrived)
    (hmaxBytes : s'.cache.maxBytes = s.cache.maxBytes)
    (hbatch : s'.batches.get? b = s.batches.get? b)
    (hjobs : ∀ location, s'.jobs.get? ⟨b, location⟩ = s.jobs.get? ⟨b, location⟩) :
    Tracks replies limit plan b s' arrived where
  maxBytes := hmaxBytes.trans h.maxBytes
  apart := h.apart
  batch := hbatch.trans h.batch
  nodup := h.nodup
  planned := h.planned
  waiting job hjob hnot := by
    rw [hjobs]
    exact h.waiting job hjob hnot
  gone job hjob running hrunning := by
    rw [hjobs] at hrunning
    exact h.gone job hjob running hrunning
  only location running hrunning := by
    rw [hjobs] at hrunning
    exact h.only location running hrunning

/-- Fewer jobs have reported than there are, as long as one has not. -/
theorem Tracks.length_lt (h : Tracks replies limit plan b s arrived) {job : Job}
    (hjob : job ∈ plan) (hnot : job ∉ arrived) : arrived.length < plan.length := by
  -- the missing job and those that have reported are different jobs of the plan
  have hsub : (job :: arrived).Subperm plan := by
    refine List.subperm_of_subset (List.nodup_cons.mpr ⟨hnot, h.nodup⟩) ?_
    intro other hother
    rcases List.mem_cons.mp hother with rfl | hmem
    · exact hjob
    · exact h.planned other hmem
  exact hsub.length_le

/-- A running job of the batch is one of the plan: it is on its way out, or has its own task and its
    own outcome. -/
theorem Tracks.job_of (h : Tracks replies limit plan b s arrived) {location : String}
    {running : RunningJob} (hrunning : s.jobs.get? ⟨b, location⟩ = some running) :
    ∃ job ∈ plan, job.location = location ∧
      (job ∈ arrived ∧ running.stage = .leaving ∨
        job ∉ arrived ∧ running.task = job.task ∧
          Fits (jobOutcome replies limit b job) running.stage) := by
  obtain ⟨job, hjob, rfl⟩ := h.only location running hrunning
  refine ⟨job, hjob, rfl, ?_⟩
  by_cases harrived : job ∈ arrived
  · exact Or.inl ⟨harrived, h.gone job harrived running hrunning⟩
  · obtain ⟨stage, hget, hfits⟩ := h.waiting job hjob harrived
    rw [hrunning] at hget
    cases hget
    exact Or.inr ⟨harrived, rfl, hfits⟩

/-- A job that is not yet on its way out has not reported. -/
theorem Tracks.waiting_of (h : Tracks replies limit plan b s arrived) {location : String}
    {task : Task} {stage : Stage} (hrunning : s.jobs.get? ⟨b, location⟩ = some ⟨task, stage⟩)
    (hstage : stage ≠ .leaving) :
    ∃ job ∈ plan, job.location = location ∧ job ∉ arrived ∧ task = job.task ∧
      Fits (jobOutcome replies limit b job) stage := by
  obtain ⟨job, hjob, hlocation, ⟨-, hleaving⟩ | ⟨hnot, htask, hfits⟩⟩ := h.job_of hrunning
  · exact absurd hleaving hstage
  · exact ⟨job, hjob, hlocation, hnot, htask, hfits⟩

/-- The gate of a batch has room for every job that has not reported. -/
theorem Tracks.room (h : Tracks replies limit plan b s arrived) {location : String} {task : Task}
    {stage : Stage} (hrunning : s.jobs.get? ⟨b, location⟩ = some ⟨task, stage⟩)
    (hstage : stage ≠ .leaving) {batch : Batch} (hbatch : s.batches.get? b = some batch) :
    ¬ batch.gate.arrived ≥ batch.gate.total := by
  obtain ⟨job, hjob, -, hnot, -⟩ := h.waiting_of hrunning hstage
  have hlt := h.length_lt hjob hnot
  rw [h.batch] at hbatch
  cases hbatch
  show ¬ (arrived.map (jobError replies limit b)).length ≥ plan.length
  rw [List.length_map]
  omega

/-- Jobs of one plan at one place are one job. -/
theorem Tracks.eq_of_location (h : Tracks replies limit plan b s arrived) {job other : Job}
    (hjob : job ∈ plan) (hother : other ∈ plan) (heq : job.location = other.location) :
    job = other := List.inj_on_of_nodup_map h.apart hjob hother heq

theorem get?_set_location {jobs : Table JobId RunningJob} {location other : String}
    {running : RunningJob} :
    (jobs.set ⟨b, location⟩ running).get? ⟨b, other⟩
      = if other = location then some running else jobs.get? ⟨b, other⟩ := by
  rw [Table.get?_set]
  by_cases hother : other = location
  · rw [if_pos hother, if_pos (by rw [hother])]
  · rw [if_neg hother, if_neg]
    intro heq
    exact hother (congrArg JobId.location heq)

/-! ## Steps of a job of the batch -/

/-- A job that has not reported goes to another stage that fits its outcome. -/
theorem Tracks.move (h : Tracks replies limit plan b s arrived) {job : Job} (hjob : job ∈ plan)
    (hnot : job ∉ arrived) {stage : Stage} (hfits : Fits (jobOutcome replies limit b job) stage)
    (hmaxBytes : s'.cache.maxBytes = s.cache.maxBytes)
    (hbatch : s'.batches.get? b = s.batches.get? b)
    (hjobs : s'.jobs = s.jobs.set ⟨b, job.location⟩ ⟨job.task, stage⟩) :
    Tracks replies limit plan b s' arrived where
  maxBytes := hmaxBytes.trans h.maxBytes
  apart := h.apart
  batch := hbatch.trans h.batch
  nodup := h.nodup
  planned := h.planned
  waiting other hother hothernot := by
    rw [hjobs, get?_set_location]
    by_cases hlocation : other.location = job.location
    · rw [if_pos hlocation, h.eq_of_location hother hjob hlocation]
      exact ⟨stage, rfl, hfits⟩
    · rw [if_neg hlocation]
      exact h.waiting other hother hothernot
  gone other hother running hrunning := by
    rw [hjobs, get?_set_location] at hrunning
    by_cases hlocation : other.location = job.location
    · rw [h.eq_of_location (h.planned other hother) hjob hlocation] at hother
      exact absurd hother hnot
    · rw [if_neg hlocation] at hrunning
      exact h.gone other hother running hrunning
  only location running hrunning := by
    rw [hjobs, get?_set_location] at hrunning
    by_cases hlocation : location = job.location
    · exact ⟨job, hjob, hlocation.symm⟩
    · rw [if_neg hlocation] at hrunning
      exact h.only location running hrunning

/-- A job that reports is on the list from then on. -/
theorem Tracks.report (h : Tracks replies limit plan b s arrived) {job : Job} (hjob : job ∈ plan)
    (hnot : job ∉ arrived) (hmaxBytes : s'.cache.maxBytes = s.cache.maxBytes)
    (hbatch : s'.batches.get? b = some (batchAfter b plan.length
      ((arrived ++ [job]).map (jobError replies limit b))))
    (hjobs : s'.jobs = s.jobs.set ⟨b, job.location⟩ ⟨job.task, .leaving⟩) :
    Tracks replies limit plan b s' (arrived ++ [job]) where
  maxBytes := hmaxBytes.trans h.maxBytes
  apart := h.apart
  batch := hbatch
  nodup := nodup_concat_iff.mpr ⟨hnot, h.nodup⟩
  planned other hother := by
    rcases List.mem_append.mp hother with hmem | hlast
    · exact h.planned other hmem
    · rw [List.mem_singleton.mp hlast]
      exact hjob
  waiting other hother hothernot := by
    rw [List.mem_append, not_or, List.mem_singleton] at hothernot
    have hlocation : other.location ≠ job.location :=
      fun heq => hothernot.2 (h.eq_of_location hother hjob heq)
    rw [hjobs, get?_set_location, if_neg hlocation]
    exact h.waiting other hother hothernot.1
  gone other hother running hrunning := by
    rw [hjobs, get?_set_location] at hrunning
    by_cases hlocation : other.location = job.location
    · rw [if_pos hlocation] at hrunning
      rw [← Option.some.inj hrunning]
    · rw [if_neg hlocation] at hrunning
      rcases List.mem_append.mp hother with hmem | hlast
      · exact h.gone other hmem running hrunning
      · rw [List.mem_singleton.mp hlast] at hlocation
        exact absurd rfl hlocation
  only location running hrunning := by
    rw [hjobs, get?_set_location] at hrunning
    by_cases hlocation : location = job.location
    · exact ⟨job, hjob, hlocation.symm⟩
    · rw [if_neg hlocation] at hrunning
      exact h.only location running hrunning

/-- A job that has reported goes away. -/
theorem Tracks.leave (h : Tracks replies limit plan b s arrived) {location : String} {task : Task}
    (hleaving : s.jobs.get? ⟨b, location⟩ = some ⟨task, .leaving⟩)
    (hmaxBytes : s'.cache.maxBytes = s.cache.maxBytes)
    (hbatch : s'.batches.get? b = s.batches.get? b)
    (hjobs : s'.jobs = s.jobs.erase ⟨b, location⟩) : Tracks replies limit plan b s' arrived := by
  have hget : ∀ other, s'.jobs.get? ⟨b, other⟩
      = if other = location then none else s.jobs.get? ⟨b, other⟩ := by
    intro other
    rw [hjobs, Table.get?_erase]
    by_cases hother : other = location
    · rw [if_pos hother, if_pos (by rw [hother])]
    · rw [if_neg hother, if_neg]
      intro heq
      exact hother (congrArg JobId.location heq)
  exact {
    maxBytes := hmaxBytes.trans h.maxBytes
    apart := h.apart
    batch := hbatch.trans h.batch
    nodup := h.nodup
    planned := h.planned
    waiting := by
      intro other hother hothernot
      obtain ⟨stage, hstage, hfits⟩ := h.waiting other hother hothernot
      have hlocation : other.location ≠ location := by
        rintro rfl
        rw [hleaving] at hstage
        cases hstage
        exact hfits
      rw [hget, if_neg hlocation]
      exact ⟨stage, hstage, hfits⟩
    gone := by
      intro other hother running hrunning
      rw [hget] at hrunning
      exact h.gone other hother running (Option.ite_none_left_eq_some.mp hrunning).2
    only := by
      intro other running hrunning
      rw [hget] at hrunning
      exact h.only other running (Option.ite_none_left_eq_some.mp hrunning).2 }

end Session
end Formulary
