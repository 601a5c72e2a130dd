import Formulary.Proofs.Session.Arrivals

/-!
# Slots — none is lost, and none is given out twice

A job holds the slot of its task from when it starts to when it is over. So the free slots and the jobs
that hold one add up to the bound at all times, whatever becomes of the jobs.

* `held` — the jobs of a kind that hold a slot.
* `Conserves` — free slots and held slots add up to the bounds.
* `conserves_new`, `conserves_step`, `conserves_play` — at the beginning, and after every run.
-/

namespace Formulary

open Render

namespace Session

/-- Whether a task needs a slot for fetching. -/
def isFetch : Task → Bool
  | .fetch _ => true
  | _ => false

/-- Whether a task needs a slot for drawing. -/
def isDraw : Task → Bool
  | .draw _ => true
  | _ => false

/-- Whether a job has its slot at a stage. -/
def hasSlot : Stage → Bool
  | .queued => false
  | _ => true

/-- Counts a job that holds a slot of a kind. -/
def held (kind : Task → Bool) (e : JobId × RunningJob) : Nat :=
  if kind e.2.task && hasSlot e.2.stage then 1 else 0

/-- Free and held slots add up to the bounds; drawing has no slots if it is not bounded. -/
structure Conserves (fetchBound drawBound : Nat) (s : Session) : Prop where
  fetch : s.slots.fetch + s.jobs.weigh (held isFetch) = max 1 fetchBound
  unbounded : drawBound = 0 → s.slots.draw = none
  draw : drawBound ≠ 0 →
    ∃ free, s.slots.draw = some free ∧ free + s.jobs.weigh (held isDraw) = drawBound

variable {fetchBound drawBound : Nat} {s s' : Session} {replies : JobId → Reply} {e : Event}

theorem conserves_new (options : SessionOptions) :
    Conserves options.fetchBound options.drawBound (new options) where
  fetch := rfl
  unbounded h := if_pos h
  draw h := ⟨options.drawBound, if_neg h, rfl⟩

/-- Slots are conserved when neither the free nor the held ones change. -/
theorem Conserves.congr (h : Conserves fetchBound drawBound s) (hslots : s'.slots = s.slots)
    (hfetch : s'.jobs.weigh (held isFetch) = s.jobs.weigh (held isFetch))
    (hdraw : s'.jobs.weigh (held isDraw) = s.jobs.weigh (held isDraw)) :
    Conserves fetchBound drawBound s' where
  fetch := by rw [hslots, hfetch, h.fetch]
  unbounded hzero := by rw [hslots, h.unbounded hzero]
  draw hbound := by
    rw [hslots, hdraw]
    exact h.draw hbound

/-- A job that goes from one stage to another with its slot changes no count. -/
theorem weigh_held_set {kind : Task → Bool} {jobs : Table JobId RunningJob} {id : JobId}
    {task : Task} {stage stage' : Stage} (hjob : jobs.get? id = some ⟨task, stage⟩)
    (hstage : hasSlot stage = true) (hstage' : hasSlot stage' = true) :
    (jobs.set id ⟨task, stage'⟩).weigh (held kind) = jobs.weigh (held kind) := by
  have hweigh : (jobs.set id ⟨task, stage'⟩).weigh (held kind) + held kind (id, ⟨task, stage⟩)
      = jobs.weigh (held kind) + held kind (id, ⟨task, stage'⟩) := Table.weigh_set_old hjob
  have hsame : held kind (id, ⟨task, stage⟩) = held kind (id, ⟨task, stage'⟩) := by
    rw [held, held, hstage, hstage']
  omega

/-- Jobs that wait hold no slot. -/
theorem weigh_held_enqueue {kind : Task → Bool} {b : BatchId} {plan : List Job}
    {jobs : Table JobId RunningJob} (hnd : (plan.map Job.location).Nodup)
    (hnew : ∀ job ∈ plan, jobs.get? ⟨b, job.location⟩ = none) :
    (enqueue b jobs plan).weigh (held kind) = jobs.weigh (held kind) := by
  induction plan generalizing jobs with
  | nil => rfl
  | cons job rest ih =>
      obtain ⟨hfresh, htail⟩ := List.nodup_cons.mp hnd
      have hrest : ∀ other ∈ rest, (jobs.set ⟨b, job.location⟩ { task := job.task }).get?
          ⟨b, other.location⟩ = none := by
        intro other hother
        have hne : other.location ≠ job.location :=
          fun heq => hfresh (List.mem_map.mpr ⟨other, hother, heq⟩)
        rw [get?_set_location, if_neg hne]
        exact hnew other (List.mem_cons_of_mem _ hother)
      show (enqueue b (jobs.set ⟨b, job.location⟩ { task := job.task }) rest).weigh _ = _
      rw [ih htail hrest, Table.weigh_set_new (hnew job List.mem_cons_self)]
      simp [held, hasSlot]

/-! ## Taking a slot and giving it back -/

/-- One if a task is of a kind. -/
def one (kind : Task → Bool) (task : Task) : Nat := if kind task then 1 else 0

theorem held_queued (kind : Task → Bool) (id : JobId) (task : Task) :
    held kind (id, ⟨task, .queued⟩) = 0 := by
  rw [held, hasSlot, Bool.and_false]
  rfl

theorem held_of_hasSlot (kind : Task → Bool) (id : JobId) (task : Task) {stage : Stage}
    (h : hasSlot stage = true) : held kind (id, ⟨task, stage⟩) = one kind task := by
  rw [held, h, Bool.and_true, one]

/-- A task takes one slot of its kind and none of the other. -/
theorem acquire?_spec {slots slots' : Slots} {task : Task} (h : slots.acquire? task = some slots') :
    slots'.fetch + one isFetch task = slots.fetch ∧
      (slots.draw = none → slots'.draw = none) ∧
      ∀ free, slots.draw = some free →
        ∃ free', slots'.draw = some free' ∧ free' + one isDraw task = free := by
  obtain ⟨fetch, draw⟩ := slots
  cases task with
  | fetch url =>
      obtain ⟨hfree, rfl⟩ : fetch ≠ 0 ∧ (⟨fetch - 1, draw⟩ : Slots) = slots' := by
        simpa [Slots.acquire?, Option.ite_none_left_eq_some] using h
      refine ⟨?_, id, fun free hdraw => ⟨free, hdraw, rfl⟩⟩
      show fetch - 1 + 1 = fetch
      omega
  | load name =>
      cases h
      exact ⟨rfl, id, fun free hdraw => ⟨free, hdraw, rfl⟩⟩
  | draw request =>
      cases draw with
      | none =>
          cases h
          refine ⟨rfl, fun _ => rfl, ?_⟩
          intro free hdraw
          cases hdraw
      | some free =>
          cases free with
          | zero => cases h
          | succ n =>
              cases h
              refine ⟨rfl, ?_, ?_⟩
              · intro hnone
                exact absurd hnone (Option.some_ne_none _)
              · intro free hfree
                exact ⟨n, rfl, Option.some.inj hfree⟩

/-- A task gives back what it took. -/
theorem release_spec (slots : Slots) (task : Task) :
    (slots.release task).fetch = slots.fetch + one isFetch task ∧
      (slots.release task).draw = slots.draw.map (· + one isDraw task) := by
  obtain ⟨fetch, draw⟩ := slots
  cases task with
  | fetch url =>
      refine ⟨rfl, ?_⟩
      cases draw with
      | none => rfl
      | some free => rfl
  | draw request => exact ⟨rfl, rfl⟩
  | load name =>
      refine ⟨rfl, ?_⟩
      cases draw with
      | none => rfl
      | some free => rfl

/-- A job that starts takes a free slot of its kind. -/
theorem Conserves.start (h : Conserves fetchBound drawBound s) {id : JobId} {task : Task}
    {slots : Slots} (hjob : s.jobs.get? id = some ⟨task, .queued⟩)
    (hslot : s.slots.acquire? task = some slots) :
    Conserves fetchBound drawBound { s with slots, jobs := s.jobs.set id ⟨task, .working⟩ } := by
  have hweigh : ∀ kind, (s.jobs.set id ⟨task, .working⟩).weigh (held kind)
      = s.jobs.weigh (held kind) + one kind task := by
    intro kind
    have hold : (s.jobs.set id ⟨task, .working⟩).weigh (held kind) + held kind (id, ⟨task, .queued⟩)
        = s.jobs.weigh (held kind) + held kind (id, ⟨task, .working⟩) := Table.weigh_set_old hjob
    rw [held_queued, held_of_hasSlot kind id task rfl] at hold
    exact hold
  obtain ⟨hfetch, hnone, hsome⟩ := acquire?_spec hslot
  constructor
  · show slots.fetch + (s.jobs.set id ⟨task, .working⟩).weigh (held isFetch) = _
    rw [hweigh, ← h.fetch]
    omega
  · intro hzero
    exact hnone (h.unbounded hzero)
  · intro hbound
    obtain ⟨free, hdraw, hsum⟩ := h.draw hbound
    obtain ⟨free', hdraw', htaken⟩ := hsome free hdraw
    refine ⟨free', hdraw', ?_⟩
    show free' + (s.jobs.set id ⟨task, .working⟩).weigh (held isDraw) = _
    rw [hweigh]
    omega

/-- A job that is over gives its slot back. -/
theorem Conserves.leave (h : Conserves fetchBound drawBound s) {id : JobId} {task : Task}
    (hjob : s.jobs.get? id = some ⟨task, .leaving⟩) :
    Conserves fetchBound drawBound
      { s with slots := s.slots.release task, jobs := s.jobs.erase id } := by
  have hweigh : ∀ kind, (s.jobs.erase id).weigh (held kind) + one kind task
      = s.jobs.weigh (held kind) := by
    intro kind
    have hone : held kind (id, ⟨task, .leaving⟩) = one kind task := held_of_hasSlot kind id task rfl
    rw [← hone]
    exact Table.weigh_erase hjob
  obtain ⟨hfetch, hdraw⟩ := release_spec s.slots task
  constructor
  · show (s.slots.release task).fetch + (s.jobs.erase id).weigh (held isFetch) = _
    have := hweigh isFetch
    rw [hfetch, ← h.fetch]
    omega
  · intro hzero
    show (s.slots.release task).draw = none
    rw [hdraw, h.unbounded hzero]
    rfl
  · intro hbound
    obtain ⟨free, hfree, hsum⟩ := h.draw hbound
    refine ⟨free + one isDraw task, ?_, ?_⟩
    · show (s.slots.release task).draw = _
      rw [hdraw, hfree]
      rfl
    · show free + one isDraw task + (s.jobs.erase id).weigh (held isDraw) = _
      have := hweigh isDraw
      omega

/-! ## Runs -/

/-- Every step conserves the slots. -/
theorem conserves_step (hvalid : s.Valid) (h : Conserves fetchBound drawBound s)
    (hstep : Step replies s e s') : Conserves fetchBound drawBound s' := by
  cases hstep with
  | @requested id d hopen =>
      have hjobs := hvalid.jobs_requested id d
      -- jobs belong to batches that exist, and this one is new
      have hnew : ∀ job ∈ (planOf d).jobs, s.jobs.get? ⟨nextBatch id d, job.location⟩ = none := by
        intro job _
        cases hjob : s.jobs.get? ⟨nextBatch id d, job.location⟩ with
        | none => rfl
        | some running =>
            obtain ⟨batch, hbatch⟩ := hvalid.owned _ _ hjob
            cases (hvalid.nextBatch_new hopen).symm.trans hbatch
      have hnd := nodup_planOf hvalid hopen
      exact h.congr rfl (by rw [hjobs, weigh_held_enqueue hnd hnew])
        (by rw [hjobs, weigh_held_enqueue hnd hnew])
  | answered hjob => exact h.congr rfl (weigh_held_set hjob rfl rfl) (weigh_held_set hjob rfl rfl)
  | started hjob hslot => exact h.start hjob hslot
  | accepted hjob hregistered =>
      exact h.congr rfl (weigh_held_set hjob rfl rfl) (weigh_held_set hjob rfl rfl)
  | dropped hjob hunregistered =>
      exact h.congr rfl (weigh_held_set hjob rfl rfl) (weigh_held_set hjob rfl rfl)
  | failed hjob => exact h.congr rfl (weigh_held_set hjob rfl rfl) (weigh_held_set hjob rfl rfl)
  | stored hjob => exact h.congr rfl (weigh_held_set hjob rfl rfl) (weigh_held_set hjob rfl rfl)
  | reported hjob hbatch =>
      exact h.congr rfl (weigh_held_set hjob rfl rfl) (weigh_held_set hjob rfl rfl)
  | orphaned hjob hbatch =>
      exact h.congr rfl (weigh_held_set hjob rfl rfl) (weigh_held_set hjob rfl rfl)
  | left hjob => exact h.leave hjob
  | _ => exact h.congr rfl rfl rfl

/-- Every run conserves the slots. -/
theorem conserves_play (hvalid : s.Valid) (h : Conserves fetchBound drawBound s)
    {events : List Event} (hrun : Admissible replies s events) :
    Conserves fetchBound drawBound (play replies s events) := by
  induction events generalizing s with
  | nil => exact h
  | cons e rest ih =>
      refine ih (valid_perform hvalid hrun.1) ?_ hrun.2
      rcases perform_eq_or_step replies s e with ⟨heq, -⟩ | hstep
      · rw [heq]
        exact h
      · exact conserves_step hvalid h hstep

end Session
end Formulary
