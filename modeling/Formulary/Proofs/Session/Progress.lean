import Formulary.Proofs.Session.Slots

/-!
# Progress — no job waits forever

A job that moves has fewer steps before it afterwards, so jobs that move while nothing else happens come
to an end. Only jobs that wait for a slot cannot move then. But a slot that is not free is held by a job
that can move, so no job is left at all.

* `work` — how many steps all jobs have before them at most.
* `Moving`, `Quiet` — runs in which jobs move, and sessions in which none can.
* `length_le_work`, `exists_quiet` — jobs move for so long only, and until none can.
* `no_job_of_quiet` — then there is none.
-/

namespace Formulary

open Render

namespace Session

/-- How many steps a job has before it at most. -/
def stepsLeft : Stage → Nat
  | .queued => 6
  | .working => 5
  | .finished _ => 4
  | .storing _ => 3
  | .reporting _ => 2
  | .leaving => 1

/-- How many steps a running job has before it at most. -/
def stepsOf (e : JobId × RunningJob) : Nat := stepsLeft e.2.stage

/-- How many steps all jobs have before them at most. -/
def work (s : Session) : Nat := s.jobs.weigh stepsOf

variable (replies : JobId → Reply)

/-- Runs in which nothing happens but that jobs move. -/
def Moving (s : Session) : List Event → Prop
  | [] => True
  | e :: rest =>
    e.job?.isSome = true ∧ perform replies s e ≠ s ∧ Moving (perform replies s e) rest

/-- No job can move. -/
def Quiet (s : Session) : Prop := ∀ e : Event, e.job?.isSome = true → perform replies s e = s

variable {replies} {s s' : Session} {e : Event} {fetchBound drawBound : Nat}

/-! ## Jobs that move come to an end -/

theorem work_set {id : JobId} {task : Task} {stage stage' : Stage}
    (hjob : s.jobs.get? id = some ⟨task, stage⟩) (hlt : stepsLeft stage' < stepsLeft stage) :
    (s.jobs.set id ⟨task, stage'⟩).weigh stepsOf < work s := by
  have hweigh : (s.jobs.set id ⟨task, stage'⟩).weigh stepsOf + stepsOf (id, ⟨task, stage⟩)
      = s.jobs.weigh stepsOf + stepsOf (id, ⟨task, stage'⟩) := Table.weigh_set_old hjob
  simp only [stepsOf] at hweigh
  rw [work]
  omega

/-- A job that takes a step has fewer of them before it. -/
theorem work_step (hjob? : e.job?.isSome = true) (hstep : Step replies s e s') :
    work s' < work s := by
  cases hstep with
  | answered hjob => exact work_set hjob (by decide : 4 < 5)
  | started hjob hslot => exact work_set hjob (by decide : 5 < 6)
  | accepted hjob hregistered => exact work_set hjob (by decide : 3 < 4)
  | dropped hjob hunregistered => exact work_set hjob (by decide : 2 < 4)
  | failed hjob => exact work_set hjob (by decide : 2 < 4)
  | stored hjob => exact work_set hjob (by decide : 2 < 3)
  | reported hjob hbatch => exact work_set hjob (by decide : 1 < 2)
  | orphaned hjob hbatch => exact work_set hjob (by decide : 1 < 2)
  | @left id task hjob =>
      have hweigh : (s.jobs.erase id).weigh stepsOf + stepsOf (id, ⟨task, .leaving⟩)
          = s.jobs.weigh stepsOf := Table.weigh_erase hjob
      show (s.jobs.erase id).weigh stepsOf < s.jobs.weigh stepsOf
      rw [← hweigh]
      exact Nat.lt_succ_self _
  | _ => cases hjob?

/-- A job that moves takes a step. -/
theorem work_perform (hjob? : e.job?.isSome = true) (hmoves : perform replies s e ≠ s) :
    work (perform replies s e) < work s := by
  rcases perform_eq_or_step replies s e with ⟨heq, -⟩ | hstep
  · exact absurd heq hmoves
  · exact work_step hjob? hstep

/-- Jobs cannot move for longer than there are steps. -/
theorem length_le_work {events : List Event} (h : Moving replies s events) :
    events.length ≤ work s := by
  induction events generalizing s with
  | nil => exact Nat.zero_le _
  | cons e rest ih =>
      obtain ⟨hjob?, hmoves, hrest⟩ := h
      have hlt := work_perform hjob? hmoves
      have hle := ih hrest
      rw [List.length_cons]
      omega

/-- Jobs can move until none can. The induction is on the work that is left. -/
theorem exists_quiet (replies : JobId → Reply) (s : Session) :
    ∃ events, Moving replies s events ∧ Quiet replies (play replies s events) := by
  induction hwork : work s using Nat.strong_induction_on generalizing s with
  | _ n ih =>
      by_cases hquiet : Quiet replies s
      · exact ⟨[], trivial, hquiet⟩
      · have hmove : ∃ e : Event, e.job?.isSome = true ∧ perform replies s e ≠ s := by
          simpa [Quiet] using hquiet
        obtain ⟨e, hjob?, hmoves⟩ := hmove
        have hlt := work_perform hjob? hmoves
        obtain ⟨rest, hrest, hend⟩ := ih _ (hwork ▸ hlt) (perform replies s e) rfl
        exact ⟨e :: rest, ⟨hjob?, hmoves, hrest⟩, hend⟩

/-- Jobs may move at any time. -/
theorem admissible_of_moving {events : List Event} (h : Moving replies s events) :
    Admissible replies s events := by
  induction events generalizing s with
  | nil => trivial
  | cons e rest ih =>
      refine ⟨?_, ih h.2.2⟩
      cases e with
      | load id ids reader text => cases h.1
      | _ => trivial

/-! ## No job is left -/

theorem get?_setStage (s : Session) (id : JobId) (job : RunningJob) (stage : Stage) :
    (s.setStage id job stage).jobs.get? id = some { job with stage } := Table.get?_set_self _ _ _

/-- If no job can move, every job waits for a slot, and there is none for it. -/
theorem blocked_of_quiet (h : Quiet replies s) {id : JobId} {task : Task} {stage : Stage}
    (hjob : s.jobs.get? id = some ⟨task, stage⟩) :
    stage = .queued ∧ s.slots.acquire? task = none := by
  -- a job that could move would be at another stage in the same session
  have hadvance : ∀ {next}, (s.advance id).jobs.get? id = next → some ⟨task, stage⟩ = next := by
    intro next hnext
    rw [show s.advance id = s from h (.step id) rfl, hjob] at hnext
    exact hnext
  have hanswer : ∀ {next}, (perform replies s (.answer id)).jobs.get? id = next →
      some ⟨task, stage⟩ = next := by
    intro next hnext
    rw [h (.answer id) rfl, hjob] at hnext
    exact hnext
  rw [advance, hjob] at hadvance
  rw [perform, hjob] at hanswer
  cases stage with
  | queued =>
      refine ⟨rfl, ?_⟩
      cases hslot : s.slots.acquire? task with
      | none => rfl
      | some slots =>
          have hworking : (s.start id ⟨task, .queued⟩).jobs.get? id = some ⟨task, .working⟩ := by
            rw [start, hslot]
            exact get?_setStage _ _ _ _
          cases hadvance hworking
  | working =>
      have hfinished : (s.finish id (outcomeOf replies s id task)).jobs.get? id
          = some ⟨task, .finished (outcomeOf replies s id task)⟩ := by
        rw [finish, hjob]
        exact get?_setStage _ _ _ _
      cases hanswer hfinished
  | finished outcome =>
      cases outcome with
      | error e => cases hadvance (get?_setStage _ _ _ _)
      | ok bitmap =>
          have hsettled := hadvance (get?_setStage _ _ _ _)
          cases hregistered : s.registry.isRegistered id.batch.document with
          | true =>
              rw [hregistered] at hsettled
              cases hsettled
          | false =>
              rw [hregistered] at hsettled
              cases hsettled
  | storing bitmap => cases hadvance (get?_setStage _ _ _ _)
  | reporting error =>
      have hleaving : (s.report id ⟨task, .reporting error⟩ error).jobs.get? id
          = some ⟨task, .leaving⟩ := by
        rw [report]
        cases s.batches.get? id.batch with
        | none => exact get?_setStage _ _ _ _
        | some batch => exact get?_setStage _ _ _ _
      cases hadvance hleaving
  | leaving =>
      have hgone : (s.leave id ⟨task, .leaving⟩).jobs.get? id = none := by
        show (s.jobs.erase id).get? id = none
        rw [Table.get?_erase, if_pos rfl]
      cases hadvance hgone

/-- A task finds no slot only if its kind is bounded and all slots of its kind are taken. -/
theorem taken_of_blocked {slots : Slots} {task : Task} (h : slots.acquire? task = none) :
    slots.fetch = 0 ∨ slots.draw = some 0 := by
  obtain ⟨fetch, draw⟩ := slots
  cases task with
  | fetch url =>
      rw [Slots.acquire?] at h
      by_cases hfree : fetch = 0
      · exact Or.inl hfree
      · rw [if_neg hfree] at h
        cases h
  | draw request =>
      cases draw with
      | none => cases h
      | some free =>
          cases free with
          | zero => exact Or.inr rfl
          | succ n => cases h
  | load name => cases h

/-- If no job can move there is no job: one that waits for a slot would wait for a job that holds it, and
    that one can move. -/
theorem no_job_of_quiet (h : Conserves fetchBound drawBound s) (hquiet : Quiet replies s)
    (id : JobId) : s.jobs.get? id = none := by
  cases hjob : s.jobs.get? id with
  | none => rfl
  | some running =>
      -- all jobs wait, so no slot is held
      have hheld : ∀ kind, s.jobs.weigh (held kind) = 0 := by
        intro kind
        by_contra hne
        obtain ⟨other, ⟨task, stage⟩, hother, hpos⟩ :=
          Table.exists_of_weigh_pos (Nat.pos_of_ne_zero hne)
        obtain ⟨rfl, -⟩ := blocked_of_quiet hquiet hother
        rw [held_queued] at hpos
        exact absurd hpos (Nat.lt_irrefl 0)
      obtain ⟨task, stage⟩ := running
      obtain ⟨-, hblocked⟩ := blocked_of_quiet hquiet hjob
      exfalso
      rcases taken_of_blocked hblocked with hfetch | hdraw
      · have hsum := h.fetch
        rw [hfetch, hheld isFetch] at hsum
        omega
      · by_cases hbound : drawBound = 0
        · rw [h.unbounded hbound] at hdraw
          cases hdraw
        · obtain ⟨free, hfree, hsum⟩ := h.draw hbound
          rw [hdraw] at hfree
          cases hfree
          rw [hheld isDraw] at hsum
          omega

end Session
end Formulary
