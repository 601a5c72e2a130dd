import Formulary.Proofs.Session.Phases

/-!
# Capacity — slots are shared by all documents, and every job gives its slot back

Free slots and the jobs that hold one add up to the bound after every run, so no more jobs of a kind run at
once than there are slots. A job that has a slot keeps it until its gate knows what became of it, and then
gives it back. So a job that waits can start as soon as not all slots are held, and jobs that hold slots can
always move on: no session is stuck, however many jobs a batch has.

* `takesSlot`, `Full` — the tasks that need a slot, and when there is none for a task.
* `slot_step` — a job with a slot keeps it, or goes away and gives it back.
* `starts_iff` — which jobs that wait can start.
* `Capacity`, `capacity_run` — all of this of one session, and of every session that a run leads to.
* `slots_spec` — with the batches, all of which complete.
-/

namespace Formulary

open Render Markup

namespace Session

variable {replies : JobId → Reply} {s s' : Session} {e : Event} {fetchBound drawBound : Nat}

/-! ## Tasks and slots -/

/-- Fetching takes a slot, drawing does if it is bounded, and loading never does. -/
def takesSlot (drawBound : Nat) : Task → Bool
  | .fetch _ => true
  | .draw _ => decide (drawBound ≠ 0)
  | .load _ => false

/-- The number of jobs of a kind that hold a slot, or would if their kind had slots. -/
def holders (kind : Task → Bool) (s : Session) : Nat := s.jobs.weigh (held kind)

/-- All slots of the kind of a task are held. -/
def Full (fetchBound drawBound : Nat) (s : Session) : Task → Prop
  | .fetch _ => s.holders isFetch = max 1 fetchBound
  | .draw _ => drawBound ≠ 0 ∧ s.holders isDraw = drawBound
  | .load _ => False

/-- A task that takes no slot leaves the slots as they are, when it starts and when it is over. -/
theorem Conserves.ungated (h : Conserves fetchBound drawBound s) {task : Task}
    (htask : takesSlot drawBound task = false) :
    s.slots.acquire? task = some s.slots ∧ s.slots.release task = s.slots := by
  cases task with
  | fetch url => cases htask
  | load name => exact ⟨rfl, rfl⟩
  | draw request =>
      have hzero : drawBound = 0 := by simpa [takesSlot] using htask
      have hnone := h.unbounded hzero
      constructor
      · simp only [Slots.acquire?, hnone]
      · rw [Slots.release, hnone, Option.map_none, ← hnone]

/-- There is a slot for a task unless all of its kind are held. -/
theorem Conserves.acquire?_isSome_iff (h : Conserves fetchBound drawBound s) (task : Task) :
    (s.slots.acquire? task).isSome = true ↔ ¬ Full fetchBound drawBound s task := by
  cases task with
  | load name =>
      constructor
      · intro _ hfull
        exact hfull
      · intro _
        rfl
  | fetch url =>
      have hsum : s.slots.fetch + s.holders isFetch = max 1 fetchBound := h.fetch
      show (if s.slots.fetch = 0 then none else some _).isSome = true
        ↔ ¬ s.holders isFetch = max 1 fetchBound
      by_cases hfree : s.slots.fetch = 0
      · rw [if_pos hfree]
        constructor
        · intro hsome
          cases hsome
        · intro hroom
          omega
      · rw [if_neg hfree]
        constructor
        · intro _
          omega
        · intro _
          rfl
  | draw request =>
      by_cases hbound : drawBound = 0
      · have hungated : takesSlot drawBound (.draw request) = false := by simp [takesSlot, hbound]
        rw [(h.ungated hungated).1]
        constructor
        · rintro _ ⟨hnonzero, -⟩
          exact hnonzero hbound
        · intro _
          rfl
      · obtain ⟨free, hfree, hsum⟩ := h.draw hbound
        have hsum' : free + s.holders isDraw = drawBound := hsum
        have hfull : Full fetchBound drawBound s (.draw request) ↔ free = 0 := by
          constructor
          · rintro ⟨-, hall⟩
            omega
          · intro hzero
            exact ⟨hbound, by omega⟩
        rw [hfull, Slots.acquire?, hfree]
        cases free with
        | zero => simp
        | succ n => simp

/-! ## Steps -/

/-- A job that has a slot goes on with it, or has reported, goes away and gives it back. -/
theorem slot_step (hvalid : s.Valid) {j : JobId} {task : Task} {stage : Stage}
    (hjob : s.jobs.get? j = some ⟨task, stage⟩) (hslot : hasSlot stage = true)
    (hstep : Step replies s e s') :
    (∃ stage', s'.jobs.get? j = some ⟨task, stage'⟩ ∧ hasSlot stage' = true) ∨
      (e = .step j ∧ stage = .leaving ∧ s'.jobs.get? j = none ∧
        s'.slots = s.slots.release task) := by
  obtain ⟨batch, hbatch⟩ := hvalid.owned _ _ hjob
  by_cases hown : e.job? = some j
  · cases hstep with
    | answered hjob' =>
        cases hown
        cases hjob.symm.trans hjob'
        exact Or.inl ⟨_, Table.get?_set_self _ _ _, rfl⟩
    | started hjob' _ =>
        cases hown
        cases hjob.symm.trans hjob'
        cases hslot
    | accepted hjob' _ =>
        cases hown
        cases hjob.symm.trans hjob'
        exact Or.inl ⟨_, Table.get?_set_self _ _ _, rfl⟩
    | dropped hjob' _ =>
        cases hown
        cases hjob.symm.trans hjob'
        exact Or.inl ⟨_, Table.get?_set_self _ _ _, rfl⟩
    | failed hjob' =>
        cases hown
        cases hjob.symm.trans hjob'
        exact Or.inl ⟨_, Table.get?_set_self _ _ _, rfl⟩
    | stored hjob' =>
        cases hown
        cases hjob.symm.trans hjob'
        exact Or.inl ⟨_, Table.get?_set_self _ _ _, rfl⟩
    | reported hjob' _ =>
        cases hown
        cases hjob.symm.trans hjob'
        exact Or.inl ⟨_, Table.get?_set_self _ _ _, rfl⟩
    | orphaned hjob' _ =>
        cases hown
        cases hjob.symm.trans hjob'
        exact Or.inl ⟨_, Table.get?_set_self _ _ _, rfl⟩
    | left hjob' =>
        cases hown
        cases hjob.symm.trans hjob'
        exact Or.inr ⟨rfl, rfl, (Table.get?_erase _ _ _).trans (if_pos rfl), rfl⟩
    | _ => cases hown
  · -- an event of others
    exact Or.inl ⟨stage, (job_step hvalid hbatch hown hstep).trans hjob, hslot⟩

/-- A job that waits starts unless all slots of its kind are held. -/
theorem starts_iff (h : Conserves fetchBound drawBound s) {j : JobId} {task : Task}
    (hjob : s.jobs.get? j = some ⟨task, .queued⟩) :
    (perform replies s (.step j)).jobs.get? j = some ⟨task, .working⟩
      ↔ ¬ Full fetchBound drawBound s task := by
  rw [← h.acquire?_isSome_iff task]
  have hperform : perform replies s (.step j) = s.start j ⟨task, .queued⟩ := by
    rw [perform, advance, hjob]
  rw [hperform, start]
  cases hslot : s.slots.acquire? task with
  | none =>
      constructor
      · intro hworking
        cases hjob.symm.trans hworking
      · intro hsome
        cases hsome
  | some slots =>
      constructor
      · intro _
        rfl
      · intro _
        exact get?_setStage _ _ _ _

/-- The arrival of a job that is on its way out was seen. -/
theorem Recalls.arrived_of_leaving {written : List (JobId × Outcome)} {seen : List Notice}
    (h : Recalls replies s written seen) {j : JobId} {task : Task}
    (hjob : s.jobs.get? j = some ⟨task, .leaving⟩) : ∃ error, .arrived j error ∈ seen := by
  obtain ⟨batch, hbatch⟩ := h.valid.owned _ _ hjob
  obtain ⟨plan, arrived, hfollows⟩ := h.followed _ _ hbatch
  obtain ⟨b, location⟩ := j
  obtain ⟨job, hplan, rfl, ⟨harrived, -⟩ | ⟨-, -, hfits⟩⟩ := hfollows.tracks.job_of hjob
  · exact ⟨_, mem_reports_iff.mp (hfollows.mem_reports harrived)⟩
  · exact hfits.elim

/-! ## Free slots -/

/-- No job of a kind holds a slot if none of them has started. -/
theorem holders_eq_zero {kind : Task → Bool}
    (h : ∀ j task stage, s.jobs.get? j = some ⟨task, stage⟩ → kind task = true →
      hasSlot stage = false) : s.holders kind = 0 := by
  by_contra hne
  obtain ⟨j, ⟨task, stage⟩, hjob, hpos⟩ := Table.exists_of_weigh_pos (Nat.pos_of_ne_zero hne)
  rw [held] at hpos
  by_cases hkind : kind task = true
  · rw [h j task stage hjob hkind, Bool.and_false] at hpos
    exact absurd hpos (Nat.lt_irrefl 0)
  · rw [Bool.eq_false_iff.mpr hkind, Bool.false_and] at hpos
    exact absurd hpos (Nat.lt_irrefl 0)

/-- All slots are free when no job that takes one has started. -/
theorem Conserves.slots_eq_new (h : Conserves fetchBound drawBound s)
    (hidle : ∀ j task stage, s.jobs.get? j = some ⟨task, stage⟩ →
      takesSlot drawBound task = true → hasSlot stage = false) :
    s.slots = Slots.new fetchBound drawBound := by
  have hfetch : s.slots.fetch = max 1 fetchBound := by
    have hnone : s.holders isFetch = 0 := by
      refine holders_eq_zero ?_
      intro j task stage hjob hkind
      cases task with
      | fetch url => exact hidle j _ stage hjob rfl
      | _ => cases hkind
    have hsum : s.slots.fetch + s.holders isFetch = max 1 fetchBound := h.fetch
    omega
  have hdraw : s.slots.draw = if drawBound = 0 then none else some drawBound := by
    by_cases hbound : drawBound = 0
    · rw [if_pos hbound, h.unbounded hbound]
    · have hnone : s.holders isDraw = 0 := by
        refine holders_eq_zero ?_
        intro j task stage hjob hkind
        cases task with
        | draw request => exact hidle j _ stage hjob (decide_eq_true hbound)
        | _ => cases hkind
      obtain ⟨free, hfree, hsum⟩ := h.draw hbound
      have hsum' : free + s.holders isDraw = drawBound := hsum
      rw [if_neg hbound, hfree]
      exact congrArg some (by omega)
  rw [Slots.new, ← hfetch, ← hdraw]

/-! ## Sessions -/

/-- The slots of a session, and what was seen before it. Free and held slots add up, so no more jobs of a
    kind hold one than there are, and jobs without a slot of their own leave the slots alone. A job keeps
    its slot until it goes away, and it has reported then; so all slots are free when no job that takes one
    has started. A job that waits starts unless all slots of its kind are held. As long as there are jobs
    one of them can move, and when none can, all are over and all slots are free. -/
structure Capacity (replies : JobId → Reply) (fetchBound drawBound : Nat) (s : Session)
    (seen : List Notice) : Prop where
  conserved : Conserves fetchBound drawBound s
  fetching : s.holders isFetch ≤ max 1 fetchBound
  drawing : drawBound ≠ 0 → s.holders isDraw ≤ drawBound
  ungated : ∀ task, takesSlot drawBound task = false →
    s.slots.acquire? task = some s.slots ∧ s.slots.release task = s.slots
  returned : ∀ e j task stage, s.jobs.get? j = some ⟨task, stage⟩ → hasSlot stage = true →
    (∃ stage', (perform replies s e).jobs.get? j = some ⟨task, stage'⟩ ∧ hasSlot stage' = true) ∨
      (e = .step j ∧ (∃ error, .arrived j error ∈ seen) ∧
        (perform replies s e).jobs.get? j = none ∧
        (perform replies s e).slots = s.slots.release task)
  idle : (∀ j task stage, s.jobs.get? j = some ⟨task, stage⟩ →
    takesSlot drawBound task = true → hasSlot stage = false) →
      s.slots = Slots.new fetchBound drawBound
  starts : ∀ j task, s.jobs.get? j = some ⟨task, .queued⟩ →
    ((perform replies s (.step j)).jobs.get? j = some ⟨task, .working⟩
      ↔ ¬ Full fetchBound drawBound s task)
  moves : (∃ j running, s.jobs.get? j = some running) →
    ∃ e : Event, e.job?.isSome = true ∧ perform replies s e ≠ s
  ends : ∀ more, Moving replies s more → Quiet replies (play replies s more) →
    (∀ j, (play replies s more).jobs.get? j = none) ∧
      (play replies s more).slots = Slots.new fetchBound drawBound

/-- The slots of a session that a run led to. -/
theorem capacity_run {options : SessionOptions} {events : List Event}
    (hrun : Admissible replies (new options) events) :
    Capacity replies options.fetchBound options.drawBound (play replies (new options) events)
      (log replies (new options) events) := by
  have hrecalls := recalls_run hrun
  have hvalid := hrecalls.valid
  have hslots := conserves_play (valid_new options) (conserves_new options) hrun
  refine ⟨hslots, ?_, ?_, fun task => hslots.ungated, ?_, hslots.slots_eq_new,
    fun j task => starts_iff hslots, ?_, ?_⟩
  · exact le_of_le_of_eq (Nat.le_add_left _ _) hslots.fetch
  · intro hbound
    obtain ⟨free, -, hsum⟩ := hslots.draw hbound
    exact le_of_le_of_eq (Nat.le_add_left _ _) hsum
  · intro e j task stage hjob hslot
    rcases perform_eq_or_step replies (play replies (new options) events) e with ⟨heq, -⟩ | hstep
    · rw [heq]
      exact Or.inl ⟨stage, hjob, hslot⟩
    · rcases slot_step hvalid hjob hslot hstep with hkeeps | ⟨he, rfl, hgone, hreleased⟩
      · exact Or.inl hkeeps
      · exact Or.inr ⟨he, hrecalls.arrived_of_leaving hjob, hgone, hreleased⟩
  · rintro ⟨j, running, hjob⟩
    by_contra hstuck
    have hquiet : Quiet replies (play replies (new options) events) := by
      intro e hjob?
      by_contra hmoves
      exact hstuck ⟨e, hjob?, hmoves⟩
    cases (no_job_of_quiet hslots hquiet j).symm.trans hjob
  · intro more hmoving hquiet
    have hlater := conserves_play hvalid hslots (admissible_of_moving hmoving)
    have hnone := no_job_of_quiet hlater hquiet
    refine ⟨hnone, hlater.slots_eq_new ?_⟩
    intro j task stage hjob
    cases (hnone j).symm.trans hjob

/-- The slots of a session after any run of any batches of any documents, whatever collaborators say, and
    all the batches that were requested: each of them completes when jobs move until none can, whether it
    has more jobs than there are slots or not. -/
theorem slots_spec (replies : JobId → Reply) (options : SessionOptions) (events : List Event)
    (hrun : Admissible replies (new options) events) :
    let s := play replies (new options) events
    Capacity replies options.fetchBound options.drawBound s (log replies (new options) events) ∧
    ∀ id, ∀ b ∈ requestsOf replies id (new options) events, ∃ before after d,
      events = before ++ .request id :: after ∧
      (play replies (new options) before).documents.get? id = some d ∧ b = nextBatch id d ∧
      Completes replies (play replies (new options) before).cache.maxBytes (planOf d).jobs b s
        (log replies (play replies (new options) before) (.request id :: after)) := by
  intro s
  refine ⟨capacity_run hrun, ?_⟩
  intro id b hb
  obtain ⟨before, after, d, rfl, hopen, rfl⟩ := mem_requestsOf hb
  refine ⟨before, after, d, rfl, hopen, rfl, ?_⟩
  obtain ⟨hbefore, hrequest⟩ := (admissible_append replies).mp hrun
  have hcompletes := completes_play (valid_play (valid_new options) hbefore)
    (conserves_play (valid_new options) (conserves_new options) hbefore) hopen hrequest
  rw [← play_append] at hcompletes
  exact hcompletes

/-- Two formulas and one slot for drawing: a job that broke off holds the slot until its gate knows and it
    goes away, and then the other job can start. -/
theorem slots_spec_one_slot :
    let place := fun n => (⟨⟨n, 1⟩, ⟨n, 38⟩⟩ : SourceRange)
    let reader := fun _ => Node.mk .container ⟨⟨1, 1⟩, ⟨2, 38⟩⟩
      [.mk (.inlineCode (Uuid.numbered 0).hyphenated) (place 1) [],
        .mk (.inlineCode (Uuid.numbered 1).hyphenated) (place 2) []]
    let replies : JobId → Reply := fun _ =>
      ⟨.broken none, .broken (some "boom"), .given, .broken none, Raster.decodeImage⟩
    let j := fun n => (⟨⟨⟨0⟩, 1⟩, (place n).key⟩ : JobId)
    let options : SessionOptions := { drawBound := 1 }
    let events := [.load ⟨0⟩ Uuid.numbered reader "$x$ $y$", .request ⟨0⟩, .step (j 1), .answer (j 1),
      .step (j 1), .step (j 1)]
    let s := play replies (new options) events
    let s' := play replies (new options) (events ++ [.step (j 1)])
    ∃ task, s.jobs.get? (j 2) = some ⟨task, .queued⟩ ∧
      (perform replies s (.step (j 2))).jobs.get? (j 2) ≠ some ⟨task, .working⟩ ∧
      (∃ error, .arrived (j 1) error ∈ log replies (new options) events) ∧
      (perform replies s (.step (j 1))).jobs.get? (j 1) = none ∧
      (perform replies s' (.step (j 2))).jobs.get? (j 2) = some ⟨task, .working⟩ := by
  intro place reader replies j options events s s'
  have hrun : Admissible replies (new options) (events ++ [.step (j 1)]) :=
    ⟨⟨rfl, fun _ => rfl⟩, trivial, trivial, trivial, trivial, trivial, trivial, trivial⟩
  have hbefore := (slots_spec replies options events ((admissible_append replies).mp hrun).1).1
  have hafter := (slots_spec replies options (events ++ [.step (j 1)]) hrun).1
  let task : Task := .draw ⟨"y", .inline, options.fontSize, options.color⟩
  have hheld : (s.jobs.get? (j 1)).map (fun running => hasSlot running.stage) = some true := by
    decide +kernel
  have hisNone : ((perform replies s (.step (j 1))).jobs.get? (j 1)).isNone = true := by decide +kernel
  have hgone : (perform replies s (.step (j 1))).jobs.get? (j 1) = none :=
    Option.isNone_iff_eq_none.mp hisNone
  obtain ⟨⟨task₁, stage₁⟩, hjob₁, hslot₁⟩ := Option.map_eq_some_iff.mp hheld
  have hwaits : ∀ {t : Session}, (t.jobs.get? (j 2)).map (fun running =>
      (running.task, hasSlot running.stage)) = some (task, false) →
      t.jobs.get? (j 2) = some ⟨task, .queued⟩ := by
    intro t ht
    obtain ⟨⟨task₂, stage₂⟩, hjob₂, heq⟩ := Option.map_eq_some_iff.mp ht
    obtain ⟨rfl, hslot₂⟩ := Prod.mk.inj heq
    cases stage₂ with
    | queued => exact hjob₂
    | _ => cases hslot₂
  have hjob₂ : s.jobs.get? (j 2) = some ⟨task, .queued⟩ := hwaits (by decide +kernel)
  have hjob₂' : s'.jobs.get? (j 2) = some ⟨task, .queued⟩ := hwaits (by decide +kernel)
  refine ⟨task, hjob₂, ?_, ?_, hgone, ?_⟩
  · rw [ne_eq, hbefore.starts (j 2) task hjob₂, not_not]
    exact ⟨by decide, by decide +kernel⟩
  · rcases hbefore.returned (.step (j 1)) (j 1) task₁ stage₁ hjob₁ hslot₁ with
      ⟨stage', hkeeps, -⟩ | ⟨-, harrived, -⟩
    · cases hgone.symm.trans hkeeps
    · exact harrived
  · rw [hafter.starts (j 2) task hjob₂']
    rintro ⟨-, hfull⟩
    have hnone : s'.holders isDraw = 0 := by decide +kernel
    exact absurd (hnone.symm.trans hfull) (by decide)

end Session
end Formulary
