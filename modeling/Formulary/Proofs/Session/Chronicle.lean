import Formulary.Proofs.Session.Writing

/-!
# Chronicles — every batch of a session, with all that was written and seen before

A run is remembered by what its jobs wrote into the cache and by what was seen of it. Each batch is
followed from its request on: the jobs that have reported are those whose arrivals were seen, what was
written by its jobs are their outcomes, and while the document is open a job writes before it reports. The
errors of open documents are what was reported there last.

* `Follows` — a batch with its plan, and what is remembered of it.
* `follows_requested`, `follows_perform`, `follows_play` — from the request on, through any run.
* `Recalls` — all batches and all errors of a session, and that nothing else is remembered.
* `recalls_play`, `recalls_new`, `follows_request` — kept by every run.
-/

namespace Formulary

open Render

namespace Session

variable {replies : JobId → Reply} {limit : Nat} {plan arrived : List Job} {b : BatchId}
  {s s' : Session} {e : Event} {written : List (JobId × Outcome)} {seen : List Notice}

/-! ## Documents and batches -/

/-- A document that is open after a step was open before, or the step opened it. -/
theorem open_before (hstep : Step replies s e s') {id : DocumentId} {d' : OpenDocument}
    (hopen' : s'.documents.get? id = some d') :
    (e ≠ .close id ∧ ∃ d, s.documents.get? id = some d ∧ d.loaded = d'.loaded) ∨
      ∃ loaded ids reader text, e = .load id ids reader text ∧ s' = s.opened id loaded := by
  have hclose : e ≠ .close id := by
    rintro rfl
    cases hstep with
    | closed hopen => cases ((Table.get?_erase _ _ _).trans (if_pos rfl)).symm.trans hopen'
  by_cases hload : LoadsOther id e
  · have hsame := loaded_step hstep hload hclose
    rw [hopen'] at hsame
    obtain ⟨d, hopen, hloaded⟩ := Option.map_eq_some_iff.mp hsame.symm
    exact Or.inl ⟨hclose, d, hopen, hloaded⟩
  · simp only [LoadsOther, ne_eq, not_forall, not_not] at hload
    obtain ⟨ids, reader, text, rfl⟩ := hload
    cases hstep with
    | opened hloaded => exact Or.inr ⟨_, ids, reader, text, rfl, rfl⟩

/-- A document with a batch was open before, if it is open after a step. -/
theorem open_before_of_batch (hfresh : s.Fresh e) (hstep : Step replies s e s') {batch : Batch}
    (hbatch : s.batches.get? b = some batch) {d' : OpenDocument}
    (hopen' : s'.documents.get? b.document = some d') :
    ∃ d, s.documents.get? b.document = some d ∧ d.loaded = d'.loaded := by
  rcases open_before hstep hopen' with ⟨-, hbefore⟩ | ⟨loaded, ids, reader, text, rfl, -⟩
  · exact hbefore
  · -- numbers of new documents have no batches
    have hnone := hfresh.2 b.generation
    cases hnone.symm.trans hbatch

/-- Batches stay. -/
theorem exists_batch_step (hstep : Step replies s e s') {batch : Batch}
    (hbatch : s.batches.get? b = some batch) : ∃ batch', s'.batches.get? b = some batch' := by
  have hset : ∀ {other : BatchId} {new : Batch},
      ∃ batch', (s.batches.set other new).get? b = some batch' := by
    intro other new
    rw [Table.get?_set]
    by_cases hother : b = other
    · exact ⟨new, if_pos hother⟩
    · exact ⟨batch, (if_neg hother).trans hbatch⟩
  cases hstep with
  | requested hopen => exact hset
  | reported hjob hbatch' => exact hset
  | _ => exact ⟨batch, hbatch⟩

/-- Nothing is seen of a batch that is not there after a step. -/
theorem noticesOf_absent (hstep : Step replies s e s') (habsent : s'.batches.get? b = none) :
    noticesOf b (s.notices e) = [] := by
  have hbefore : s.batches.get? b = none := by
    cases hb : s.batches.get? b with
    | none => rfl
    | some batch =>
        obtain ⟨batch', hb'⟩ := exists_batch_step hstep hb
        cases habsent.symm.trans hb'
  cases e with
  | request id =>
      cases hstep with
      | @requested _ d hopen =>
          have hne : nextBatch id d ≠ b := by
            rintro rfl
            cases habsent.symm.trans (Table.get?_set_self _ _ _)
          rw [notices, request_eq hopen]
          exact noticesOf_signal_ne hne _
  | step id =>
      by_cases hbatch : id.batch = b
      · rw [notices, noticesOfStep]
        cases hjob : s.jobs.get? id with
        | none => rfl
        | some running =>
            obtain ⟨task, stage⟩ := running
            cases stage with
            | storing bitmap => exact noticesOf_evicted b _
            | reporting error =>
                rw [hbatch, hbefore]
                rfl
            | _ => rfl
      · exact noticesOf_step_foreign hbatch
  | _ => rfl

/-! ## One batch -/

/-- A batch that is followed, and what is remembered of it: its arrivals and its signal were seen, its jobs
    wrote their outcomes, its jobs are at places of the document, and a job whose part of the cache is up
    to date has written, as long as the document is open. -/
structure Follows (replies : JobId → Reply) (limit : Nat) (plan : List Job) (b : BatchId)
    (s : Session) (written : List (JobId × Outcome)) (seen : List Notice) (arrived : List Job) :
    Prop where
  tracks : Tracks replies limit plan b s arrived
  seen : seenAfter replies limit plan b arrived = noticesOf b seen
  outcomes : ∀ location outcome, (⟨b, location⟩, outcome) ∈ written →
    ∃ job ∈ plan, job.location = location ∧ outcome = jobOutcome replies limit b job
  placed : ∀ d, s.documents.get? b.document = some d → ∀ job ∈ plan,
    ∃ place ∈ d.loaded.extraction.contents, job.location = place.1.key
  backed : ∀ d, s.documents.get? b.document = some d → ∀ job ∈ plan,
    Cached s ⟨b, job.location⟩ → ∃ outcome, (⟨b, job.location⟩, outcome) ∈ written

/-- A job whose part of the cache comes up to date in a step, while its document is open, writes in this
    step. -/
theorem wrote_of_cached (hvalid : s.Valid) (hstep : Step replies s e s') {j : JobId}
    {d : OpenDocument} (hopen : s.documents.get? j.batch.document = some d) {batch : Batch}
    (hbatch : s.batches.get? j.batch = some batch) (hbefore : ¬ Cached s j) (hafter : Cached s' j) :
    ∃ outcome, (j, outcome) ∈ s.writesOf e := by
  have hown : e.job? = some j := by
    by_contra hne
    refine hbefore ?_
    intro task stage hjob
    exact hafter task stage ((job_step hvalid hbatch hne hstep).trans hjob)
  -- what it says of the job before the step, and after it
  have hlate : ∀ {task stage}, s.jobs.get? j = some ⟨task, stage⟩ →
      (stage = .leaving ∨ ∃ error, stage = .reporting error) → False := by
    intro task stage hjob hstage
    refine hbefore ?_
    intro task' stage' hjob'
    rw [hjob] at hjob'
    cases hjob'
    exact hstage
  have hearly : ∀ {task stage}, s'.jobs.get? j = some ⟨task, stage⟩ → stage ≠ .leaving →
      (∀ error, stage ≠ .reporting error) → False := by
    intro task stage hjob hleaving hreporting
    rcases hafter task stage hjob with heq | ⟨error, heq⟩
    · exact hleaving heq
    · exact hreporting error heq
  cases hstep with
  | answered hjob =>
      cases hown
      exact (hearly (Table.get?_set_self _ _ _) Stage.noConfusion fun _ => Stage.noConfusion).elim
  | started hjob hslot =>
      cases hown
      exact (hearly (Table.get?_set_self _ _ _) Stage.noConfusion fun _ => Stage.noConfusion).elim
  | accepted hjob hregistered =>
      cases hown
      exact (hearly (Table.get?_set_self _ _ _) Stage.noConfusion fun _ => Stage.noConfusion).elim
  | dropped hjob hunregistered =>
      cases hown
      -- the document is registered, since it is open
      obtain ⟨slot, hslot, -⟩ := hvalid.slot hopen
      rw [Registry.isRegistered, hslot] at hunregistered
      cases hunregistered
  | failed hjob =>
      cases hown
      rw [writesOf_failed hjob]
      exact ⟨_, List.mem_singleton.mpr rfl⟩
  | stored hjob =>
      cases hown
      rw [writesOf_storing hjob]
      exact ⟨_, List.mem_singleton.mpr rfl⟩
  | reported hjob hbatch' =>
      cases hown
      exact (hlate hjob (Or.inr ⟨_, rfl⟩)).elim
  | orphaned hjob hbatch' =>
      cases hown
      exact (hlate hjob (Or.inr ⟨_, rfl⟩)).elim
  | left hjob =>
      cases hown
      exact (hlate hjob (Or.inl rfl)).elim
  | _ => cases hown

/-- A job that writes carries nothing but its own outcome. -/
theorem Tracks.outcome_of_write (h : Tracks replies limit plan b s arrived) {location : String}
    {outcome : Outcome} (hmem : (⟨b, location⟩, outcome) ∈ s.writesOf e) :
    ∃ job ∈ plan, job.location = location ∧ outcome = jobOutcome replies limit b job := by
  obtain ⟨rfl, task, stage, hjob, hstage⟩ := mem_writesOf hmem
  have hnot : stage ≠ .leaving := by
    rintro rfl
    rcases hstage with ⟨error, heq, -⟩ | ⟨bitmap, heq, -⟩
    · cases heq
    · cases heq
  obtain ⟨job, hplan, hlocation, -, -, hfits⟩ := h.waiting_of hjob hnot
  refine ⟨job, hplan, hlocation, ?_⟩
  rcases hstage with ⟨error, rfl, rfl⟩ | ⟨bitmap, rfl, rfl⟩
  · exact hfits
  · exact hfits.symm

/-- One event more. -/
theorem follows_perform (hvalid : s.Valid)
    (h : Follows replies limit plan b s written seen arrived) (hfresh : s.Fresh e) :
    ∃ arrived', Follows replies limit plan b (perform replies s e) (written ++ s.writesOf e)
      (seen ++ s.notices e) arrived' := by
  obtain ⟨arrived', htracks, hseen⟩ := tracks_perform hvalid h.tracks e
  refine ⟨arrived', htracks, ?_, ?_, ?_, ?_⟩
  · rw [hseen, h.seen, noticesOf_append]
  · intro location outcome hmem
    rcases List.mem_append.mp hmem with hold | hnew
    · exact h.outcomes location outcome hold
    · exact h.tracks.outcome_of_write hnew
  · intro d' hopen' job hjob
    rcases perform_eq_or_step replies s e with ⟨heq, -⟩ | hstep
    · rw [heq] at hopen'
      exact h.placed d' hopen' job hjob
    · obtain ⟨d, hopen, hloaded⟩ := open_before_of_batch hfresh hstep h.tracks.batch hopen'
      rw [← hloaded]
      exact h.placed d hopen job hjob
  · intro d' hopen' job hjob hcached
    rcases perform_eq_or_step replies s e with ⟨heq, -⟩ | hstep
    · rw [heq] at hopen' hcached
      obtain ⟨outcome, hmem⟩ := h.backed d' hopen' job hjob hcached
      exact ⟨outcome, List.mem_append_left _ hmem⟩
    · obtain ⟨d, hopen, -⟩ := open_before_of_batch hfresh hstep h.tracks.batch hopen'
      by_cases hbefore : Cached s ⟨b, job.location⟩
      · obtain ⟨outcome, hmem⟩ := h.backed d hopen job hjob hbefore
        exact ⟨outcome, List.mem_append_left _ hmem⟩
      · obtain ⟨outcome, hmem⟩ :=
          wrote_of_cached hvalid hstep hopen h.tracks.batch hbefore hcached
        exact ⟨outcome, List.mem_append_right _ hmem⟩

/-- A whole run. The induction is on the events still to come. -/
theorem follows_play (hvalid : s.Valid)
    (h : Follows replies limit plan b s written seen arrived) {events : List Event}
    (hrun : Admissible replies s events) :
    ∃ arrived', Follows replies limit plan b (play replies s events)
      (written ++ writes replies s events) (seen ++ log replies s events) arrived' := by
  induction events generalizing s written seen arrived with
  | nil =>
      refine ⟨arrived, ?_⟩
      rw [writes, log, List.append_nil, List.append_nil]
      exact h
  | cons e rest ih =>
      obtain ⟨next, hnext⟩ := follows_perform hvalid h hrun.1
      obtain ⟨arrived', hlater⟩ := ih (valid_perform hvalid hrun.1) hnext hrun.2
      refine ⟨arrived', ?_⟩
      rw [writes, log, ← List.append_assoc, ← List.append_assoc]
      exact hlater

/-- A job of the batch writes nothing but its outcome. -/
theorem Follows.eq_outcome (h : Follows replies limit plan b s written seen arrived) {job : Job}
    (hjob : job ∈ plan) {outcome : Outcome} (hmem : (⟨b, job.location⟩, outcome) ∈ written) :
    outcome = jobOutcome replies limit b job := by
  obtain ⟨other, hother, hlocation, rfl⟩ := h.outcomes _ _ hmem
  rw [h.tracks.eq_of_location hother hjob hlocation]

/-- What a job of the batch has reported is the error of its outcome. -/
theorem Follows.mem_arrived (h : Follows replies limit plan b s written seen arrived)
    {location : String} {error : Option JobError} (hmem : (⟨b, location⟩, error) ∈ reports seen) :
    ∃ job ∈ arrived, job.location = location ∧ error = jobError replies limit b job := by
  have hnotice : .arrived ⟨b, location⟩ error ∈ seenAfter replies limit plan b arrived := by
    rw [h.seen]
    exact List.mem_filter.mpr ⟨mem_reports_iff.mp hmem, decide_eq_true rfl⟩
  rcases List.mem_append.mp hnotice with harrival | hsignal
  · obtain ⟨job, hjob, heq⟩ := List.mem_map.mp harrival
    cases heq
    exact ⟨job, hjob, rfl, rfl⟩
  · cases hsummary : CompletionGate.summaryAfter plan.length
        (arrived.map (jobError replies limit b)) with
    | none =>
        rw [hsummary] at hsignal
        cases hsignal
    | some summary =>
        rw [hsummary] at hsignal
        cases List.mem_singleton.mp hsignal

/-- The reports of the jobs that have arrived were seen. -/
theorem Follows.mem_reports (h : Follows replies limit plan b s written seen arrived) {job : Job}
    (hjob : job ∈ arrived) : (⟨b, job.location⟩, jobError replies limit b job) ∈ reports seen := by
  have hnotice : .arrived ⟨b, job.location⟩ (jobError replies limit b job) ∈ noticesOf b seen := by
    rw [← h.seen]
    exact List.mem_append_left _ (List.mem_map.mpr ⟨job, hjob, rfl⟩)
  exact mem_reports_iff.mpr (List.mem_filter.mp hnotice).1

/-- A job that has arrived has written, as long as the document is open. -/
theorem Follows.mem_written (h : Follows replies limit plan b s written seen arrived)
    {d : OpenDocument} (hopen : s.documents.get? b.document = some d) {job : Job}
    (hjob : job ∈ arrived) :
    (⟨b, job.location⟩, jobOutcome replies limit b job) ∈ written := by
  have hplan := h.tracks.planned job hjob
  obtain ⟨outcome, hmem⟩ := h.backed d hopen job hplan
    fun task stage hrunning => Or.inl (h.tracks.gone job hjob _ hrunning)
  rw [← h.eq_outcome hplan hmem]
  exact hmem

/-! ## All batches -/

/-- A session and all that is remembered of it. -/
structure Recalls (replies : JobId → Reply) (s : Session) (written : List (JobId × Outcome))
    (seen : List Notice) : Prop where
  valid : s.Valid
  followed : ∀ b batch, s.batches.get? b = some batch →
    ∃ plan arrived, Follows replies s.cache.maxBytes plan b s written seen arrived
  owned : ∀ w ∈ written, ∃ batch, s.batches.get? w.1.batch = some batch
  silent : ∀ b, s.batches.get? b = none → noticesOf b seen = []
  errors : ∀ id d, s.documents.get? id = some d → ∀ range,
    s.registry.error id range = (lastAt ⟨id, range.key⟩ (reports seen)).elim none Prod.snd

theorem recalls_new (options : SessionOptions) : Recalls replies (new options) [] [] where
  valid := valid_new options
  followed _ _ h := by cases h
  owned _ h := by cases h
  silent _ _ := rfl
  errors _ _ h := by cases h

/-- What was reported was reported by jobs of batches that are there. -/
theorem Recalls.batch_of_report (h : Recalls replies s written seen) {job : JobId}
    {error : Option JobError} (hmem : (job, error) ∈ reports seen) :
    ∃ batch, s.batches.get? job.batch = some batch := by
  cases hbatch : s.batches.get? job.batch with
  | some batch => exact ⟨batch, rfl⟩
  | none =>
      have hnotice : .arrived job error ∈ noticesOf job.batch seen :=
        List.mem_filter.mpr ⟨mem_reports_iff.mp hmem, decide_eq_true rfl⟩
      rw [h.silent _ hbatch] at hnotice
      cases hnotice

/-- A batch that was just requested waits for its jobs, and nothing is remembered of it but the signal
    of a batch without jobs. -/
theorem follows_requested (h : Recalls replies s written seen) {id : DocumentId} {d : OpenDocument}
    (hopen : s.documents.get? id = some d) :
    Follows replies s.cache.maxBytes (planOf d).jobs (nextBatch id d) (s.requested id d)
      (written ++ s.writesOf (.request id)) (seen ++ s.notices (.request id)) [] := by
  have hnew := h.valid.nextBatch_new hopen
  have hstep : Step replies s (.request id) (s.requested id d) := .requested hopen
  have hfresh : s.Fresh (.request id) := trivial
  refine ⟨tracks_requested h.valid hopen, ?_, ?_, ?_, ?_⟩
  · rw [noticesOf_append, h.silent _ hnew, noticesOf_request replies _ hopen]
    rfl
  · intro location outcome hmem
    rcases List.mem_append.mp hmem with hold | hwrite
    · obtain ⟨batch, hbatch⟩ := h.owned _ hold
      cases hnew.symm.trans hbatch
    · cases hwrite
  · intro d' hopen' job hjob
    obtain ⟨d'', hopen'', hloaded⟩ := open_step hfresh hstep hopen Event.noConfusion
    cases hopen''.symm.trans hopen'
    obtain ⟨place, hplace, rfl⟩ := (Plan.mem_jobs_iff (h.valid.wellFormed id d hopen)).mp hjob
    rw [hloaded]
    exact ⟨place, hplace, Plan.location_jobOf place⟩
  · -- the jobs wait for their slots
    intro d' hopen' job hjob hcached
    have hqueued : (s.requested id d).jobs.get? ⟨nextBatch id d, job.location⟩
        = some ⟨job.task, .queued⟩ := by
      rw [h.valid.jobs_requested]
      exact get?_enqueue_of_mem (nodup_planOf h.valid hopen) hjob
    rcases hcached _ _ hqueued with heq | ⟨error, heq⟩
    · cases heq
    · cases heq

/-- The errors of a document that is open after a step are what was reported there last. -/
theorem Recalls.errors_step (h : Recalls replies s written seen) (hfresh : s.Fresh e)
    (hstep : Step replies s e s') {id : DocumentId} {d' : OpenDocument}
    (hopen' : s'.documents.get? id = some d') (range : SourceRange) :
    s'.registry.error id range
      = (lastAt ⟨id, range.key⟩ (reports (seen ++ s.notices e))).elim none Prod.snd := by
  rw [reports_append, elim_lastAt_append]
  rcases open_before hstep hopen' with
    ⟨hclose, d, hopen, -⟩ | ⟨loaded, ids, reader, text, rfl, heq⟩
  · rw [← h.errors id d hopen]
    refine error_reports h.valid hfresh hstep hopen hclose ?_ ?_
    · intro j task error batch hjob hbatch
      obtain ⟨plan, arrived, hfollows⟩ := h.followed _ _ hbatch
      exact hfollows.tracks.room hjob Stage.noConfusion hbatch
    · intro j task error hjob hkey
      obtain ⟨batch, hbatch⟩ := h.valid.owned _ _ hjob
      obtain ⟨plan, arrived, hfollows⟩ := h.followed _ _ hbatch
      obtain ⟨job, hplan, hlocation, -⟩ := hfollows.tracks.waiting_of hjob Stage.noConfusion
      obtain ⟨hdocument, hrange⟩ := RenderKey.mk.inj hkey
      rw [← hdocument] at hopen
      obtain ⟨place, hplace, hplaced⟩ := hfollows.placed d hopen job hplan
      have heq : place.1 = range :=
        SourceRange.key_injective (hplaced.symm.trans (hlocation.trans hrange))
      rw [← heq]
      exact (h.valid.wellFormed _ d hopen).lookup_of_mem hplace
  · -- a document that was just opened has no errors, and no job of it has reported
    have hnone : lastAt ⟨id, range.key⟩ (reports seen) = none := by
      rw [lastAt_eq_none_iff]
      rintro ⟨job, error⟩ hmem hkey
      obtain ⟨batch, hbatch⟩ := h.batch_of_report hmem
      have hunused := hfresh.2 job.batch.generation
      rw [← (RenderKey.mk.inj hkey).1] at hunused
      cases hunused.symm.trans hbatch
    rw [hnone, heq]
    show ((s.registry.register id loaded.extraction.index).2.slot? id).bind _ = none
    rw [Registry.slot?_register, if_pos rfl]
    rfl

/-- One event more. -/
theorem recalls_perform (h : Recalls replies s written seen) (hfresh : s.Fresh e) :
    Recalls replies (perform replies s e) (written ++ s.writesOf e) (seen ++ s.notices e) := by
  have hvalid : (perform replies s e).Valid := valid_perform h.valid hfresh
  rcases perform_eq_or_step replies s e with ⟨heq, hquiet⟩ | hstep
  · rw [heq, writesOf_of_unmoved heq, hquiet, List.append_nil, List.append_nil]
    exact h
  · have hkeep : ∀ {b}, (perform replies s e).batches.get? b = none → s.batches.get? b = none := by
      intro b habsent
      cases hb : s.batches.get? b with
      | none => rfl
      | some batch =>
          obtain ⟨batch', hb'⟩ := exists_batch_step hstep hb
          cases habsent.symm.trans hb'
    refine ⟨hvalid, ?_, ?_, ?_, ?_⟩
    · intro b batch hbatch
      cases hold : s.batches.get? b with
      | some old =>
          obtain ⟨plan, arrived, hfollows⟩ := h.followed b old hold
          obtain ⟨arrived', hnext⟩ := follows_perform h.valid hfollows hfresh
          exact ⟨plan, arrived', hnext.tracks.maxBytes ▸ hnext⟩
      | none =>
          obtain ⟨id, d, rfl, hopen, rfl, heq⟩ := requested_of_new hstep hold hbatch
          rw [heq]
          exact ⟨_, [], follows_requested h hopen⟩
    · intro w hw
      rcases List.mem_append.mp hw with hold | hnew
      · obtain ⟨batch, hbatch⟩ := h.owned w hold
        exact exists_batch_step hstep hbatch
      · obtain ⟨-, task, stage, hjob, -⟩ := mem_writesOf hnew
        obtain ⟨batch, hbatch⟩ := h.valid.owned _ _ hjob
        exact exists_batch_step hstep hbatch
    · intro b habsent
      rw [noticesOf_append, h.silent b (hkeep habsent), noticesOf_absent hstep habsent]
      rfl
    · intro id d' hopen' range
      exact h.errors_step hfresh hstep hopen' range

/-- A whole run. The induction is on the events still to come. -/
theorem recalls_play (h : Recalls replies s written seen) {events : List Event}
    (hrun : Admissible replies s events) :
    Recalls replies (play replies s events) (written ++ writes replies s events)
      (seen ++ log replies s events) := by
  induction events generalizing s written seen with
  | nil =>
      rw [writes, log, List.append_nil, List.append_nil]
      exact h
  | cons e rest ih =>
      rw [writes, log, ← List.append_assoc, ← List.append_assoc]
      exact ih (recalls_perform h hrun.1) hrun.2

/-- What is remembered of any run of a new session. -/
theorem recalls_run {options : SessionOptions} {events : List Event}
    (hrun : Admissible replies (new options) events) :
    Recalls replies (play replies (new options) events) (writes replies (new options) events)
      (log replies (new options) events) := recalls_play (recalls_new options) hrun

/-- The batch of a request is followed through any run of a new session with this request. -/
theorem follows_request {options : SessionOptions} {before after : List Event} {id : DocumentId}
    {d : OpenDocument} (hrun : Admissible replies (new options) (before ++ .request id :: after))
    (hopen : (play replies (new options) before).documents.get? id = some d) :
    ∃ arrived, Follows replies (play replies (new options) before).cache.maxBytes (planOf d).jobs
      (nextBatch id d) (play replies (new options) (before ++ .request id :: after))
      (writes replies (new options) (before ++ .request id :: after))
      (log replies (new options) (before ++ .request id :: after)) arrived := by
  obtain ⟨hbefore, hrequest, hafter⟩ := (admissible_append replies).mp hrun
  have hrecalls := recalls_run hbefore
  have hrequested := follows_requested hrecalls hopen
  have hperform : perform replies (play replies (new options) before) (.request id)
      = (play replies (new options) before).requested id d := by
    rw [perform, request_eq hopen]
  rw [← hperform] at hrequested
  rw [play_append, writes_append, log_append, play_cons, writes, log, ← List.append_assoc,
    ← List.append_assoc]
  exact follows_play (valid_perform hrecalls.valid hrequest) hrequested hafter

end Session
end Formulary
