import Formulary.Proofs.Session.Batch

/-!
# Arrivals — what is seen of a batch during a run

Events of others leave a batch alone and nothing is seen of it. One step of a job of its own is seen at
most as its arrival, and with the last arrival comes the signal. So what is seen of a batch during a
whole run is the list of its jobs that have reported.

* `noticesOf`, `evictedKeys` — what is seen of a batch, and of the cache.
* `seenAfter` — what is seen of a batch of which some jobs have reported.
* `job_step`, `batch_step`, `tracks_step_own` — one event of others, and one of a job of the batch.
* `tracks_requested`, `tracks_play` — the batch when it was requested, and during a whole run.
* `Tracked`, `tracked_play` — every batch of a session is followed from its request on.
-/

namespace Formulary

open Render

namespace Session

/-! ## What is seen, by kind -/

/-- Whether a notice is about a batch. -/
def Notice.isOf (b : BatchId) : Notice → Bool
  | .arrived j _ => j.batch = b
  | .signalled batch _ => batch = b
  | .evicted _ => false

/-- What is seen of a batch: the arrivals of its jobs and its signals. -/
def noticesOf (b : BatchId) (seen : List Notice) : List Notice := seen.filter (Notice.isOf b)

/-- The keys whose bitmaps were given up. -/
def evictedKeys (seen : List Notice) : List RenderKey :=
  seen.filterMap fun
    | .evicted key => some key
    | _ => none

theorem noticesOf_append (b : BatchId) (a c : List Notice) :
    noticesOf b (a ++ c) = noticesOf b a ++ noticesOf b c := List.filter_append _ _

theorem evictedKeys_append (a c : List Notice) :
    evictedKeys (a ++ c) = evictedKeys a ++ evictedKeys c := List.filterMap_append

theorem noticesOf_signal (b : BatchId) (summary : Option BatchSummary) :
    noticesOf b (signal b summary) = signal b summary := by
  cases summary with
  | none => rfl
  | some summary => exact List.filter_cons_of_pos (decide_eq_true rfl)

theorem noticesOf_signal_ne {b batch : BatchId} (h : batch ≠ b) (summary : Option BatchSummary) :
    noticesOf b (signal batch summary) = [] := by
  cases summary with
  | none => rfl
  | some summary => exact List.filter_cons_of_neg (by simpa [Notice.isOf] using h)

theorem noticesOf_arrived (b : BatchId) (location : String) (error : Option JobError)
    (rest : List Notice) :
    noticesOf b (.arrived ⟨b, location⟩ error :: rest)
      = .arrived ⟨b, location⟩ error :: noticesOf b rest :=
  List.filter_cons_of_pos (decide_eq_true rfl)

theorem noticesOf_arrived_ne {b : BatchId} {id : JobId} (h : id.batch ≠ b)
    (error : Option JobError) (rest : List Notice) :
    noticesOf b (.arrived id error :: rest) = noticesOf b rest :=
  List.filter_cons_of_neg (by simpa [Notice.isOf] using h)

theorem noticesOf_evicted (b : BatchId) (keys : List RenderKey) :
    noticesOf b (keys.map .evicted) = [] := by
  induction keys with
  | nil => rfl
  | cons key rest ih => exact ih

/-- Of a step of a job of another batch nothing is seen of this one. -/
theorem noticesOf_step_foreign {s : Session} {id : JobId} {b : BatchId} (h : id.batch ≠ b) :
    noticesOf b (s.noticesOfStep id) = [] := by
  rw [noticesOfStep]
  cases hjob : s.jobs.get? id with
  | none => rfl
  | some job =>
      obtain ⟨task, stage⟩ := job
      cases stage with
      | storing bitmap => exact noticesOf_evicted b _
      | reporting error =>
          cases hbatch : s.batches.get? id.batch with
          | none => rfl
          | some batch => exact (noticesOf_arrived_ne h _ _).trans (noticesOf_signal_ne h _)
      | _ => rfl

variable {replies : JobId → Reply} {s s' : Session} {e : Event} {b : BatchId}

/-! ## Events of others -/

/-- No step changes the bound of the cache. -/
theorem maxBytes_step (h : Step replies s e s') : s'.cache.maxBytes = s.cache.maxBytes := by
  cases h with
  | resolved hcache => exact hcache.maxBytes
  | placed hcache => exact hcache.maxBytes
  | @failed id task e hjob =>
      show (s.cache.remove id.renderKey).2.maxBytes = s.cache.maxBytes
      rw [RenderCache.remove]
      cases s.cache.find? id.renderKey with
      | none => rfl
      | some entry => rfl
  | stored hjob => rfl
  | _ => rfl

/-- The next batch of a document is a new one. -/
theorem Valid.nextBatch_new (h : s.Valid) {id : DocumentId} {d : OpenDocument}
    (hopen : s.documents.get? id = some d) : s.batches.get? (nextBatch id d) = none := by
  cases hb : s.batches.get? (nextBatch id d) with
  | none => rfl
  | some batch =>
      have hle : d.generation + 1 ≤ d.generation := h.generation _ batch d hb hopen
      omega

/-- Of events that are no step of a job of a batch that exists, nothing is seen of this batch. -/
theorem noticesOf_foreign (h : s.Valid) {batch : Batch} (hb : s.batches.get? b = some batch)
    (hforeign : ∀ j, e.job? = some j → j.batch ≠ b) : noticesOf b (s.notices e) = [] := by
  cases e with
  | request id =>
      rw [notices]
      cases hopen : s.documents.get? id with
      | none =>
          rw [request_eq_none hopen]
          rfl
      | some d =>
          have hne : nextBatch id d ≠ b := by
            rintro rfl
            cases (h.nextBatch_new hopen).symm.trans hb
          rw [request_eq hopen]
          exact noticesOf_signal_ne hne _
  | step id => exact noticesOf_step_foreign (hforeign id rfl)
  | _ => rfl

/-- A job of a batch that exists stays as it is in all events but its own. -/
theorem job_step (h : s.Valid) {j : JobId} {batch : Batch} (hb : s.batches.get? j.batch = some batch)
    (hforeign : e.job? ≠ some j) (hstep : Step replies s e s') :
    s'.jobs.get? j = s.jobs.get? j := by
  have hset : ∀ {id : JobId} {running : RunningJob}, e.job? = some id →
      (s.jobs.set id running).get? j = s.jobs.get? j := by
    intro id running hid
    rw [Table.get?_set, if_neg]
    rintro rfl
    exact hforeign hid
  cases hstep with
  | @requested id d hopen =>
      have hne : j.batch ≠ nextBatch id d := by
        intro heq
        rw [heq] at hb
        cases (h.nextBatch_new hopen).symm.trans hb
      rw [h.jobs_requested]
      exact get?_enqueue_ne hne _
  | answered hjob => exact hset rfl
  | started hjob hslot => exact hset rfl
  | accepted hjob hregistered => exact hset rfl
  | dropped hjob hunregistered => exact hset rfl
  | failed hjob => exact hset rfl
  | stored hjob => exact hset rfl
  | reported hjob hbatch => exact hset rfl
  | orphaned hjob hbatch => exact hset rfl
  | @left id task hjob =>
      show (s.jobs.erase id).get? j = _
      rw [Table.get?_erase, if_neg]
      rintro rfl
      exact hforeign rfl
  | _ => rfl

/-- A batch that exists stays as it is in all events that are no step of a job of its own. -/
theorem batch_step (h : s.Valid) {batch : Batch} (hb : s.batches.get? b = some batch)
    (hforeign : ∀ j, e.job? = some j → j.batch ≠ b) (hstep : Step replies s e s') :
    s'.batches.get? b = s.batches.get? b := by
  cases hstep with
  | @requested id d hopen =>
      have hne : b ≠ nextBatch id d := by
        rintro rfl
        cases (h.nextBatch_new hopen).symm.trans hb
      exact (Table.get?_set _ _ _ _).trans (if_neg hne)
  | @reported id task error batch' hjob hbatch =>
      exact (Table.get?_set _ _ _ _).trans (if_neg (Ne.symm (hforeign id rfl)))
  | _ => rfl

/-! ## Events of the batch -/

variable {limit : Nat} {plan arrived : List Job}

/-- The arrivals of some jobs of a batch, each with its error. -/
def arrivals (replies : JobId → Reply) (limit : Nat) (b : BatchId) (arrived : List Job) :
    List Notice :=
  arrived.map fun job => .arrived ⟨b, job.location⟩ (jobError replies limit b job)

/-- What is seen of a batch of which some jobs have reported: their arrivals, and then the signal if
    these are all of its jobs. -/
def seenAfter (replies : JobId → Reply) (limit : Nat) (plan : List Job) (b : BatchId)
    (arrived : List Job) : List Notice :=
  arrivals replies limit b arrived ++
    signal b (CompletionGate.summaryAfter plan.length (arrived.map (jobError replies limit b)))

/-- The arrival of one more job is seen, with the signal if it is the last. -/
theorem seenAfter_arrive (hroom : arrived.length < plan.length) (job : Job) :
    seenAfter replies limit plan b (arrived ++ [job])
      = seenAfter replies limit plan b arrived ++
        .arrived ⟨b, job.location⟩ (jobError replies limit b job) ::
          signal b (CompletionGate.summaryAfter plan.length
            ((arrived ++ [job]).map (jobError replies limit b))) := by
  -- there was no signal before, since a job was missing
  have hbefore : CompletionGate.summaryAfter plan.length
      (arrived.map (jobError replies limit b)) = none := by
    rw [CompletionGate.summaryAfter, List.length_map, if_neg (Nat.ne_of_lt hroom)]
  rw [seenAfter, seenAfter, hbefore, signal, List.append_nil, arrivals, List.map_append,
    List.map_singleton, List.append_assoc]
  rfl

/-- What shows nothing of a batch adds nothing to what was seen of it. -/
theorem seenAfter_quiet {more : List Notice} (h : noticesOf b more = []) :
    seenAfter replies limit plan b arrived
      = seenAfter replies limit plan b arrived ++ noticesOf b more := by
  rw [h, List.append_nil]

/-- One more arrival at the gate of a batch that waits for a job. -/
theorem Tracks.arrive (h : Tracks replies limit plan b s arrived) {job : Job} (hjob : job ∈ plan)
    (hnot : job ∉ arrived) {batch : Batch} (hbatch : s.batches.get? b = some batch) :
    (batch.gate.arrive s.registry job.location (jobError replies limit b job)).gate
        = (batchAfter b plan.length ((arrived ++ [job]).map (jobError replies limit b))).gate ∧
      (batch.gate.arrive s.registry job.location (jobError replies limit b job)).summary
        = CompletionGate.summaryAfter plan.length
            ((arrived ++ [job]).map (jobError replies limit b)) ∧
      batch.summary = none := by
  have hlt : (arrived.map (jobError replies limit b)).length < plan.length := by
    rw [List.length_map]
    exact h.length_lt hjob hnot
  rw [h.batch] at hbatch
  cases hbatch
  have harrive : (CompletionGate.after b.document plan.length
      (arrived.map (jobError replies limit b))).arrive s.registry job.location
        (jobError replies limit b job) = _ := CompletionGate.arrive_after hlt
  rw [batchAfter, harrive, List.map_append, List.map_singleton]
  exact ⟨rfl, rfl, if_neg (Nat.ne_of_lt hlt)⟩

/-- A step of a job of the batch moves the job, or is its arrival. -/
theorem tracks_step_own (h : Tracks replies limit plan b s arrived) {location : String}
    (hjob? : e.job? = some ⟨b, location⟩) (hstep : Step replies s e s') :
    ∃ arrived', Tracks replies limit plan b s' arrived' ∧
      seenAfter replies limit plan b arrived'
        = seenAfter replies limit plan b arrived ++ noticesOf b (s.notices e) := by
  have hmaxBytes := maxBytes_step hstep
  cases hstep with
  | answered hjob =>
      cases hjob?
      obtain ⟨job, hmem, rfl, hnot, rfl, -⟩ := h.waiting_of hjob Stage.noConfusion
      have hfits : Fits (jobOutcome replies limit b job)
          (.finished (outcomeOf replies s ⟨b, job.location⟩ job.task)) := by
        show outcomeOf replies s _ _ = jobOutcome replies limit b job
        rw [outcomeOf, h.maxBytes, jobOutcome]
      exact ⟨arrived, h.move hmem hnot hfits hmaxBytes rfl rfl, seenAfter_quiet rfl⟩
  | started hjob hslot =>
      cases hjob?
      obtain ⟨job, hmem, rfl, hnot, rfl, -⟩ := h.waiting_of hjob Stage.noConfusion
      have hworking : Fits (jobOutcome replies limit b job) .working := trivial
      refine ⟨arrived, h.move hmem hnot hworking hmaxBytes rfl rfl, seenAfter_quiet ?_⟩
      rw [notices, noticesOfStep, hjob]
      rfl
  | @accepted id task bitmap hjob hregistered =>
      cases hjob?
      obtain ⟨job, hmem, rfl, hnot, rfl, hfits⟩ := h.waiting_of hjob Stage.noConfusion
      have hstoring : Fits (jobOutcome replies limit b job) (.storing bitmap) := hfits.symm
      refine ⟨arrived, h.move hmem hnot hstoring hmaxBytes rfl rfl, seenAfter_quiet ?_⟩
      rw [notices, noticesOfStep, hjob]
      rfl
  | @dropped id task bitmap hjob hunregistered =>
      cases hjob?
      obtain ⟨job, hmem, rfl, hnot, rfl, hfits⟩ := h.waiting_of hjob Stage.noConfusion
      have hnone : Fits (jobOutcome replies limit b job) (.reporting none) := by
        show none = errorOf (jobOutcome replies limit b job)
        rw [← hfits]
        rfl
      refine ⟨arrived, h.move hmem hnot hnone hmaxBytes rfl rfl, seenAfter_quiet ?_⟩
      rw [notices, noticesOfStep, hjob]
      rfl
  | @failed id task error hjob =>
      cases hjob?
      obtain ⟨job, hmem, rfl, hnot, rfl, hfits⟩ := h.waiting_of hjob Stage.noConfusion
      have hsome : Fits (jobOutcome replies limit b job) (.reporting (some error)) := by
        show some error = errorOf (jobOutcome replies limit b job)
        rw [← hfits]
        rfl
      refine ⟨arrived, h.move hmem hnot hsome hmaxBytes rfl rfl, seenAfter_quiet ?_⟩
      rw [notices, noticesOfStep, hjob]
      rfl
  | @stored id task bitmap hjob =>
      cases hjob?
      obtain ⟨job, hmem, rfl, hnot, rfl, hfits⟩ := h.waiting_of hjob Stage.noConfusion
      have hnone : Fits (jobOutcome replies limit b job) (.reporting none) := by
        show none = errorOf (jobOutcome replies limit b job)
        rw [show jobOutcome replies limit b job = .ok bitmap from hfits]
        rfl
      refine ⟨arrived, h.move hmem hnot hnone hmaxBytes rfl rfl, seenAfter_quiet ?_⟩
      rw [notices, noticesOfStep, hjob]
      exact noticesOf_evicted b _
  | @reported id task error batch hjob hbatch =>
      cases hjob?
      obtain ⟨job, hmem, rfl, hnot, rfl, hfits⟩ := h.waiting_of hjob Stage.noConfusion
      have herror : error = jobError replies limit b job := hfits
      subst herror
      -- the job joins those that have reported, and so do its notices
      obtain ⟨hgate, hsummary, hbefore⟩ := h.arrive hmem hnot hbatch
      refine ⟨arrived ++ [job], h.report hmem hnot hmaxBytes ?_ rfl, ?_⟩
      · show (s.batches.set b _).get? b = _
        rw [Table.get?_set, if_pos rfl, hbefore, hgate, hsummary]
        rfl
      · rw [seenAfter_arrive (h.length_lt hmem hnot), notices, noticesOfStep, hjob]
        simp only [hbatch]
        rw [noticesOf_arrived, noticesOf_signal, hsummary]
  | orphaned hjob hbatch =>
      cases hjob?
      cases h.batch.symm.trans hbatch
  | @left id task hjob =>
      cases hjob?
      refine ⟨arrived, h.leave hjob hmaxBytes rfl rfl, seenAfter_quiet ?_⟩
      rw [notices, noticesOfStep, hjob]
      rfl
  | _ => cases hjob?

/-! ## From the request on -/

/-- Jobs for other places stay as they are. -/
theorem get?_enqueue_of_not_mem {jobs : Table JobId RunningJob} {location : String}
    (h : location ∉ plan.map Job.location) :
    (enqueue b jobs plan).get? ⟨b, location⟩ = jobs.get? ⟨b, location⟩ := by
  induction plan generalizing jobs with
  | nil => rfl
  | cons job rest ih =>
      rw [List.map_cons, List.mem_cons, not_or] at h
      show (enqueue b (jobs.set ⟨b, job.location⟩ { task := job.task }) rest).get? _ = _
      rw [ih h.2, get?_set_location, if_neg h.1]

/-- Every job of a plan for distinct places waits for its slot. -/
theorem get?_enqueue_of_mem {jobs : Table JobId RunningJob} (hnd : (plan.map Job.location).Nodup)
    {job : Job} (hjob : job ∈ plan) :
    (enqueue b jobs plan).get? ⟨b, job.location⟩ = some ⟨job.task, .queued⟩ := by
  induction plan generalizing jobs with
  | nil => cases hjob
  | cons first rest ih =>
      obtain ⟨hfresh, htail⟩ := List.nodup_cons.mp hnd
      show (enqueue b (jobs.set ⟨b, first.location⟩ { task := first.task }) rest).get? _ = _
      rcases List.mem_cons.mp hjob with rfl | hmem
      · rw [get?_enqueue_of_not_mem hfresh, get?_set_location, if_pos rfl]
      · exact ih htail hmem

theorem nodup_planOf (h : s.Valid) {id : DocumentId} {d : OpenDocument}
    (hopen : s.documents.get? id = some d) : ((planOf d).jobs.map Job.location).Nodup :=
  Plan.nodup_locations (h.wellFormed id d hopen)

/-- A batch that was just requested waits for all of its jobs. -/
theorem tracks_requested (h : s.Valid) {id : DocumentId} {d : OpenDocument}
    (hopen : s.documents.get? id = some d) :
    Tracks replies s.cache.maxBytes (planOf d).jobs (nextBatch id d) (s.requested id d) [] := by
  have hnd := nodup_planOf h hopen
  have hjobs := h.jobs_requested id d
  constructor
  · rfl
  · exact hnd
  · show (s.batches.set (nextBatch id d) _).get? (nextBatch id d) = _
    rw [Table.get?_set, if_pos rfl, Plan.total_eq, CompletionGate.new_eq]
    rfl
  · exact List.nodup_nil
  · intro job hjob
    cases hjob
  · intro job hjob _
    rw [hjobs, get?_enqueue_of_mem hnd hjob]
    exact ⟨.queued, rfl, trivial⟩
  · intro job hjob
    cases hjob
  · intro location running hrunning
    by_cases hmem : location ∈ (planOf d).jobs.map Job.location
    · exact List.mem_map.mp hmem
    · -- a job that was there before belongs to a batch, and this one is new
      rw [hjobs, get?_enqueue_of_not_mem hmem] at hrunning
      obtain ⟨batch, hbatch⟩ := h.owned _ _ hrunning
      cases (h.nextBatch_new hopen).symm.trans hbatch

/-- A request shows the signal of a batch without jobs, and nothing of any other batch. -/
theorem noticesOf_request (replies : JobId → Reply) (limit : Nat) {id : DocumentId}
    {d : OpenDocument} (hopen : s.documents.get? id = some d) :
    noticesOf (nextBatch id d) (s.notices (.request id))
      = seenAfter replies limit (planOf d).jobs (nextBatch id d) [] := by
  have hsummary : ((s.requested id d).batches.get? (nextBatch id d)).bind Batch.summary
      = CompletionGate.summaryAfter (planOf d).jobs.length [] := by
    show ((s.batches.set (nextBatch id d) _).get? (nextBatch id d)).bind Batch.summary = _
    rw [Table.get?_set, if_pos rfl, Plan.total_eq, CompletionGate.new_eq]
    rfl
  rw [notices, request_eq hopen]
  show noticesOf _ (signal _ (((s.requested id d).batches.get? (nextBatch id d)).bind
    Batch.summary)) = _
  rw [noticesOf_signal, hsummary]
  rfl

/-- One event more. -/
theorem tracks_perform (hvalid : s.Valid) (h : Tracks replies limit plan b s arrived) (e : Event) :
    ∃ arrived', Tracks replies limit plan b (perform replies s e) arrived' ∧
      seenAfter replies limit plan b arrived'
        = seenAfter replies limit plan b arrived ++ noticesOf b (s.notices e) := by
  rcases perform_eq_or_step replies s e with ⟨heq, hquiet⟩ | hstep
  · rw [heq, hquiet]
    exact ⟨arrived, h, seenAfter_quiet rfl⟩
  · by_cases hown : ∃ location, e.job? = some ⟨b, location⟩
    · obtain ⟨location, hjob?⟩ := hown
      exact tracks_step_own h hjob? hstep
    · -- an event of others
      have hforeign : ∀ j, e.job? = some j → j.batch ≠ b := by
        rintro ⟨batch, location⟩ hj rfl
        exact hown ⟨location, hj⟩
      have hjobs : ∀ location, (perform replies s e).jobs.get? ⟨b, location⟩
          = s.jobs.get? ⟨b, location⟩ := fun location =>
        job_step hvalid h.batch (fun hjob? => hown ⟨location, hjob?⟩) hstep
      have hbatch := batch_step hvalid h.batch hforeign hstep
      exact ⟨arrived, h.congr (maxBytes_step hstep) hbatch hjobs,
        seenAfter_quiet (noticesOf_foreign hvalid h.batch hforeign)⟩

/-- A whole run: what is seen of the batch are the jobs that report, and the signal once these are all.
    The induction is on the events still to come. -/
theorem tracks_play (hvalid : s.Valid) (h : Tracks replies limit plan b s arrived)
    {events : List Event} (hrun : Admissible replies s events) :
    ∃ arrived', Tracks replies limit plan b (play replies s events) arrived' ∧
      seenAfter replies limit plan b arrived'
        = seenAfter replies limit plan b arrived ++ noticesOf b (log replies s events) := by
  induction events generalizing s arrived with
  | nil => exact ⟨arrived, h, seenAfter_quiet rfl⟩
  | cons e rest ih =>
      obtain ⟨next, htracks, hseen⟩ := tracks_perform hvalid h e
      obtain ⟨arrived', hlater, hrest⟩ := ih (valid_perform hvalid hrun.1) htracks hrun.2
      refine ⟨arrived', hlater, ?_⟩
      rw [hrest, hseen, log, noticesOf_append, List.append_assoc]

/-! ## All batches -/

/-- Every batch of a session is followed. -/
def Tracked (replies : JobId → Reply) (s : Session) : Prop :=
  ∀ b batch, s.batches.get? b = some batch →
    ∃ plan arrived, Tracks replies s.cache.maxBytes plan b s arrived

theorem tracked_new (options : SessionOptions) : Tracked replies (new options) := by
  intro b batch h
  cases h

/-- A batch that was not there before was requested. -/
theorem requested_of_new (hstep : Step replies s e s') (hold : s.batches.get? b = none)
    {batch : Batch} (hnew : s'.batches.get? b = some batch) :
    ∃ id d, e = .request id ∧ s.documents.get? id = some d ∧ b = nextBatch id d ∧
      s' = s.requested id d := by
  have hsame : ∀ {p : Prop}, s.batches.get? b = some batch → p := by
    intro p hbatch
    cases hold.symm.trans hbatch
  cases hstep with
  | @requested id d hopen =>
      refine ⟨id, d, rfl, hopen, ?_, rfl⟩
      by_contra hne
      have hkept : (s.requested id d).batches.get? b = s.batches.get? b :=
        (Table.get?_set _ _ _ _).trans (if_neg hne)
      exact hsame (hkept.symm.trans hnew)
  | @reported id task error batch' hjob hbatch =>
      have hne : b ≠ id.batch := by
        rintro rfl
        cases hold.symm.trans hbatch
      have hkept : (s.reported id task error batch').batches.get? b = s.batches.get? b :=
        (Table.get?_set _ _ _ _).trans (if_neg hne)
      exact hsame (hkept.symm.trans hnew)
  | _ => exact hsame hnew

theorem tracked_perform (hvalid : s.Valid) (h : Tracked replies s) (e : Event) :
    Tracked replies (perform replies s e) := by
  intro b batch hbatch
  cases hold : s.batches.get? b with
  | some old =>
      obtain ⟨plan, arrived, htracks⟩ := h b old hold
      obtain ⟨arrived', hnext, -⟩ := tracks_perform hvalid htracks e
      exact ⟨plan, arrived', hnext.maxBytes ▸ hnext⟩
  | none =>
      rcases perform_eq_or_step replies s e with ⟨heq, -⟩ | hstep
      · rw [heq] at hbatch
        cases hold.symm.trans hbatch
      · obtain ⟨id, d, -, hopen, rfl, heq⟩ := requested_of_new hstep hold hbatch
        rw [heq]
        exact ⟨_, [], tracks_requested hvalid hopen⟩

theorem tracked_play (hvalid : s.Valid) (h : Tracked replies s) {events : List Event}
    (hrun : Admissible replies s events) : Tracked replies (play replies s events) := by
  induction events generalizing s with
  | nil => exact h
  | cons e rest ih => exact ih (valid_perform hvalid hrun.1) (tracked_perform hvalid h e) hrun.2

/-- When as many jobs have reported as there are, these are all. -/
theorem Tracks.perm (h : Tracks replies limit plan b s arrived)
    (hlength : arrived.length = plan.length) : arrived.Perm plan := by
  have hsub : arrived.Subperm plan := List.subperm_of_subset h.nodup h.planned
  exact hsub.perm_of_length_le (Nat.le_of_eq hlength.symm)

/-- When a batch has signalled, its jobs are on their way out. -/
theorem Tracks.leaving_of_signalled (h : Tracks replies limit plan b s arrived) {batch : Batch}
    (hbatch : s.batches.get? b = some batch) (hsignalled : batch.summary.isSome = true)
    {location : String} {running : RunningJob}
    (hrunning : s.jobs.get? ⟨b, location⟩ = some running) : running.stage = .leaving := by
  have hlength : arrived.length = plan.length := by
    rw [h.batch] at hbatch
    cases hbatch
    by_contra hne
    have hnone : CompletionGate.summaryAfter plan.length
        (arrived.map (jobError replies limit b)) = none := by
      rw [CompletionGate.summaryAfter, List.length_map, if_neg hne]
    rw [batchAfter, hnone] at hsignalled
    exact Bool.false_ne_true hsignalled
  obtain ⟨job, hjob, -, ⟨-, hleaving⟩ | ⟨hnot, -⟩⟩ := h.job_of hrunning
  · exact hleaving
  · exact absurd ((h.perm hlength).mem_iff.mpr hjob) hnot

end Session
end Formulary
