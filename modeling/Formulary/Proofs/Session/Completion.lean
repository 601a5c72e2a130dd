import Formulary.Proofs.Session.Progress
import Formulary.Proofs.Session.Resolution

/-!
# Completion — what becomes of a request

Whatever the collaborators say and in whatever order things happen, the jobs of a batch report once
each, and the signal comes once, right after the last report. No job is left behind when no job can
move. From the signal on every place shows what became of its job, as long as the document stays open,
no other batch of it runs and the cache keeps its bitmaps.

* `Reports`, `Completes` — the reports of a batch, its signal and its result, and that they come.
* `reports_play`, `completes_play` — a batch during any run from its request on.
* `resolve_play` — the places of the document after the signal.
* `request_spec` — a request in any session that a run leads to.
-/

namespace Formulary

open Render Markup

namespace Session

variable {replies : JobId → Reply} {limit : Nat} {plan arrived : List Job} {b : BatchId} {s : Session}

/-! ## Reports and the signal -/

/-- The signal of a batch: how many jobs there are, how many of them succeed and how many fail. -/
def summaryOf (replies : JobId → Reply) (limit : Nat) (b : BatchId) (plan : List Job) :
    BatchSummary := BatchSummary.of (plan.map (jobError replies limit b))

/-- The jobs of a batch that have reported, each of them once, and what is seen of the batch up to a
    session: their reports, and then the signal if these are all jobs. A job that is over has reported,
    and the result is there from the signal on. -/
structure Reports (replies : JobId → Reply) (limit : Nat) (plan : List Job) (b : BatchId)
    (s : Session) (seen : List Notice) (arrived : List Job) : Prop where
  once : arrived.Nodup
  planned : ∀ job ∈ arrived, job ∈ plan
  ended : ∀ job ∈ plan, s.jobs.get? ⟨b, job.location⟩ = none → job ∈ arrived
  seen : noticesOf b seen = arrivals replies limit b arrived ++
    if arrived.length = plan.length then [.signalled b (summaryOf replies limit b plan)] else []
  result : s.result? b
    = if arrived.length = plan.length then some (.ok (summaryOf replies limit b plan)) else none

/-- A batch completes: at all times some jobs have reported; jobs cannot move forever, and however they
    move, when none can move any more all of the batch have reported. -/
structure Completes (replies : JobId → Reply) (limit : Nat) (plan : List Job) (b : BatchId)
    (s : Session) (seen : List Notice) : Prop where
  reports : ∃ arrived, Reports replies limit plan b s seen arrived
  bounded : ∀ more, Moving replies s more → more.length ≤ work s
  settles : ∃ more, Moving replies s more ∧ Quiet replies (play replies s more)
  finishes : ∀ more, Moving replies s more → Quiet replies (play replies s more) →
    ∃ arrived, arrived.Perm plan ∧
      Reports replies limit plan b (play replies s more) (seen ++ log replies s more) arrived

/-- The summary of a batch is there as soon as all of its jobs have reported, in whatever order. -/
theorem Tracks.summaryAfter_eq (h : Tracks replies limit plan b s arrived) :
    CompletionGate.summaryAfter plan.length (arrived.map (jobError replies limit b))
      = if arrived.length = plan.length then some (summaryOf replies limit b plan) else none := by
  rw [CompletionGate.summaryAfter, List.length_map]
  by_cases hlength : arrived.length = plan.length
  · rw [if_pos hlength, if_pos hlength, summaryOf]
    exact congrArg some (BatchSummary.of_perm ((h.perm hlength).map _))
  · rw [if_neg hlength, if_neg hlength]

theorem Tracks.result_eq (h : Tracks replies limit plan b s arrived) (hvalid : s.Valid) :
    s.result? b = (CompletionGate.summaryAfter plan.length
      (arrived.map (jobError replies limit b))).map .ok := by
  have hsummary : (s.batches.get? b).bind Batch.summary
      = CompletionGate.summaryAfter plan.length (arrived.map (jobError replies limit b)) := by
    rw [h.batch]
    rfl
  rw [result?, hsummary]
  cases CompletionGate.summaryAfter plan.length (arrived.map (jobError replies limit b)) with
  | some summary => rfl
  | none =>
      rw [hvalid.running]
      rfl

/-- The jobs of a batch that have reported, when what was seen of the batch are their reports. -/
theorem Tracks.reports (h : Tracks replies limit plan b s arrived) (hvalid : s.Valid)
    {seen : List Notice} (hseen : seenAfter replies limit plan b arrived = noticesOf b seen) :
    Reports replies limit plan b s seen arrived := by
  refine ⟨h.nodup, h.planned, ?_, ?_, ?_⟩
  · intro job hjob hgone
    by_contra hnot
    obtain ⟨stage, hrunning, -⟩ := h.waiting job hjob hnot
    rw [hgone] at hrunning
    cases hrunning
  · rw [← hseen, seenAfter, h.summaryAfter_eq]
    by_cases hlength : arrived.length = plan.length
    · rw [if_pos hlength, if_pos hlength]
      rfl
    · rw [if_neg hlength, if_neg hlength]
      rfl
  · rw [h.result_eq hvalid, h.summaryAfter_eq]
    by_cases hlength : arrived.length = plan.length
    · rw [if_pos hlength, if_pos hlength]
      rfl
    · rw [if_neg hlength, if_neg hlength]
      rfl

/-- When no job can move, all jobs of a batch have reported. -/
theorem Tracks.perm_of_quiet (h : Tracks replies limit plan b s arrived) {fetchBound drawBound : Nat}
    (hslots : Conserves fetchBound drawBound s) (hquiet : Quiet replies s) : arrived.Perm plan := by
  -- a job that has not reported would still be there
  have hall : ∀ job ∈ plan, job ∈ arrived := by
    intro job hjob
    by_contra hnot
    obtain ⟨stage, hrunning, -⟩ := h.waiting job hjob hnot
    rw [no_job_of_quiet hslots hquiet] at hrunning
    cases hrunning
  have hplan : plan.Nodup := List.Nodup.of_map Job.location h.apart
  exact (List.perm_ext_iff_of_nodup h.nodup hplan).mpr fun job => ⟨h.planned job, hall job⟩

theorem perform_request {id : DocumentId} {d : OpenDocument} (hopen : s.documents.get? id = some d) :
    perform replies s (.request id) = s.requested id d := by
  rw [perform, request_eq hopen]

/-- The jobs that have reported during a run from a request on, and what was seen of the batch. -/
theorem tracks_request (hvalid : s.Valid) {id : DocumentId} {d : OpenDocument}
    (hopen : s.documents.get? id = some d) {after : List Event}
    (hrun : Admissible replies s (.request id :: after)) :
    ∃ arrived, Tracks replies s.cache.maxBytes (planOf d).jobs (nextBatch id d)
        (play replies s (.request id :: after)) arrived ∧
      seenAfter replies s.cache.maxBytes (planOf d).jobs (nextBatch id d) arrived
        = noticesOf (nextBatch id d) (log replies s (.request id :: after)) := by
  have hstart : Tracks replies s.cache.maxBytes (planOf d).jobs (nextBatch id d)
      (perform replies s (.request id)) [] := by
    rw [perform_request hopen]
    exact tracks_requested hvalid hopen
  obtain ⟨arrived, htracks, hseen⟩ := tracks_play (valid_perform hvalid hrun.1) hstart hrun.2
  refine ⟨arrived, htracks, ?_⟩
  rw [hseen, ← noticesOf_request replies _ hopen, ← noticesOf_append]
  rfl

/-- The reports of a batch during any run from its request on, and all of them when no job can move. -/
theorem reports_play (hvalid : s.Valid) {fetchBound drawBound : Nat}
    (hslots : Conserves fetchBound drawBound s) {id : DocumentId} {d : OpenDocument}
    (hopen : s.documents.get? id = some d) {after : List Event}
    (hrun : Admissible replies s (.request id :: after)) :
    ∃ arrived, Reports replies s.cache.maxBytes (planOf d).jobs (nextBatch id d)
        (play replies s (.request id :: after)) (log replies s (.request id :: after)) arrived ∧
      (Quiet replies (play replies s (.request id :: after)) → arrived.Perm (planOf d).jobs) := by
  obtain ⟨arrived, htracks, hseen⟩ := tracks_request hvalid hopen hrun
  have hvalid' := valid_play hvalid hrun
  have hslots' := conserves_play hvalid hslots hrun
  exact ⟨arrived, htracks.reports hvalid' hseen, htracks.perm_of_quiet hslots'⟩

/-- The batch of a request completes, whatever happens after the request. -/
theorem completes_play (hvalid : s.Valid) {fetchBound drawBound : Nat}
    (hslots : Conserves fetchBound drawBound s) {id : DocumentId} {d : OpenDocument}
    (hopen : s.documents.get? id = some d) {after : List Event}
    (hrun : Admissible replies s (.request id :: after)) :
    Completes replies s.cache.maxBytes (planOf d).jobs (nextBatch id d)
      (play replies s (.request id :: after)) (log replies s (.request id :: after)) := by
  obtain ⟨arrived, hreports, -⟩ := reports_play hvalid hslots hopen hrun
  refine ⟨⟨arrived, hreports⟩, fun _ => length_le_work, exists_quiet replies _, ?_⟩
  intro more hmoving hquiet
  -- the run and the moves after it are one run from the request on
  have hlonger : Admissible replies s (.request id :: (after ++ more)) :=
    (admissible_append replies).mpr ⟨hrun, admissible_of_moving hmoving⟩
  obtain ⟨all, hall, hperm⟩ := reports_play hvalid hslots hopen hlonger
  rw [← List.cons_append, play_append, log_append] at hall
  rw [← List.cons_append, play_append] at hperm
  exact ⟨all, hperm hquiet, hall⟩

/-- When a batch has its result, its signal was seen. -/
theorem Reports.signalled_of_result {seen : List Notice}
    (h : Reports replies limit plan b s seen arrived) (hresult : (s.result? b).isSome = true) :
    .signalled b (summaryOf replies limit b plan) ∈ seen := by
  have hlength : arrived.length = plan.length := by
    by_contra hne
    rw [h.result, if_neg hne] at hresult
    cases hresult
  have hmem : .signalled b (summaryOf replies limit b plan) ∈ noticesOf b seen := by
    rw [h.seen, if_pos hlength]
    exact List.mem_append_right _ (List.mem_singleton.mpr rfl)
  exact (List.mem_filter.mp hmem).1

/-! ## The places of the document -/

/-- A signal is seen only when all jobs have reported. -/
theorem length_of_signalled {seen : List Notice} {summary : BatchSummary}
    (hseen : seenAfter replies limit plan b arrived = noticesOf b seen)
    (hsignal : .signalled b summary ∈ seen) : arrived.length = plan.length := by
  have hmem : .signalled b summary ∈ seenAfter replies limit plan b arrived := by
    rw [hseen]
    exact List.mem_filter.mpr ⟨hsignal, decide_eq_true rfl⟩
  by_contra hne
  rw [seenAfter, CompletionGate.summaryAfter, List.length_map, if_neg hne, signal,
    List.append_nil] at hmem
  obtain ⟨job, -, heq⟩ := List.mem_map.mp hmem
  cases heq

/-- When all jobs have reported, none of them has anything left to do. -/
theorem Tracks.reported_of_length (h : Tracks replies limit plan b s arrived)
    (hlength : arrived.length = plan.length) {job : Job} (hjob : job ∈ plan) :
    Reported s ⟨b, job.location⟩ :=
  fun _ _ hrunning => h.gone job ((h.perm hlength).mem_iff.mpr hjob) _ hrunning

/-- From the signal on the places of a document show what became of their jobs, if the document stays
    open, all its batches before have signalled, no other is requested and the cache keeps its bitmaps. -/
theorem resolve_play (hvalid : s.Valid) (htracked : Tracked replies s) {id : DocumentId}
    {d : OpenDocument} (hopen : s.documents.get? id = some d) {after : List Event}
    (hrun : Admissible replies s (.request id :: after))
    (hsignalled : ∀ generation batch, s.batches.get? ⟨id, generation⟩ = some batch →
      batch.summary.isSome = true)
    (hleaves : ∀ e ∈ after, Leaves id e)
    (hkept : ∀ key ∈ evictedKeys (log replies s (.request id :: after)), key.document ≠ id)
    {summary : BatchSummary}
    (hsignal : .signalled (nextBatch id d) summary ∈ log replies s (.request id :: after))
    {place : SourceRange × Content} (hplace : place ∈ d.loaded.extraction.contents) :
    ((play replies s (.request id :: after)).resolve id place.1).1
      = resolutionOf place.2.source (jobOutcome replies s.cache.maxBytes (nextBatch id d)
          (Plan.jobOf d.fontSize d.color place)) := by
  have hwellFormed := hvalid.wellFormed id d hopen
  have hjob : Plan.jobOf d.fontSize d.color place ∈ (planOf d).jobs :=
    (Plan.mem_jobs_iff hwellFormed).mpr ⟨place, hplace, rfl⟩
  have hlocation : (Plan.jobOf d.fontSize d.color place).location = place.1.key :=
    Plan.location_jobOf place
  have hlookup : d.loaded.extraction.index.lookup (Plan.jobOf d.fontSize d.color place).location
      = some place.1 := by
    rw [hlocation]
    exact hwellFormed.lookup_of_mem hplace
  -- the job has reported, since the signal came
  obtain ⟨arrived, htracks, hseen⟩ := tracks_request hvalid hopen hrun
  have hreported := htracks.reported_of_length (length_of_signalled hseen hsignal) hjob
  -- the place shows its outcome then: it was waiting at first
  have hwatched := watched_requested hvalid htracked hopen hsignalled
  have hwaiting : Shown replies s.cache.maxBytes (nextBatch id d)
      (Plan.jobOf d.fontSize d.color place) place.1 (s.requested id d) := by
    have hqueued : (s.requested id d).jobs.get?
        ⟨nextBatch id d, (Plan.jobOf d.fontSize d.color place).location⟩
          = some ⟨(Plan.jobOf d.fontSize d.color place).task, .queued⟩ := by
      rw [hvalid.jobs_requested]
      exact get?_enqueue_of_mem (nodup_planOf hvalid hopen) hjob
    exact shown_of_stage hqueued Stage.noConfusion fun _ => Stage.noConfusion
  obtain ⟨-, hafter⟩ := hrun
  rw [log, evictedKeys_append, perform_request hopen] at hkept
  rw [play_cons, perform_request hopen] at hreported ⊢
  rw [perform_request hopen] at hafter
  have hkeys : (⟨id, (Plan.jobOf d.fontSize d.color place).location⟩ : RenderKey)
      ∉ evictedKeys (log replies (s.requested id d) after) :=
    fun hmem => hkept _ (List.mem_append_right _ hmem) rfl
  obtain ⟨⟨last, hlast⟩, hshown⟩ :=
    shown_play hwatched hafter hleaves hjob hlookup hkeys hwaiting
  obtain ⟨doc, hdoc, hloaded⟩ := hlast.isOpen
  have hsource : (play replies (s.requested id d) after).sourceAt id place.1 = place.2.source :=
    hlast.valid.sourceAt_of_mem hdoc (hloaded ▸ hplace)
  exact resolve_of_shown hshown hreported hlocation hsource

/-! ## Any request -/

/-- A request in a session that any run led to, and any run after it. There is one job for each place of
    the document; the batch completes, at once if there is no job; and from the signal on the places show
    what became of their jobs, if the document stays open, no other batch of it is under way and the cache
    keeps its bitmaps. -/
theorem request_spec (replies : JobId → Reply) (options : SessionOptions) (before after : List Event)
    (id : DocumentId) (d : OpenDocument)
    (hrun : Admissible replies (new options) (before ++ .request id :: after))
    (hopen : (play replies (new options) before).documents.get? id = some d) :
    let s := play replies (new options) before
    let s' := play replies s (.request id :: after)
    let seen := log replies s (.request id :: after)
    let b := nextBatch id d
    let plan := (planOf d).jobs
    plan.Perm (d.loaded.extraction.contents.map (Plan.jobOf d.fontSize d.color)) ∧
    plan.length = d.loaded.extraction.jobCount ∧
    Completes replies s.cache.maxBytes plan b s' seen ∧
    (plan = [] → noticesOf b (s.notices (.request id)) = [.signalled b ⟨0, 0, 0⟩]) ∧
    ((∀ generation batch, s.batches.get? ⟨id, generation⟩ = some batch →
        batch.summary.isSome = true) →
      (∀ e ∈ after, Leaves id e) →
      (∀ key ∈ evictedKeys seen, key.document ≠ id) →
      ∀ summary, .signalled b summary ∈ seen →
        ∀ place ∈ d.loaded.extraction.contents,
          (s'.resolve id place.1).1 = resolutionOf place.2.source
            (jobOutcome replies s.cache.maxBytes b (Plan.jobOf d.fontSize d.color place))) := by
  intro s s' seen b plan
  obtain ⟨hbefore, hafter⟩ := (admissible_append replies).mp hrun
  have hvalid : s.Valid := valid_play (valid_new options) hbefore
  have hslots := conserves_play (valid_new options) (conserves_new options) hbefore
  have htracked : Tracked replies s := tracked_play (valid_new options) (tracked_new options) hbefore
  have hwellFormed := hvalid.wellFormed id d hopen
  refine ⟨Plan.jobs_perm hwellFormed _ _, Plan.length_jobs hwellFormed _ _,
    completes_play hvalid hslots hopen hafter, ?_, ?_⟩
  · intro hempty
    rw [noticesOf_request replies 0 hopen]
    show seenAfter replies 0 plan b [] = _
    rw [hempty]
    rfl
  · intro hsignalled hleaves hkept summary hsignal place hplace
    exact resolve_play hvalid htracked hopen hafter hsignalled hleaves hkept hsignal hplace

/-- The only formula of a document is requested, drawn and stored: its place shows the bitmap. -/
theorem request_spec_one_formula :
    let range : SourceRange := ⟨⟨1, 3⟩, ⟨1, 40⟩⟩
    let reader := fun _ => Node.mk (.inlineCode (Uuid.numbered 0).hyphenated) range []
    let bitmap := Bitmap.uniform 1 1 Color.black
    let replies : JobId → Reply := fun _ =>
      ⟨.broken none, .given bitmap, .given, .broken none, Raster.decodeImage⟩
    let j : JobId := ⟨⟨⟨0⟩, 1⟩, range.key⟩
    let s := play replies (new {}) [.load ⟨0⟩ Uuid.numbered reader "a $x$ b"]
    let events := [.request ⟨0⟩, .step j, .answer j, .step j, .step j, .step j]
    ∃ d, s.documents.get? ⟨0⟩ = some d ∧
      Completes replies s.cache.maxBytes (planOf d).jobs (nextBatch ⟨0⟩ d) (play replies s events)
        (log replies s events) ∧
      ((play replies s events).resolve ⟨0⟩ range).1 = .rendered bitmap := by
  intro range reader bitmap replies j s events
  have hcontents : (s.documents.get? ⟨0⟩).map (fun d => (d.generation, d.loaded.extraction.contents))
      = some (0, [(range, .math "x" .inline)]) := by decide +kernel
  obtain ⟨d, hopen, hd⟩ := Option.map_eq_some_iff.mp hcontents
  obtain ⟨hgeneration, hplaces⟩ := Prod.mk.inj hd
  have hrun : Admissible replies (new {})
      ([.load ⟨0⟩ Uuid.numbered reader "a $x$ b"] ++ events) :=
    ⟨⟨rfl, fun _ => rfl⟩, trivial, trivial, trivial, trivial, trivial, trivial, trivial⟩
  obtain ⟨-, -, hcompletes, -, hresolve⟩ := request_spec replies {} _ _ ⟨0⟩ d hrun hopen
  refine ⟨d, hopen, hcompletes, ?_⟩
  have hnone : s.batches.entries = [] := List.isEmpty_iff.mp (by decide +kernel)
  have hevicted : evictedKeys (log replies s events) = [] := by decide +kernel
  have hdone : ((play replies s events).result? ⟨⟨0⟩, 1⟩).isSome = true := by decide +kernel
  rw [show (⟨⟨0⟩, 1⟩ : BatchId) = nextBatch ⟨0⟩ d by rw [nextBatch, hgeneration]] at hdone
  obtain ⟨arrived, hreports⟩ := hcompletes.reports
  refine hresolve ?_ ?_ ?_ _ (hreports.signalled_of_result hdone) (range, .math "x" .inline) ?_
  · intro generation batch hbatch
    rw [Table.get?, show s.batches.entries = [] from hnone] at hbatch
    cases hbatch
  · simp [Leaves]
  · intro key hkey
    rw [show evictedKeys (log replies s events) = [] from hevicted] at hkey
    cases hkey
  · rw [hplaces]
    exact List.mem_singleton.mpr rfl

end Session
end Formulary
