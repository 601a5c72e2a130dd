import Formulary.Proofs.Session.Frame

/-!
# Resolutions — a place shows what became of its job

While a document stays open and no other batch of it runs, the job of a place is the only one that
writes there. When it has reported, its error is recorded or its bitmap is cached, and as long as the
cache does not give the bitmap up this is what the place resolves to.

* `Alone` — no other batch of the document runs.
* `Shown` — what is known of a place by how far its job is.
* `shown_step_own`, `shown_perform`, `shown_play` — kept by one step and by a run.
* `resolve_of_error`, `resolve_of_bitmap` — what a place resolves to.
* `resolve_of_shown` — what it resolves to when its job has reported.
-/

namespace Formulary

open Render

namespace Session

/-- All jobs of the document of a batch that have not reported are jobs of this batch. -/
def Alone (b : BatchId) (s : Session) : Prop :=
  ∀ j job, s.jobs.get? j = some job → j.batch.document = b.document →
    j.batch = b ∨ job.stage = .leaving

/-- A job has reported, or is about to: the cache is up to date. -/
def Cached (s : Session) (j : JobId) : Prop :=
  ∀ task stage, s.jobs.get? j = some ⟨task, stage⟩ →
    stage = .leaving ∨ ∃ error, stage = .reporting error

/-- A job has reported. -/
def Reported (s : Session) (j : JobId) : Prop :=
  ∀ task stage, s.jobs.get? j = some ⟨task, stage⟩ → stage = .leaving

/-- What is known of the place of a job: its bitmap is there once the cache is up to date, and its error
    is recorded, or the error before it is gone, once it has reported. -/
structure Shown (replies : JobId → Reply) (limit : Nat) (b : BatchId) (job : Job)
    (range : SourceRange) (s : Session) : Prop where
  cached : Cached s ⟨b, job.location⟩ → ∀ bitmap, jobOutcome replies limit b job = .ok bitmap →
    s.cache.bitmap? ⟨b.document, job.location⟩ = some bitmap
  recorded : Reported s ⟨b, job.location⟩ →
    s.registry.error b.document range = jobError replies limit b job

variable {replies : JobId → Reply} {limit : Nat} {plan arrived : List Job} {b : BatchId}
  {s s' : Session} {e : Event} {job : Job} {range : SourceRange}

/-- What is known of a place depends on its job, its bitmap and its error. -/
theorem Shown.congr (h : Shown replies limit b job range s)
    (hjobs : s'.jobs.get? ⟨b, job.location⟩ = s.jobs.get? ⟨b, job.location⟩)
    (hcache : s'.cache.bitmap? ⟨b.document, job.location⟩
      = s.cache.bitmap? ⟨b.document, job.location⟩)
    (herror : s'.registry.error b.document range = s.registry.error b.document range) :
    Shown replies limit b job range s' := by
  constructor
  · intro hcached bitmap houtcome
    rw [hcache]
    refine h.cached ?_ bitmap houtcome
    intro task stage hjob
    exact hcached task stage (hjobs.trans hjob)
  · intro hreported
    rw [herror]
    refine h.recorded ?_
    intro task stage hjob
    exact hreported task stage (hjobs.trans hjob)

/-- As long as the cache need not be up to date, nothing is said of a place. -/
theorem shown_of_stage {task : Task} {stage : Stage}
    (hjob : s.jobs.get? ⟨b, job.location⟩ = some ⟨task, stage⟩) (hleaving : stage ≠ .leaving)
    (hreporting : ∀ error, stage ≠ .reporting error) : Shown replies limit b job range s := by
  constructor
  · intro hcached
    rcases hcached task stage hjob with heq | ⟨error, heq⟩
    · exact absurd heq hleaving
    · exact absurd heq (hreporting error)
  · intro hreported
    exact absurd (hreported task stage hjob) hleaving

/-- When a job is about to report, its bitmap has to be there. -/
theorem shown_of_reporting {task : Task} {error : Option JobError}
    (hjob : s.jobs.get? ⟨b, job.location⟩ = some ⟨task, .reporting error⟩)
    (hcache : ∀ bitmap, jobOutcome replies limit b job = .ok bitmap →
      s.cache.bitmap? ⟨b.document, job.location⟩ = some bitmap) :
    Shown replies limit b job range s := by
  constructor
  · exact fun _ => hcache
  · intro hreported
    cases hreported _ _ hjob

/-! ## Steps -/

/-- A step of the job of a place. -/
theorem shown_step_own (hvalid : s.Valid) (htracks : Tracks replies limit plan b s arrived)
    (hplan : job ∈ plan) {d : OpenDocument} (hopen : s.documents.get? b.document = some d)
    (hlookup : d.loaded.extraction.index.lookup job.location = some range)
    (h : Shown replies limit b job range s) (hjob? : e.job? = some ⟨b, job.location⟩)
    (hkept : ⟨b.document, job.location⟩ ∉ evictedKeys (s.notices e))
    (hstep : Step replies s e s') : Shown replies limit b job range s' := by
  -- the document is open, so no bitmap is dropped
  have hregistered : s.registry.isRegistered b.document = true := by
    obtain ⟨slot, hslot, -⟩ := hvalid.slot hopen
    rw [Registry.isRegistered, hslot]
    rfl
  -- until it has reported the job carries nothing but its own outcome
  have houtcome : ∀ {task stage}, s.jobs.get? ⟨b, job.location⟩ = some ⟨task, stage⟩ →
      stage ≠ .leaving → Fits (jobOutcome replies limit b job) stage := by
    intro task stage hjob hstage
    obtain ⟨other, hother, hlocation, -, -, hfits⟩ := htracks.waiting_of hjob hstage
    rw [htracks.eq_of_location hother hplan hlocation] at hfits
    exact hfits
  cases hstep with
  | answered hjob =>
      cases hjob?
      exact shown_of_stage (Table.get?_set_self _ _ _) Stage.noConfusion fun _ => Stage.noConfusion
  | started hjob hslot =>
      cases hjob?
      exact shown_of_stage (Table.get?_set_self _ _ _) Stage.noConfusion fun _ => Stage.noConfusion
  | accepted hjob hregistered' =>
      cases hjob?
      exact shown_of_stage (Table.get?_set_self _ _ _) Stage.noConfusion fun _ => Stage.noConfusion
  | dropped hjob hunregistered =>
      cases hjob?
      rw [hregistered] at hunregistered
      exact Bool.noConfusion hunregistered
  | @failed id task error hjob =>
      cases hjob?
      refine shown_of_reporting (Table.get?_set_self _ _ _) ?_
      intro bitmap hbitmap
      have hfits : Except.error error = jobOutcome replies limit b job := houtcome hjob Stage.noConfusion
      cases hfits.trans hbitmap
  | @stored id task bitmap hjob =>
      cases hjob?
      rw [evictedKeys_stored hjob] at hkept
      refine shown_of_reporting (Table.get?_set_self _ _ _) ?_
      intro bitmap' hbitmap
      have hfits : jobOutcome replies limit b job = .ok bitmap := houtcome hjob Stage.noConfusion
      have heq : bitmap = bitmap' := Except.ok.inj (hfits.symm.trans hbitmap)
      exact (RenderCache.bitmap?_insert hkept).trans ((if_pos rfl).trans (congrArg some heq))
  | @reported id task error batch hjob hbatch =>
      cases hjob?
      have hfits : error = jobError replies limit b job := houtcome hjob Stage.noConfusion
      obtain ⟨slot, hslot, hindex⟩ := hvalid.slot hopen
      -- the gate has room for this job, so what it reports is recorded
      have hroom := htracks.room hjob Stage.noConfusion hbatch
      constructor
      · intro _ bitmap hbitmap
        refine h.cached ?_ bitmap hbitmap
        intro task' stage hjob'
        rw [hjob] at hjob'
        cases hjob'
        exact Or.inr ⟨error, rfl⟩
      · intro _
        show (batch.gate.arrive s.registry job.location error).registry.error b.document range = _
        rw [CompletionGate.registry_arrive, if_neg hroom, hvalid.gate _ _ hbatch, ← hfits]
        exact Registry.error_record hslot (by rw [hindex]; exact hlookup)
  | orphaned hjob hbatch =>
      cases hjob?
      cases htracks.batch.symm.trans hbatch
  | @left id task hjob =>
      cases hjob?
      have hreported : Reported s ⟨b, job.location⟩ := by
        intro task' stage hjob'
        rw [hjob] at hjob'
        cases hjob'
        rfl
      exact ⟨fun _ => h.cached fun task' stage hjob' => Or.inl (hreported task' stage hjob'),
        fun _ => h.recorded hreported⟩
  | _ => cases hjob?

/-- No other batch of a document starts as long as none is requested. -/
theorem alone_step (hvalid : s.Valid) (halone : Alone b s) (hrequest : e ≠ .request b.document)
    (hstep : Step replies s e s') : Alone b s' := by
  have hset : ∀ {id : JobId} {old new : RunningJob}, s.jobs.get? id = some old →
      old.stage ≠ .leaving → ∀ j job, (s.jobs.set id new).get? j = some job →
        j.batch.document = b.document → j.batch = b ∨ job.stage = .leaving := by
    intro id old new hold hstage j job hj hdocument
    rw [Table.get?_set] at hj
    by_cases hsame : j = id
    · rcases halone id old hold (hsame ▸ hdocument) with hbatch | hleaving
      · exact Or.inl (hsame ▸ hbatch)
      · exact absurd hleaving hstage
    · rw [if_neg hsame] at hj
      exact halone j job hj hdocument
  cases hstep with
  | @requested id d hopen =>
      intro j job hj hdocument
      have hne : j.batch ≠ nextBatch id d := by
        intro heq
        rw [heq] at hdocument
        exact hrequest (congrArg Event.request hdocument)
      rw [hvalid.jobs_requested, get?_enqueue_ne hne] at hj
      exact halone j job hj hdocument
  | answered hjob => exact hset hjob Stage.noConfusion
  | started hjob hslot => exact hset hjob Stage.noConfusion
  | accepted hjob hregistered => exact hset hjob Stage.noConfusion
  | dropped hjob hunregistered => exact hset hjob Stage.noConfusion
  | failed hjob => exact hset hjob Stage.noConfusion
  | stored hjob => exact hset hjob Stage.noConfusion
  | reported hjob hbatch => exact hset hjob Stage.noConfusion
  | orphaned hjob hbatch => exact hset hjob Stage.noConfusion
  | left hjob =>
      intro j job hj
      rw [Table.get?_erase] at hj
      exact halone j job (Option.ite_none_left_eq_some.mp hj).2
  | _ => exact halone

/-! ## Runs -/

/-- A batch that is followed while its document stays open and no other batch of it runs. -/
structure Watched (replies : JobId → Reply) (limit : Nat) (plan : List Job) (b : BatchId)
    (d : LoadedDocument) (s : Session) (arrived : List Job) : Prop where
  valid : s.Valid
  tracks : Tracks replies limit plan b s arrived
  alone : Alone b s
  isOpen : ∃ doc, s.documents.get? b.document = some doc ∧ doc.loaded = d

variable {d : LoadedDocument}

/-- Events that neither close the document nor request another batch of it. -/
def Leaves (id : DocumentId) (e : Event) : Prop := e ≠ .close id ∧ e ≠ .request id

/-- A batch that was just requested, when all batches of its document before it have signalled. -/
theorem watched_requested (hvalid : s.Valid) (htracked : Tracked replies s) {id : DocumentId}
    {doc : OpenDocument} (hopen : s.documents.get? id = some doc)
    (hsignalled : ∀ generation batch, s.batches.get? ⟨id, generation⟩ = some batch →
      batch.summary.isSome = true) :
    Watched replies s.cache.maxBytes (planOf doc).jobs (nextBatch id doc) doc.loaded
      (s.requested id doc) [] := by
  have hstep : Step replies s (.request id) (s.requested id doc) := .requested hopen
  have hfresh : s.Fresh (.request id) := trivial
  refine ⟨hvalid.requested hopen, tracks_requested hvalid hopen, ?_,
    open_step hfresh hstep hopen Event.noConfusion⟩
  rintro ⟨⟨document, generation⟩, location⟩ running hrunning hdocument
  by_cases hbatch : (⟨document, generation⟩ : BatchId) = nextBatch id doc
  · exact Or.inl hbatch
  · -- a job of an older batch, which has signalled
    cases hdocument
    rw [hvalid.jobs_requested, get?_enqueue_ne hbatch] at hrunning
    obtain ⟨batch, hget⟩ := hvalid.owned _ _ hrunning
    obtain ⟨plan, arrived, htracks⟩ := htracked _ batch hget
    exact Or.inr (htracks.leaving_of_signalled hget (hsignalled generation batch hget) hrunning)

theorem watched_perform (h : Watched replies limit plan b d s arrived) (hfresh : s.Fresh e)
    (hleaves : Leaves b.document e) :
    ∃ arrived', Watched replies limit plan b d (perform replies s e) arrived' := by
  obtain ⟨arrived', htracks, -⟩ := tracks_perform h.valid h.tracks e
  refine ⟨arrived', valid_perform h.valid hfresh, htracks, ?_, ?_⟩
  · rcases perform_eq_or_step replies s e with ⟨heq, -⟩ | hstep
    · rw [heq]
      exact h.alone
    · exact alone_step h.valid h.alone hleaves.2 hstep
  · obtain ⟨doc, hopen, rfl⟩ := h.isOpen
    rcases perform_eq_or_step replies s e with ⟨heq, -⟩ | hstep
    · rw [heq]
      exact ⟨doc, hopen, rfl⟩
    · exact open_step hfresh hstep hopen hleaves.1

/-- One event more keeps what is known of a place. -/
theorem shown_perform (h : Watched replies limit plan b d s arrived) (hfresh : s.Fresh e)
    (hleaves : Leaves b.document e) (hplan : job ∈ plan)
    (hlookup : d.extraction.index.lookup job.location = some range)
    (hkept : ⟨b.document, job.location⟩ ∉ evictedKeys (s.notices e))
    (hshown : Shown replies limit b job range s) :
    Shown replies limit b job range (perform replies s e) := by
  rcases perform_eq_or_step replies s e with ⟨heq, -⟩ | hstep
  · rw [heq]
    exact hshown
  · obtain ⟨doc, hopen, rfl⟩ := h.isOpen
    by_cases hown : e.job? = some ⟨b, job.location⟩
    · exact shown_step_own h.valid h.tracks hplan hopen hlookup hshown hown hkept hstep
    · -- the only job that still writes at this place is the one of this batch
      have hforeign : WritesElsewhere s e ⟨b.document, job.location⟩ := by
        rintro ⟨batch, location⟩ running hj hrunning hstage heq
        obtain ⟨hdocument, hlocation⟩ := RenderKey.mk.inj heq
        rcases h.alone _ running hrunning hdocument with hbatch | hleaving
        · rw [hj, show batch = b from hbatch, show location = job.location from hlocation] at hown
          exact hown rfl
        · exact hstage hleaving
      have hkey : job.location = range.key := h.valid.lookup_key hopen hlookup
      refine hshown.congr (job_step h.valid h.tracks.batch hown hstep)
        (bitmap_step hstep hforeign hkept) ?_
      rw [hkey] at hforeign
      exact error_step h.valid hfresh hstep hopen hleaves.1 hforeign.reports

/-- What is known of a place after a run in which the cache does not give its bitmap up. The induction
    is on the events still to come. -/
theorem shown_play (h : Watched replies limit plan b d s arrived) {events : List Event}
    (hrun : Admissible replies s events) (hleaves : ∀ e ∈ events, Leaves b.document e)
    (hplan : job ∈ plan) (hlookup : d.extraction.index.lookup job.location = some range)
    (hkept : ⟨b.document, job.location⟩ ∉ evictedKeys (log replies s events))
    (hshown : Shown replies limit b job range s) :
    (∃ arrived', Watched replies limit plan b d (play replies s events) arrived') ∧
      Shown replies limit b job range (play replies s events) := by
  induction events generalizing s arrived with
  | nil => exact ⟨⟨arrived, h⟩, hshown⟩
  | cons e rest ih =>
      rw [log, evictedKeys_append, List.mem_append, not_or] at hkept
      have hfirst := hleaves e List.mem_cons_self
      obtain ⟨next, hwatched⟩ := watched_perform h hrun.1 hfirst
      have hnext := shown_perform h hrun.1 hfirst hplan hlookup hkept.1 hshown
      exact ih hwatched hrun.2 (fun e he => hleaves e (List.mem_cons_of_mem _ he)) hkept.2 hnext

/-! ## What a place resolves to -/

/-- What a place resolves to when its job ended with an outcome; the source says what the job was
    about. -/
def resolutionOf (source : String) : Outcome → Resolution
  | .ok bitmap => .rendered bitmap
  | .error e => .failed e source

/-- The source text at a place of an open document. -/
theorem Valid.sourceAt_of_mem (h : s.Valid) {id : DocumentId} {doc : OpenDocument}
    (hopen : s.documents.get? id = some doc) {place : SourceRange × Content}
    (hplace : place ∈ doc.loaded.extraction.contents) : s.sourceAt id place.1 = place.2.source := by
  rw [sourceAt, hopen]
  show (doc.loaded.extraction.source? place.1).getD "" = _
  rw [(h.wellFormed id doc hopen).source?_of_mem hplace]
  rfl

/-- A place with an error resolves to it, with the source text of the place. -/
theorem resolve_of_error {id : DocumentId} {error : JobError}
    (h : s.registry.error id range = some error) :
    (s.resolve id range).1 = .failed error (s.sourceAt id range) := by
  rw [resolve, h]

/-- A place without an error resolves to its bitmap, if there is one. -/
theorem resolve_of_bitmap {id : DocumentId} {bitmap : Bitmap}
    (herror : s.registry.error id range = none)
    (hbitmap : s.cache.bitmap? ⟨id, range.key⟩ = some bitmap) :
    (s.resolve id range).1 = .rendered bitmap := by
  have hfound : (s.cache.get ⟨id, range.key⟩).1 = some bitmap :=
    (RenderCache.get_fst _ _).trans hbitmap
  rw [resolve, herror]
  cases hget : s.cache.get ⟨id, range.key⟩ with
  | mk found cache =>
      rw [hget] at hfound
      cases hfound
      rfl

/-- When the job of a place has reported, the place resolves to what became of it. -/
theorem resolve_of_shown (hshown : Shown replies limit b job range s)
    (hreported : Reported s ⟨b, job.location⟩) (hkey : job.location = range.key) {source : String}
    (hsource : s.sourceAt b.document range = source) :
    (s.resolve b.document range).1 = resolutionOf source (jobOutcome replies limit b job) := by
  have hcached : Cached s ⟨b, job.location⟩ :=
    fun task stage hjob => Or.inl (hreported task stage hjob)
  have herror := hshown.recorded hreported
  rw [jobError] at herror
  cases houtcome : jobOutcome replies limit b job with
  | error e =>
      rw [houtcome] at herror
      rw [resolve_of_error herror, hsource]
      rfl
  | ok bitmap =>
      rw [houtcome] at herror
      have hbitmap := hshown.cached hcached bitmap houtcome
      rw [hkey] at hbitmap
      exact resolve_of_bitmap herror hbitmap

end Session
end Formulary
