import Formulary.Proofs.Session.Phases

/-!
# Overlaps — what places show when batches of a document overlap

Bitmaps and errors are kept by place, whatever batch they are of, and a job brings the cache up to date in
one step and reports in another. So what a place shows is put together from two jobs: the one that wrote
there last, whose bitmap it is, and the one that reported there last, whose error it is. These are one job
when batches do not overlap. When they do, they need not be of the last batch, and they need not be one.

* `resolutionBy`, `resolve_fst` — what a place resolves to by its error and its bitmap.
* `Decided`, `decided_run` — the two jobs that decide a place, after any run in which one has reported.
* `resolve_of_overlap` — what places show when the last batch has completed.
* `complementary_spec` — when a place has just one of a bitmap and an error.
-/

namespace Formulary

open Render Markup

namespace Session

/-! ## Two jobs -/

/-- What a place resolves to by its error and its bitmap; the source says what it was about. -/
def resolutionBy (source : String) : Option JobError → Option Bitmap → Resolution
  | some e, _ => .failed e source
  | none, some bitmap => .rendered bitmap
  | none, none => .pending

theorem resolve_fst (s : Session) (id : DocumentId) (range : SourceRange) :
    (s.resolve id range).1 = resolutionBy (s.sourceAt id range) (s.registry.error id range)
      (s.cache.bitmap? ⟨id, range.key⟩) := by
  rw [resolve, ← RenderCache.get_fst]
  cases s.registry.error id range with
  | some e => rfl
  | none =>
      cases s.cache.get ⟨id, range.key⟩ with
      | mk found cache =>
          cases found with
          | some bitmap => rfl
          | none => rfl

/-- A job that decides a place alone shows what became of it. -/
theorem resolutionBy_outcome (source : String) (outcome : Outcome) :
    resolutionBy source (errorOf outcome) outcome.toOption = resolutionOf source outcome := by
  cases outcome with
  | ok bitmap => rfl
  | error e => rfl

/-- The two jobs that decide a place: the one that wrote there last, with what it left in the cache, and
    the one that reported there last, with what became of it, which it had written before. -/
structure Decided (s : Session) (written : List (JobId × Outcome)) (seen : List Notice)
    (id : DocumentId) (range : SourceRange) (writer : JobId) (kept : Outcome) (reporter : JobId)
    (outcome : Outcome) : Prop where
  writes : lastAt ⟨id, range.key⟩ written = some (writer, kept)
  reports : lastAt ⟨id, range.key⟩ (reports seen) = some (reporter, errorOf outcome)
  wrote : (reporter, outcome) ∈ written
  bitmap : s.cache.bitmap? ⟨id, range.key⟩ = kept.toOption
  error : s.registry.error id range = errorOf outcome
  same : writer = reporter → kept = outcome

variable {replies : JobId → Reply} {s : Session} {written : List (JobId × Outcome)}
  {seen : List Notice} {id : DocumentId} {range : SourceRange} {writer reporter : JobId}
  {kept outcome : Outcome}

theorem Decided.resolve (h : Decided s written seen id range writer kept reporter outcome)
    {source : String} (hsource : s.sourceAt id range = source) :
    (s.resolve id range).1 = resolutionBy source (errorOf outcome) kept.toOption := by
  rw [resolve_fst, h.error, h.bitmap, hsource]

/-- A place where a job of an open document has reported is decided, if the cache has kept what was
    written last. -/
theorem Recalls.decided (h : Recalls replies s written seen) {d : OpenDocument}
    (hopen : s.documents.get? id = some d)
    (hbitmap : s.cache.bitmap? ⟨id, range.key⟩
      = (lastAt ⟨id, range.key⟩ written).elim none fun w => w.2.toOption)
    {job : JobId} {error : Option JobError} (hreport : (job, error) ∈ reports seen)
    (hkey : job.renderKey = ⟨id, range.key⟩) :
    ∃ writer kept reporter outcome, Decided s written seen id range writer kept reporter outcome := by
  obtain ⟨⟨reporter, last⟩, hlast⟩ := exists_lastAt hreport hkey
  obtain ⟨hmem, hplace⟩ := mem_of_lastAt hlast
  -- the job that reported last carries its own outcome, and wrote it before
  obtain ⟨batch, hbatch⟩ := h.batch_of_report hmem
  obtain ⟨plan, arrived, hfollows⟩ := h.followed _ _ hbatch
  obtain ⟨reporting, location⟩ := reporter
  obtain ⟨own, hown, rfl, rfl⟩ := hfollows.mem_arrived hmem
  have hdocument : reporting.document = id := (RenderKey.mk.inj hplace).1
  have hwrote := hfollows.mem_written (hdocument ▸ hopen) hown
  obtain ⟨⟨writer, kept⟩, hwriter⟩ := exists_lastAt hwrote hplace
  refine ⟨writer, kept, _, _, hwriter, hlast, hwrote, ?_, ?_, ?_⟩
  · rw [hbitmap, hwriter]
    rfl
  · rw [h.errors id d hopen, hlast]
    rfl
  · rintro rfl
    exact hfollows.eq_outcome (hfollows.tracks.planned own hown) (mem_of_lastAt hwriter).1

/-- After any run the places of an open document where a job has reported are decided. -/
theorem decided_run {options : SessionOptions} {events : List Event} {d : OpenDocument}
    (hrun : Admissible replies (new options) events)
    (hopen : (play replies (new options) events).documents.get? id = some d)
    (hkept : ⟨id, range.key⟩ ∉ evictedKeys (log replies (new options) events))
    {job : JobId} {error : Option JobError}
    (hreport : (job, error) ∈ reports (log replies (new options) events))
    (hkey : job.renderKey = ⟨id, range.key⟩) :
    ∃ writer kept reporter outcome,
      Decided (play replies (new options) events) (writes replies (new options) events)
        (log replies (new options) events) id range writer kept reporter outcome :=
  (recalls_run hrun).decided hopen (bitmap_play replies hkept) hreport hkey

/-! ## The last batch -/

/-- The batch of a request after which no other is requested is the last one. -/
theorem getLast?_requestsOf {before after : List Event} {d : OpenDocument}
    (hopen : (play replies s before).documents.get? id = some d)
    (hleaves : ∀ e ∈ after, Leaves id e) :
    (requestsOf replies id s (before ++ .request id :: after)).getLast? = some (nextBatch id d) := by
  have hnone : ∀ {s : Session}, requestsOf replies id s after = [] := by
    intro s
    refine List.eq_nil_iff_forall_not_mem.mpr ?_
    intro b hb
    obtain ⟨first, rest, -, rfl, -⟩ := mem_requestsOf hb
    exact (hleaves (.request id) (List.mem_append_right _ List.mem_cons_self)).2 rfl
  rw [requestsOf_append, requestsOf, hnone, List.append_nil, requestOf_request hopen,
    List.getLast?_concat]

/-- When a document is completed and nothing was requested of it since a batch, all jobs of this batch
    have reported. -/
theorem arrived_of_completed {options : SessionOptions} {before after : List Event}
    {d : OpenDocument} (hrun : Admissible replies (new options) (before ++ .request id :: after))
    (hopen : (play replies (new options) before).documents.get? id = some d)
    (hleaves : ∀ e ∈ after, Leaves id e)
    (hphase : ((play replies (new options) (before ++ .request id :: after)).documents.get? id).map
      OpenDocument.phase = some .completed) :
    ∃ arrived, Follows replies (play replies (new options) before).cache.maxBytes (planOf d).jobs
        (nextBatch id d) (play replies (new options) (before ++ .request id :: after))
        (writes replies (new options) (before ++ .request id :: after))
        (log replies (new options) (before ++ .request id :: after)) arrived ∧
      ∀ job ∈ (planOf d).jobs, job ∈ arrived := by
  obtain ⟨arrived, hfollows⟩ := follows_request hrun hopen
  refine ⟨arrived, hfollows, ?_⟩
  -- the phase says that the batch has its result
  obtain ⟨d', hopen', hcompleted⟩ := Option.map_eq_some_iff.mp hphase
  have hstands := (phased_play (valid_new options) (phased_new options id) hrun).stands d' hopen'
  have hresult := hcompleted.symm.trans hstands.phase
  rw [List.nil_append, phaseAfter_of_last (getLast?_requestsOf hopen hleaves)] at hresult
  have hsome : ((play replies (new options) (before ++ .request id :: after)).result?
      (nextBatch id d)).isSome = true := by
    by_contra hnot
    rw [if_neg hnot] at hresult
    cases hresult
  have hreports := hfollows.tracks.reports (valid_play (valid_new options) hrun) hfollows.seen
  have hlength := length_of_signalled hfollows.seen (hreports.signalled_of_result hsome)
  exact fun job hjob => (hfollows.tracks.perm hlength).mem_iff.mpr hjob

/-- A document whose last batch has completed, whatever other batches of it are under way. The job of
    this batch has written and reported at each place. The place shows what the two jobs that decide it
    say, and if these are of this batch, what became of its job. -/
theorem resolve_of_overlap (replies : JobId → Reply) (options : SessionOptions)
    (before after : List Event) (id : DocumentId) (d : OpenDocument)
    (hrun : Admissible replies (new options) (before ++ .request id :: after))
    (hopen : (play replies (new options) before).documents.get? id = some d)
    (hleaves : ∀ e ∈ after, Leaves id e)
    (hphase : ((play replies (new options) (before ++ .request id :: after)).documents.get? id).map
      OpenDocument.phase = some .completed)
    (hkept : ∀ key ∈ evictedKeys (log replies (new options) (before ++ .request id :: after)),
      key.document ≠ id) :
    let s := play replies (new options) (before ++ .request id :: after)
    let written := writes replies (new options) (before ++ .request id :: after)
    let seen := log replies (new options) (before ++ .request id :: after)
    let b := nextBatch id d
    ∀ place ∈ d.loaded.extraction.contents,
      let own := jobOutcome replies (play replies (new options) before).cache.maxBytes b
        (Plan.jobOf d.fontSize d.color place)
      (⟨b, place.1.key⟩, own) ∈ written ∧
      .arrived ⟨b, place.1.key⟩ (errorOf own) ∈ seen ∧
      ∃ writer kept reporter outcome,
        Decided s written seen id place.1 writer kept reporter outcome ∧
        (s.resolve id place.1).1 = resolutionBy place.2.source (errorOf outcome) kept.toOption ∧
        (writer.batch = b → reporter.batch = b →
          (s.resolve id place.1).1 = resolutionOf place.2.source own) := by
  intro s written seen b place hplace own
  obtain ⟨arrived, hfollows, hall⟩ := arrived_of_completed hrun hopen hleaves hphase
  -- the document is still open, with what was loaded
  have hlater : ∃ d', s.documents.get? id = some d' ∧ d'.loaded = d.loaded := by
    have hclose : ∀ e ∈ .request id :: after, e ≠ .close id := by
      intro e he
      rcases List.mem_cons.mp he with rfl | hmem
      · exact Event.noConfusion
      · exact (hleaves e hmem).1
    have hopened := open_play replies ((admissible_append replies).mp hrun).2 hopen hclose
    rw [← play_append] at hopened
    exact hopened
  obtain ⟨d', hopen', hloaded⟩ := hlater
  have hbefore := valid_play (valid_new options) ((admissible_append replies).mp hrun).1
  have hjob : Plan.jobOf d.fontSize d.color place ∈ (planOf d).jobs :=
    (Plan.mem_jobs_iff (hbefore.wellFormed id d hopen)).mpr ⟨place, hplace, rfl⟩
  have hlocation : (Plan.jobOf d.fontSize d.color place).location = place.1.key :=
    Plan.location_jobOf place
  have hwrote := hfollows.mem_written hopen' (hall _ hjob)
  have hreport := hfollows.mem_reports (hall _ hjob)
  rw [hlocation] at hwrote hreport
  refine ⟨hwrote, mem_reports_iff.mp hreport, ?_⟩
  obtain ⟨writer, kept, reporter, outcome, hdecided⟩ :=
    decided_run hrun hopen' (fun hmem => hkept _ hmem rfl) hreport rfl
  have hsource := (valid_play (valid_new options) hrun).sourceAt_of_mem hopen' (hloaded ▸ hplace)
  have hresolve := hdecided.resolve hsource
  refine ⟨writer, kept, reporter, outcome, hdecided, hresolve, ?_⟩
  intro hwriter hreporter
  -- a batch has one job for each place, and this job has one outcome
  have hjobs : ∀ {j : JobId}, j.batch = b → j.renderKey = ⟨id, place.1.key⟩ →
      j = ⟨b, (Plan.jobOf d.fontSize d.color place).location⟩ := by
    rintro ⟨batch, location⟩ rfl hkey
    rw [hlocation, show location = place.1.key from (RenderKey.mk.inj hkey).2]
  have hreporter' := hjobs hreporter (mem_of_lastAt hdecided.reports).2
  have hwriter' := hjobs hwriter (mem_of_lastAt hdecided.writes).2
  have houtcome : outcome = own := hfollows.eq_outcome hjob (hreporter' ▸ hdecided.wrote)
  rw [hresolve, hdecided.same (hwriter'.trans hreporter'.symm), houtcome, resolutionBy_outcome]

/-- Two batches of a document with one formula; the older one is the last to write and to report, and its
    bitmap is what the completed document shows. -/
theorem resolve_of_overlap_older_last :
    let range : SourceRange := ⟨⟨1, 3⟩, ⟨1, 40⟩⟩
    let reader := fun _ => Node.mk (.inlineCode (Uuid.numbered 0).hyphenated) range []
    let drawn := fun n => Bitmap.uniform n 1 Color.black
    let replies : JobId → Reply := fun j =>
      ⟨.broken none, .given (drawn j.batch.generation), .given, .broken none, Raster.decodeImage⟩
    let j := fun n => (⟨⟨⟨0⟩, n⟩, range.key⟩ : JobId)
    let moves := fun n => [.step (j n), .answer (j n), .step (j n), .step (j n), .step (j n)]
    let before := [.load ⟨0⟩ Uuid.numbered reader "a $x$ b", .request ⟨0⟩]
    let after := moves 2 ++ moves 1
    let s := play replies (new {}) (before ++ .request ⟨0⟩ :: after)
    (s.documents.get? ⟨0⟩).map OpenDocument.phase = some .completed ∧
      (j 2, .ok (drawn 2)) ∈ writes replies (new {}) (before ++ .request ⟨0⟩ :: after) ∧
      (s.resolve ⟨0⟩ range).1 = .rendered (drawn 1) := by
  intro range reader drawn replies j moves before after s
  have hcontents : ((play replies (new {}) before).documents.get? ⟨0⟩).map
      (fun d => (d.generation, d.loaded.extraction.contents))
        = some (1, [(range, .math "x" .inline)]) := by decide +kernel
  obtain ⟨d, hopen, hd⟩ := Option.map_eq_some_iff.mp hcontents
  obtain ⟨hgeneration, hplaces⟩ := Prod.mk.inj hd
  have hrun : Admissible replies (new {}) (before ++ .request ⟨0⟩ :: after) :=
    ⟨⟨rfl, fun _ => rfl⟩, trivial, trivial, trivial, trivial, trivial, trivial, trivial, trivial,
      trivial, trivial, trivial, trivial, trivial⟩
  have hphase : (s.documents.get? ⟨0⟩).map OpenDocument.phase = some .completed := by decide +kernel
  have hevicted : evictedKeys (log replies (new {}) (before ++ .request ⟨0⟩ :: after)) = [] := by
    decide +kernel
  obtain ⟨hwrote, -, writer, kept, reporter, outcome, hdecided, hresolve, -⟩ :=
    resolve_of_overlap replies {} before after ⟨0⟩ d hrun hopen (by simp [after, moves, Leaves])
      hphase (by rw [hevicted]; simp) (range, .math "x" .inline)
      (by rw [hplaces]; exact List.mem_singleton.mpr rfl)
  have hlastWrite : lastAt ⟨⟨0⟩, range.key⟩
      (writes replies (new {}) (before ++ .request ⟨0⟩ :: after)) = some (j 1, .ok (drawn 1)) := by
    decide +kernel
  have hlastReport : lastAt ⟨⟨0⟩, range.key⟩
      (reports (log replies (new {}) (before ++ .request ⟨0⟩ :: after))) = some (j 1, none) := by
    decide +kernel
  have hkept := (Prod.mk.inj (Option.some.inj (hdecided.writes.symm.trans hlastWrite))).2
  have hnone := (Prod.mk.inj (Option.some.inj (hdecided.reports.symm.trans hlastReport))).2
  refine ⟨hphase, ?_, ?_⟩
  · rw [show nextBatch ⟨0⟩ d = ⟨⟨0⟩, 2⟩ by rw [nextBatch, hgeneration]] at hwrote
    exact hwrote
  · rw [hresolve, hnone, hkept]
    rfl

/-! ## Bitmaps and errors -/

/-- A place has just one of a bitmap and an error if what was written there last and what was reported
    there last are both successes or both failures. -/
theorem Decided.complementary_iff
    (h : Decided s written seen id range writer kept reporter outcome) :
    ((s.cache.bitmap? ⟨id, range.key⟩).isSome = (s.registry.error id range).isNone) ↔
      kept.isOk = outcome.isOk := by
  rw [h.bitmap, h.error]
  cases kept with
  | ok bitmap =>
      cases outcome with
      | ok other => exact iff_of_true rfl rfl
      | error e => exact iff_of_false Bool.noConfusion Bool.noConfusion
  | error e =>
      cases outcome with
      | ok other => exact iff_of_false Bool.noConfusion Bool.noConfusion
      | error e => exact iff_of_true rfl rfl

/-- A place of an open document where a job has reported, after any run in which the cache has kept its
    bitmap, whatever batches of the document overlap. It has just one of a bitmap and an error exactly if
    the job that wrote there last and the one that reported there last both succeeded or both failed, as
    they did if they are one job or if no two jobs of the place ended differently. It has neither, and is
    pending, exactly if the last report was a success and the last write a removal. -/
theorem complementary_spec (replies : JobId → Reply) (options : SessionOptions)
    (events : List Event) (id : DocumentId) (d : OpenDocument) (range : SourceRange) (job : JobId)
    (error : Option JobError) (hrun : Admissible replies (new options) events)
    (hopen : (play replies (new options) events).documents.get? id = some d)
    (hkept : ⟨id, range.key⟩ ∉ evictedKeys (log replies (new options) events))
    (hreport : .arrived job error ∈ log replies (new options) events)
    (hkey : job.renderKey = ⟨id, range.key⟩) :
    let s := play replies (new options) events
    let written := writes replies (new options) events
    let seen := log replies (new options) events
    ∃ writer kept reporter outcome,
      Decided s written seen id range writer kept reporter outcome ∧
      ((s.cache.bitmap? ⟨id, range.key⟩).isSome = (s.registry.error id range).isNone ↔
        kept.isOk = outcome.isOk) ∧
      (writer = reporter → kept.isOk = outcome.isOk) ∧
      ((∀ w ∈ written, ∀ w' ∈ written, w.1.renderKey = ⟨id, range.key⟩ →
        w'.1.renderKey = ⟨id, range.key⟩ → w.2.isOk = w'.2.isOk) → kept.isOk = outcome.isOk) ∧
      ((s.resolve id range).1 = .pending ↔ kept.isOk = false ∧ outcome.isOk = true) := by
  intro s written seen
  obtain ⟨writer, kept, reporter, outcome, hdecided⟩ :=
    decided_run hrun hopen hkept (mem_reports_iff.mpr hreport) hkey
  refine ⟨writer, kept, reporter, outcome, hdecided, hdecided.complementary_iff, ?_, ?_, ?_⟩
  · intro hsame
    rw [hdecided.same hsame]
  · intro halike
    obtain ⟨hwrote, hwriter⟩ := mem_of_lastAt hdecided.writes
    exact halike _ hwrote _ hdecided.wrote hwriter (mem_of_lastAt hdecided.reports).2
  · rw [hdecided.resolve rfl]
    cases outcome with
    | error e => simp [resolutionBy, errorOf, Except.isOk, Except.toBool]
    | ok other =>
        cases kept with
        | ok bitmap => simp [resolutionBy, errorOf, Except.toOption, Except.isOk, Except.toBool]
        | error e => simp [resolutionBy, errorOf, Except.toOption, Except.isOk, Except.toBool]

/-- Two batches of a document with one formula, of which the older succeeds and the newer fails. The newer
    one removes the bitmap and reports between the two steps of the older one, and the place has neither a
    bitmap nor an error when both have reported. -/
theorem complementary_spec_neither :
    let range : SourceRange := ⟨⟨1, 3⟩, ⟨1, 40⟩⟩
    let reader := fun _ => Node.mk (.inlineCode (Uuid.numbered 0).hyphenated) range []
    let replies : JobId → Reply := fun j =>
      ⟨.broken none, if j.batch.generation = 1 then .given (Bitmap.uniform 1 1 Color.black)
        else .broken none, .given, .broken none, Raster.decodeImage⟩
    let j := fun n => (⟨⟨⟨0⟩, n⟩, range.key⟩ : JobId)
    let events := [.load ⟨0⟩ Uuid.numbered reader "a $x$ b", .request ⟨0⟩, .request ⟨0⟩,
      .step (j 1), .answer (j 1), .step (j 1), .step (j 1),
      .step (j 2), .answer (j 2), .step (j 2), .step (j 2), .step (j 1)]
    let s := play replies (new {}) events
    (s.result? (j 1).batch).isSome = true ∧ (s.result? (j 2).batch).isSome = true ∧
      (s.cache.bitmap? ⟨⟨0⟩, range.key⟩).isSome ≠ (s.registry.error ⟨0⟩ range).isNone ∧
      (s.resolve ⟨0⟩ range).1 = .pending := by
  intro range reader replies j events s
  have hrun : Admissible replies (new {}) events :=
    ⟨⟨rfl, fun _ => rfl⟩, trivial, trivial, trivial, trivial, trivial, trivial, trivial, trivial,
      trivial, trivial, trivial, trivial⟩
  have hisOpen : (s.documents.get? ⟨0⟩).isSome = true := by decide +kernel
  obtain ⟨d, hopen⟩ := Option.isSome_iff_exists.mp hisOpen
  have hevicted : evictedKeys (log replies (new {}) events) = [] := by decide +kernel
  have hreported : (j 1, none) ∈ reports (log replies (new {}) events) := by decide +kernel
  obtain ⟨writer, kept, reporter, outcome, hdecided, hiff, -, -, hpending⟩ :=
    complementary_spec replies {} events ⟨0⟩ d range (j 1) none hrun hopen
      (by rw [hevicted]; simp) (mem_reports_iff.mp hreported) rfl
  have hlastWrite : (lastAt ⟨⟨0⟩, range.key⟩ (writes replies (new {}) events)).map
      (fun w => (w.1, w.2.isOk)) = some (j 2, false) := by decide +kernel
  have hlastReport : lastAt ⟨⟨0⟩, range.key⟩ (reports (log replies (new {}) events))
      = some (j 1, none) := by decide +kernel
  have hkept : kept.isOk = false := by
    rw [hdecided.writes] at hlastWrite
    exact (Prod.mk.inj (Option.some.inj hlastWrite)).2
  have hok : outcome.isOk = true := by
    have hnone := (Prod.mk.inj (Option.some.inj (hdecided.reports.symm.trans hlastReport))).2
    cases outcome with
    | ok bitmap => rfl
    | error e => cases hnone
  refine ⟨by decide +kernel, by decide +kernel, ?_, hpending.mpr ⟨hkept, hok⟩⟩
  intro hone
  rw [hiff, hkept, hok] at hone
  cases hone

end Session
end Formulary
