import Formulary.Proofs.Session.Resolution

/-!
# Writings — the job that comes last at a place decides what is kept there

A job brings the cache up to date in one step and reports in a later one, and jobs of several batches may
be at one place. The bitmap of a place is that of the job that wrote there last, and its error is that of
the job that reported there last. These are two lists, and their last entries may be of two jobs.

* `writes`, `reports` — what jobs write into the cache during a run, and what they report.
* `lastAt` — the last entry of such a list that is about a place.
* `bitmap_writes`, `bitmap_play` — the bitmap of a place after an event and after a run.
* `error_reports` — the error of a place after an event.
-/

namespace Formulary

open Render

namespace Session

/-! ## What jobs write and report -/

/-- What the next step of a job leaves in the cache: its bitmap, or none because of its error. -/
def writesOfStep (s : Session) (id : JobId) : List (JobId × Outcome) :=
  match s.jobs.get? id with
  | some ⟨_, .finished (.error e)⟩ => [(id, .error e)]
  | some ⟨_, .storing bitmap⟩ => [(id, .ok bitmap)]
  | _ => []

/-- What an event leaves in the cache. -/
def writesOf (s : Session) : Event → List (JobId × Outcome)
  | .step id => s.writesOfStep id
  | _ => []

/-- What the jobs leave in the cache during a run, in order. -/
def writes (replies : JobId → Reply) (s : Session) : List Event → List (JobId × Outcome)
  | [] => []
  | e :: rest => s.writesOf e ++ writes replies (perform replies s e) rest

/-- What the jobs report during a run, in order. -/
def reports (seen : List Notice) : List (JobId × Option JobError) :=
  seen.filterMap fun
    | .arrived job error => some (job, error)
    | _ => none

/-- The writes of two runs are those of each of them. -/
theorem writes_append (replies : JobId → Reply) (s : Session) (a b : List Event) :
    writes replies s (a ++ b) = writes replies s a ++ writes replies (play replies s a) b := by
  induction a generalizing s with
  | nil => rfl
  | cons e rest ih => rw [List.cons_append, writes, writes, ih, List.append_assoc, play_cons]

theorem reports_append (a b : List Notice) : reports (a ++ b) = reports a ++ reports b :=
  List.filterMap_append

/-- The reports are the arrivals that are seen. -/
theorem mem_reports_iff {seen : List Notice} {job : JobId} {error : Option JobError} :
    (job, error) ∈ reports seen ↔ .arrived job error ∈ seen := by
  rw [reports, List.mem_filterMap]
  constructor
  · rintro ⟨notice, hmem, heq⟩
    cases notice with
    | arrived j e =>
        cases heq
        exact hmem
    | _ => cases heq
  · intro hmem
    exact ⟨_, hmem, rfl⟩

variable {replies : JobId → Reply} {s s' : Session} {e : Event}

/-- A write is that of a job that stores its bitmap or has failed. -/
theorem mem_writesOf {job : JobId} {outcome : Outcome} (h : (job, outcome) ∈ s.writesOf e) :
    e = .step job ∧ ∃ task stage, s.jobs.get? job = some ⟨task, stage⟩ ∧
      ((∃ error, stage = .finished (.error error) ∧ outcome = .error error) ∨
        ∃ bitmap, stage = .storing bitmap ∧ outcome = .ok bitmap) := by
  cases e with
  | step id =>
      rw [writesOf, writesOfStep] at h
      cases hjob : s.jobs.get? id with
      | none =>
          rw [hjob] at h
          cases h
      | some running =>
          obtain ⟨task, stage⟩ := running
          rw [hjob] at h
          cases stage with
          | finished result =>
              cases result with
              | error err =>
                  cases List.mem_singleton.mp h
                  exact ⟨rfl, task, _, hjob, Or.inl ⟨err, rfl, rfl⟩⟩
              | ok bitmap => cases h
          | storing bitmap =>
              cases List.mem_singleton.mp h
              exact ⟨rfl, task, _, hjob, Or.inr ⟨bitmap, rfl, rfl⟩⟩
          | _ => cases h
  | _ => cases h

/-- A job that failed writes its error. -/
theorem writesOf_failed {id : JobId} {task : Task} {error : JobError}
    (hjob : s.jobs.get? id = some ⟨task, .finished (.error error)⟩) :
    s.writesOf (.step id) = [(id, .error error)] := by
  rw [writesOf, writesOfStep, hjob]

/-- A job that stores writes its bitmap. -/
theorem writesOf_storing {id : JobId} {task : Task} {bitmap : Bitmap}
    (hjob : s.jobs.get? id = some ⟨task, .storing bitmap⟩) :
    s.writesOf (.step id) = [(id, .ok bitmap)] := by
  rw [writesOf, writesOfStep, hjob]

/-- A job that has not failed and does not store its bitmap writes nothing. -/
theorem writesOf_of_stage {id : JobId} {running : RunningJob} (hjob : s.jobs.get? id = some running)
    (hfinished : ∀ error, running.stage ≠ .finished (.error error))
    (hstoring : ∀ bitmap, running.stage ≠ .storing bitmap) : s.writesOf (.step id) = [] := by
  refine List.eq_nil_iff_forall_not_mem.mpr ?_
  rintro ⟨job, outcome⟩ hmem
  obtain ⟨heq, task, stage, hjob', hstage⟩ := mem_writesOf hmem
  cases heq
  cases hjob.symm.trans hjob'
  rcases hstage with ⟨error, heq, -⟩ | ⟨bitmap, heq, -⟩
  · exact hfinished error heq
  · exact hstoring bitmap heq

/-- An event that changes nothing writes nothing. -/
theorem writesOf_of_unmoved (h : perform replies s e = s) : s.writesOf e = [] := by
  refine List.eq_nil_iff_forall_not_mem.mpr ?_
  rintro ⟨job, outcome⟩ hmem
  obtain ⟨rfl, task, stage, hjob, hstage⟩ := mem_writesOf hmem
  -- a job that writes goes on to its report
  have hmoved : ∃ error, (perform replies s (.step job)).jobs.get? job
      = some ⟨task, .reporting error⟩ := by
    show ∃ error, (s.advance job).jobs.get? job = _
    rw [advance, hjob]
    rcases hstage with ⟨error, rfl, -⟩ | ⟨bitmap, rfl, -⟩
    · exact ⟨_, Table.get?_set_self _ _ _⟩
    · exact ⟨_, Table.get?_set_self _ _ _⟩
  obtain ⟨error, hreporting⟩ := hmoved
  rw [h, hjob] at hreporting
  rcases hstage with ⟨error, rfl, -⟩ | ⟨bitmap, rfl, -⟩
  · cases hreporting
  · cases hreporting

/-- A report is that of a job whose batch is there. -/
theorem mem_reports_notices {job : JobId} {error : Option JobError}
    (h : (job, error) ∈ reports (s.notices e)) :
    e = .step job ∧ (∃ task, s.jobs.get? job = some ⟨task, .reporting error⟩) ∧
      ∃ batch, s.batches.get? job.batch = some batch := by
  have hsignal : ∀ {b summary}, Notice.arrived job error ∉ signal b summary := by
    intro b summary hmem
    cases summary with
    | none => cases hmem
    | some _ => cases List.mem_singleton.mp hmem
  rw [mem_reports_iff] at h
  cases e with
  | request id =>
      rw [notices] at h
      cases hrequest : s.request id with
      | none =>
          rw [hrequest] at h
          cases h
      | some result =>
          rw [hrequest] at h
          exact absurd h hsignal
  | step id =>
      rw [notices, noticesOfStep] at h
      cases hjob : s.jobs.get? id with
      | none =>
          rw [hjob] at h
          cases h
      | some running =>
          obtain ⟨task, stage⟩ := running
          rw [hjob] at h
          cases stage with
          | storing bitmap =>
              obtain ⟨key, -, heq⟩ := List.mem_map.mp h
              cases heq
          | reporting err =>
              cases hbatch : s.batches.get? id.batch with
              | none =>
                  rw [hbatch] at h
                  cases h
              | some batch =>
                  rw [hbatch] at h
                  rcases List.mem_cons.mp h with heq | hmem
                  · cases heq
                    exact ⟨rfl, ⟨task, hjob⟩, batch, hbatch⟩
                  · exact absurd hmem hsignal
          | _ => cases h
  | _ => cases h

/-- A job that reports is seen to arrive. -/
theorem reports_reporting {id : JobId} {task : Task} {error : Option JobError} {batch : Batch}
    (hjob : s.jobs.get? id = some ⟨task, .reporting error⟩)
    (hbatch : s.batches.get? id.batch = some batch) :
    reports (s.notices (.step id)) = [(id, error)] := by
  rw [notices, noticesOfStep, hjob]
  simp only [hbatch]
  show (id, error) :: reports (signal id.batch _) = _
  cases (batch.gate.arrive s.registry id.location error).summary with
  | none => rfl
  | some summary => rfl

/-! ## The last entry about a place -/

section

variable {α : Type} {key : RenderKey} {entries : List (JobId × α)} {entry : JobId × α}

/-- The last entry that is about a place. -/
def lastAt (key : RenderKey) (entries : List (JobId × α)) : Option (JobId × α) :=
  (entries.filter fun entry => entry.1.renderKey = key).getLast?

/-- The last write at a key is that of the later part, if there is one. -/
theorem lastAt_append (key : RenderKey) (a b : List (JobId × α)) :
    lastAt key (a ++ b) = (lastAt key b).or (lastAt key a) := by
  rw [lastAt, List.filter_append, List.getLast?_append]
  rfl

theorem lastAt_singleton (job : JobId) (a : α) :
    lastAt key [(job, a)] = if job.renderKey = key then some (job, a) else none := by
  by_cases hkey : job.renderKey = key
  · simp [lastAt, hkey]
  · simp [lastAt, hkey]

/-- The last write at a key is one of the writes, and at that key. -/
theorem mem_of_lastAt (h : lastAt key entries = some entry) :
    entry ∈ entries ∧ entry.1.renderKey = key := by
  have hmem := List.mem_filter.mp (List.mem_of_getLast? h)
  exact ⟨hmem.1, of_decide_eq_true hmem.2⟩

/-- There is no last write at a key if nothing was written there. -/
theorem lastAt_eq_none_iff :
    lastAt key entries = none ↔ ∀ entry ∈ entries, entry.1.renderKey ≠ key := by
  rw [lastAt, List.getLast?_eq_none_iff, List.filter_eq_nil_iff]
  simp

/-- If there is an entry about a place, there is a last one. -/
theorem exists_lastAt (hmem : entry ∈ entries) (hkey : entry.1.renderKey = key) :
    ∃ last, lastAt key entries = some last := by
  cases h : lastAt key entries with
  | some last => exact ⟨last, rfl⟩
  | none => exact absurd hkey (lastAt_eq_none_iff.mp h entry hmem)

/-- What is read off the last entry of a longer list. -/
theorem elim_lastAt_append {β : Type} (f : JobId × α → β) (before : β) (a b : List (JobId × α)) :
    (lastAt key (a ++ b)).elim before f
      = (lastAt key b).elim ((lastAt key a).elim before f) f := by
  rw [lastAt_append]
  cases lastAt key b with
  | none => rfl
  | some entry => rfl

end

/-! ## Bitmaps -/

/-- The bitmap of a place after a step is what the step wrote there, unless it is given up. -/
theorem bitmap_writes (hstep : Step replies s e s') {key : RenderKey}
    (hkept : key ∉ evictedKeys (s.notices e)) :
    s'.cache.bitmap? key
      = (lastAt key (s.writesOf e)).elim (s.cache.bitmap? key) fun w => w.2.toOption := by
  -- a step that writes nothing leaves all bitmaps alone
  have hsame : ∀ {id : JobId} {running : RunningJob}, s.jobs.get? id = some running →
      (∀ error, running.stage ≠ .finished (.error error)) →
      (∀ bitmap, running.stage ≠ .storing bitmap) →
      s.cache.bitmap? key
        = (lastAt key (s.writesOf (.step id))).elim (s.cache.bitmap? key) fun w => w.2.toOption := by
    intro id running hjob hfinished hstoring
    rw [writesOf_of_stage hjob hfinished hstoring]
    rfl
  cases hstep with
  | resolved hcache => exact hcache.bitmap? key
  | placed hcache => exact hcache.bitmap? key
  | started hjob hslot => exact hsame hjob (fun _ => Stage.noConfusion) fun _ => Stage.noConfusion
  | accepted hjob hregistered =>
      refine hsame hjob ?_ fun _ => Stage.noConfusion
      intro error heq
      cases heq
  | dropped hjob hunregistered =>
      refine hsame hjob ?_ fun _ => Stage.noConfusion
      intro error heq
      cases heq
  | @failed id task error hjob =>
      show (s.cache.remove id.renderKey).2.bitmap? key = _
      rw [RenderCache.bitmap?_remove, writesOf_failed hjob, lastAt_singleton]
      by_cases hkey : id.renderKey = key
      · rw [if_pos hkey.symm, if_pos hkey]
        rfl
      · rw [if_neg (Ne.symm hkey), if_neg hkey]
        rfl
  | @stored id task bitmap hjob =>
      rw [evictedKeys_stored hjob] at hkept
      show (s.cache.insert id.renderKey bitmap).2.bitmap? key = _
      rw [RenderCache.bitmap?_insert hkept, writesOf_storing hjob, lastAt_singleton]
      by_cases hkey : id.renderKey = key
      · rw [if_pos hkey.symm, if_pos hkey]
        rfl
      · rw [if_neg (Ne.symm hkey), if_neg hkey]
        rfl
  | reported hjob hbatch => exact hsame hjob (fun _ => Stage.noConfusion) fun _ => Stage.noConfusion
  | orphaned hjob hbatch => exact hsame hjob (fun _ => Stage.noConfusion) fun _ => Stage.noConfusion
  | left hjob => exact hsame hjob (fun _ => Stage.noConfusion) fun _ => Stage.noConfusion
  | _ => rfl

/-- The bitmap of a place after a run is what was written there last, unless it was given up. The
    induction is on the events still to come. -/
theorem bitmap_play (replies : JobId → Reply) {s : Session} {events : List Event} {key : RenderKey}
    (hkept : key ∉ evictedKeys (log replies s events)) :
    (play replies s events).cache.bitmap? key
      = (lastAt key (writes replies s events)).elim (s.cache.bitmap? key) fun w => w.2.toOption := by
  induction events generalizing s with
  | nil => rfl
  | cons e rest ih =>
      rw [log, evictedKeys_append, List.mem_append, not_or] at hkept
      rw [play_cons, writes, elim_lastAt_append, ih hkept.2]
      rcases perform_eq_or_step replies s e with ⟨heq, -⟩ | hstep
      · rw [writesOf_of_unmoved heq, heq]
        rfl
      · rw [bitmap_writes hstep hkept.1]

/-! ## Errors -/

/-- The error of a place of an open document after a step is what the step reported there, if gates have
    room for the jobs that report and the places of these jobs are in the index. -/
theorem error_reports (hvalid : s.Valid) (hfresh : s.Fresh e) (hstep : Step replies s e s')
    {id : DocumentId} {d : OpenDocument} (hopen : s.documents.get? id = some d)
    (hclose : e ≠ .close id) {range : SourceRange}
    (hroom : ∀ j task error batch, s.jobs.get? j = some ⟨task, .reporting error⟩ →
      s.batches.get? j.batch = some batch → ¬ batch.gate.arrived ≥ batch.gate.total)
    (hplaced : ∀ j task error, s.jobs.get? j = some ⟨task, .reporting error⟩ →
      j.renderKey = ⟨id, range.key⟩ →
      d.loaded.extraction.index.lookup range.key = some range) :
    s'.registry.error id range
      = (lastAt ⟨id, range.key⟩ (reports (s.notices e))).elim (s.registry.error id range)
          Prod.snd := by
  by_cases hforeign : ReportsElsewhere s e ⟨id, range.key⟩
  · -- what is reported is about other places
    have hnone : lastAt ⟨id, range.key⟩ (reports (s.notices e)) = none := by
      rw [lastAt_eq_none_iff]
      rintro ⟨job, error⟩ hmem
      obtain ⟨rfl, ⟨task, hjob⟩, -⟩ := mem_reports_notices hmem
      exact hforeign job task error rfl hjob
    rw [hnone]
    exact error_step hvalid hfresh hstep hopen hclose hforeign
  · have hreport : ∃ j task error, e.job? = some j ∧
        s.jobs.get? j = some ⟨task, .reporting error⟩ ∧ j.renderKey = ⟨id, range.key⟩ := by
      simpa [ReportsElsewhere] using hforeign
    obtain ⟨j, task, error, hjob?, hjob, hkey⟩ := hreport
    obtain ⟨batch, hbatch⟩ := hvalid.owned _ _ hjob
    obtain ⟨b, location⟩ := j
    obtain ⟨rfl, rfl⟩ := RenderKey.mk.inj hkey
    cases hstep with
    | @reported j' task' error' batch' hjob' hbatch' =>
        cases hjob?
        rw [hjob] at hjob'
        cases hjob'
        rw [hbatch] at hbatch'
        cases hbatch'
        obtain ⟨slot, hslot, hindex⟩ := hvalid.slot hopen
        rw [reports_reporting hjob hbatch, lastAt_singleton, if_pos hkey]
        show (batch.gate.arrive s.registry range.key error).registry.error b.document range = error
        rw [CompletionGate.registry_arrive, if_neg (hroom _ _ _ _ hjob hbatch),
          hvalid.gate _ _ hbatch]
        exact Registry.error_record hslot (by rw [hindex]; exact hplaced _ _ _ hjob rfl)
    | orphaned hjob' hbatch' =>
        cases hjob?
        cases hbatch.symm.trans hbatch'
    | answered hjob' => cases hjob?; cases hjob.symm.trans hjob'
    | started hjob' hslot => cases hjob?; cases hjob.symm.trans hjob'
    | accepted hjob' hregistered => cases hjob?; cases hjob.symm.trans hjob'
    | dropped hjob' hunregistered => cases hjob?; cases hjob.symm.trans hjob'
    | failed hjob' => cases hjob?; cases hjob.symm.trans hjob'
    | stored hjob' => cases hjob?; cases hjob.symm.trans hjob'
    | left hjob' => cases hjob?; cases hjob.symm.trans hjob'
    | _ => cases hjob?

end Session
end Formulary
