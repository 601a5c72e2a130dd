import Formulary.Proofs.Session.Capacity

/-!
# Agreement — all that events of a document read of a session

An event is about one document. It changes nothing that is about another one, and all that it reads is about
its own: the document, its slot of the registry, its batches and its jobs. Two things are read that documents
share: the free slots, which decide when a job starts, and the cache, which no step of a job looks into. So
two sessions that agree on a document, and in which jobs can start alike, still do after an event of it.

* `Event.document` — the document that an event is about.
* `Agree` — two sessions hold the same of a document.
* `agree_foreign`, `agree_perform_foreign` — events of other documents.
* `waits` — a job is tried while there is no slot for it.
* `Agree.step_own`, `Agree.perform_own` — events of the document.
-/

namespace Formulary

open Render

/-- The document that an event is about. -/
def Event.document : Event → DocumentId
  | .load id .. => id
  | .close id => id
  | .setFontSize id _ => id
  | .setColor id _ => id
  | .request id => id
  | .resolve id _ => id
  | .placements id => id
  | .answer job => job.batch.document
  | .step job => job.batch.document

namespace Session

/-! ## Sessions that agree -/

/-- Two sessions hold the same of a document: the document, its slot, its batches and its jobs. They draw
    alike, and their caches have one bound. -/
structure Agree (id : DocumentId) (s t : Session) : Prop where
  document : t.documents.get? id = s.documents.get? id
  slot : t.registry.slot? id = s.registry.slot? id
  batches : ∀ b, b.document = id → t.batches.get? b = s.batches.get? b
  jobs : ∀ j, j.batch.document = id → t.jobs.get? j = s.jobs.get? j
  fontSize : t.fontSize = s.fontSize
  color : t.color = s.color
  maxBytes : t.cache.maxBytes = s.cache.maxBytes

variable {replies : JobId → Reply} {s s' t t' u : Session} {e : Event} {id : DocumentId}

theorem Agree.refl (id : DocumentId) (s : Session) : Agree id s s :=
  ⟨rfl, rfl, fun _ _ => rfl, fun _ _ => rfl, rfl, rfl, rfl⟩

theorem Agree.symm (h : Agree id s t) : Agree id t s where
  document := h.document.symm
  slot := h.slot.symm
  batches b hb := (h.batches b hb).symm
  jobs j hj := (h.jobs j hj).symm
  fontSize := h.fontSize.symm
  color := h.color.symm
  maxBytes := h.maxBytes.symm

theorem Agree.trans (h : Agree id s t) (k : Agree id t u) : Agree id s u where
  document := k.document.trans h.document
  slot := k.slot.trans h.slot
  batches b hb := (k.batches b hb).trans (h.batches b hb)
  jobs j hj := (k.jobs j hj).trans (h.jobs j hj)
  fontSize := k.fontSize.trans h.fontSize
  color := k.color.trans h.color
  maxBytes := k.maxBytes.trans h.maxBytes

/-- Bitmaps and free slots have no part in it. -/
theorem Agree.of_jobs {cache : RenderCache} (hcache : cache.maxBytes = s.cache.maxBytes)
    (slots : Slots) {jobs : Table JobId RunningJob}
    (hjobs : ∀ j, j.batch.document = id → jobs.get? j = s.jobs.get? j) :
    Agree id s { s with cache, slots, jobs } :=
  ⟨rfl, rfl, fun _ _ => rfl, hjobs, rfl, rfl, hcache⟩

/-! ## Events of other documents -/

/-- Writing a job of another document leaves the jobs of this one alone. -/
theorem get?_set_foreign {jobs : Table JobId RunningJob} {j other : JobId} {running : RunningJob}
    (hj : j.batch.document = id) (hother : other.batch.document ≠ id) :
    (jobs.set other running).get? j = jobs.get? j := by
  rw [Table.get?_set, if_neg]
  rintro rfl
  exact hother hj

/-- A batch of another document does not complete this one. -/
theorem get?_completed_foreign {b : BatchId} (hb : b.document ≠ id) (flag : Bool)
    (t : Table DocumentId OpenDocument) :
    (if flag = true then completed t b else t).get? id = t.get? id := by
  have hne : ∀ d : OpenDocument, ¬ (flag = true ∧ b = ⟨id, d.generation⟩) := by
    rintro d ⟨-, rfl⟩
    exact hb rfl
  rw [get?_completed_if]
  cases t.get? id with
  | none => rfl
  | some d => exact congrArg some (if_neg (hne d))

/-- An event of another document changes nothing that is about this one. -/
theorem agree_foreign (hvalid : s.Valid) (hforeign : e.document ≠ id) (hstep : Step replies s e s') :
    Agree id s s' := by
  have hmaxBytes := maxBytes_step hstep
  cases hstep with
  | @opened other ids reader text d hload =>
      refine { Agree.refl id s with document := ?_, slot := ?_ }
      · exact (Table.get?_set _ _ _ _).trans (if_neg (Ne.symm hforeign))
      · exact (Registry.slot?_register _ _ _ _).trans (if_neg (Ne.symm hforeign))
  | @closed other d hopen =>
      refine { Agree.refl id s with document := ?_, slot := ?_ }
      · exact (Table.get?_erase _ _ _).trans (if_neg (Ne.symm hforeign))
      · refine (Registry.slot?_release _ _ _).trans (if_neg ?_)
        rw [hvalid.registration other d hopen]
        exact Ne.symm hforeign
  | sized =>
      exact { Agree.refl id s with
        document := (Table.get?_modify _ _ _ _).trans (if_neg (Ne.symm hforeign)) }
  | coloured =>
      exact { Agree.refl id s with
        document := (Table.get?_modify _ _ _ _).trans (if_neg (Ne.symm hforeign)) }
  | @requested other d hopen =>
      have hbatch : ∀ b : BatchId, b.document = id → b ≠ nextBatch other d := by
        rintro b hb rfl
        exact hforeign hb
      refine { Agree.refl id s with document := ?_, batches := ?_, jobs := ?_ }
      · refine (get?_completed_foreign hforeign _ _).trans ?_
        exact (Table.get?_set _ _ _ _).trans (if_neg (Ne.symm hforeign))
      · intro b hb
        exact (Table.get?_set _ _ _ _).trans (if_neg (hbatch b hb))
      · intro j hj
        rw [hvalid.jobs_requested]
        exact get?_enqueue_ne (hbatch j.batch hj) _
  | resolved hcache => exact .of_jobs hmaxBytes _ fun _ _ => rfl
  | placed hcache => exact .of_jobs hmaxBytes _ fun _ _ => rfl
  | answered hjob => exact .of_jobs rfl _ fun j hj => get?_set_foreign hj hforeign
  | started hjob hslot => exact .of_jobs rfl _ fun j hj => get?_set_foreign hj hforeign
  | accepted hjob hregistered => exact .of_jobs rfl _ fun j hj => get?_set_foreign hj hforeign
  | dropped hjob hunregistered => exact .of_jobs rfl _ fun j hj => get?_set_foreign hj hforeign
  | failed hjob => exact .of_jobs hmaxBytes _ fun j hj => get?_set_foreign hj hforeign
  | stored hjob => exact .of_jobs hmaxBytes _ fun j hj => get?_set_foreign hj hforeign
  | @reported other task error batch hjob hbatch =>
      refine { Agree.refl id s with document := ?_, slot := ?_, batches := ?_, jobs := ?_ }
      · exact get?_completed_foreign hforeign _ _
      · show (batch.gate.arrive s.registry other.location error).registry.slot? id = _
        rw [CompletionGate.registry_arrive]
        by_cases hfull : batch.gate.arrived ≥ batch.gate.total
        · rw [if_pos hfull]
        · rw [if_neg hfull, hvalid.gate _ _ hbatch]
          exact Registry.slot?_record_ne (Ne.symm hforeign)
      · intro b hb
        refine (Table.get?_set _ _ _ _).trans (if_neg ?_)
        rintro rfl
        exact hforeign hb
      · exact fun j hj => get?_set_foreign hj hforeign
  | orphaned hjob hbatch => exact .of_jobs rfl _ fun j hj => get?_set_foreign hj hforeign
  | @left other task hjob =>
      refine .of_jobs rfl _ fun j hj => (Table.get?_erase _ _ _).trans (if_neg ?_)
      rintro rfl
      exact hforeign hj

/-- An event of another document changes nothing that this one sees. -/
theorem agree_perform_foreign (replies : JobId → Reply) (hvalid : s.Valid)
    (hforeign : e.document ≠ id) : Agree id s (perform replies s e) := by
  rcases perform_eq_or_step replies s e with ⟨heq, -⟩ | hstep
  · rw [heq]
    exact .refl id s
  · exact agree_foreign hvalid hforeign hstep

/-! ## Events of the document -/

/-- A job is tried while there is no slot for it. -/
def waits (s : Session) : Event → Bool
  | .step j =>
    match s.jobs.get? j with
    | some ⟨task, .queued⟩ => (s.slots.acquire? task).isNone
    | _ => false
  | _ => false

/-- An event waits if it is the first step of a job for which no slot is free. -/
theorem waits_iff : s.waits e = true ↔
    ∃ j task, e = .step j ∧ s.jobs.get? j = some ⟨task, .queued⟩ ∧ s.slots.acquire? task = none := by
  constructor
  · intro h
    cases e with
    | step j =>
        rw [waits] at h
        cases hjob : s.jobs.get? j with
        | none =>
            rw [hjob] at h
            cases h
        | some running =>
            obtain ⟨task, stage⟩ := running
            rw [hjob] at h
            cases stage with
            | queued => exact ⟨j, task, rfl, hjob, Option.isNone_iff_eq_none.mp h⟩
            | _ => cases h
    | _ => cases h
  · rintro ⟨j, task, rfl, hjob, hslot⟩
    rw [waits, hjob]
    exact Option.isNone_iff_eq_none.mpr hslot

/-- Nothing happens while a job waits for its slot. -/
theorem perform_of_waits (h : s.waits e = true) : perform replies s e = s := by
  obtain ⟨j, task, rfl, hjob, hslot⟩ := waits_iff.mp h
  rw [perform, advance, hjob]
  simp only [start, hslot]

/-- What is enqueued at a job depends only on the job that was there. -/
theorem get?_enqueue_congr {jobs jobs' : Table JobId RunningJob} {j : JobId}
    (h : jobs'.get? j = jobs.get? j) (b : BatchId) (plan : List Job) :
    (enqueue b jobs' plan).get? j = (enqueue b jobs plan).get? j := by
  induction plan generalizing jobs jobs' with
  | nil => exact h
  | cons job rest ih => exact ih (Table.get?_set_congr h _ _)

/-- What a completed batch does to a document depends only on that document. -/
theorem get?_completed_congr {documents documents' : Table DocumentId OpenDocument}
    (h : documents'.get? id = documents.get? id) (flag : Bool) (b : BatchId) :
    (if flag = true then completed documents' b else documents').get? id
      = (if flag = true then completed documents b else documents).get? id := by
  rw [get?_completed_if, get?_completed_if, h]

/-- Sessions that agree still do when their jobs change alike. -/
theorem Agree.with_jobs (h : Agree id s t) {cache cache' : RenderCache}
    (hcache : cache'.maxBytes = cache.maxBytes) (slots slots' : Slots)
    {jobs jobs' : Table JobId RunningJob}
    (hjobs : ∀ j, j.batch.document = id → jobs'.get? j = jobs.get? j) :
    Agree id { s with cache, slots, jobs } { t with cache := cache', slots := slots', jobs := jobs' } :=
  ⟨h.document, h.slot, h.batches, hjobs, h.fontSize, h.color, hcache⟩

theorem Agree.isRegistered (h : Agree id s t) :
    t.registry.isRegistered id = s.registry.isRegistered id := congrArg Option.isSome h.slot

/-- Sessions that agree do so after the same job is written in both. -/
theorem Agree.set_job (h : Agree id s t) (other : JobId) (running : RunningJob) (j : JobId)
    (hj : j.batch.document = id) :
    (t.jobs.set other running).get? j = (s.jobs.set other running).get? j :=
  Table.get?_set_congr (h.jobs j hj) _ _

/-- When one of two sessions that agree on a document takes a step for an event of this document, so does the
    other one, unless a job has no slot there, and they still agree. -/
theorem Agree.step_own (h : Agree id s t) (hs : s.Valid) (ht : t.Valid) (hown : e.document = id)
    (hwaits : t.waits e = false) (hstep : Step replies s e s') :
    ∃ t', Step replies t e t' ∧ Agree id s' t' := by
  have hbound : ∀ {t'}, Step replies t e t' → t'.cache.maxBytes = s'.cache.maxBytes :=
    fun hstep' => (maxBytes_step hstep').trans (h.maxBytes.trans (maxBytes_step hstep).symm)
  cases hstep with
  | @opened other ids reader text d hload =>
      cases hown
      refine ⟨_, .opened hload, { h with document := ?_, slot := ?_ }⟩
      · refine (Table.get?_set_self _ _ _).trans ((Table.get?_set_self _ _ _).trans ?_).symm
        rw [h.fontSize, h.color]
        rfl
      · exact (Table.get?_set_self _ _ _).trans (Table.get?_set_self _ _ _).symm
  | @closed other d hopen =>
      cases hown
      refine ⟨_, .closed (h.document.trans hopen), { h with document := ?_, slot := ?_ }⟩
      · exact Table.get?_erase_congr h.document _
      · exact Table.get?_erase_congr h.slot _
  | sized => exact ⟨_, .sized, { h with document := Table.get?_modify_congr h.document _ _ }⟩
  | coloured => exact ⟨_, .coloured, { h with document := Table.get?_modify_congr h.document _ _ }⟩
  | @requested other d hopen =>
      cases hown
      refine ⟨_, .requested (h.document.trans hopen),
        { h with document := ?_, batches := ?_, jobs := ?_ }⟩
      · exact get?_completed_congr (Table.get?_set_congr h.document _ _) _ _
      · exact fun b hb => Table.get?_set_congr (h.batches b hb) _ _
      · intro j hj
        rw [ht.jobs_requested, hs.jobs_requested]
        exact get?_enqueue_congr (h.jobs j hj) _ _
  | @resolved other range cache hcache =>
      have hstep' : Step replies t (.resolve other range) _ := .resolved (.refl _)
      exact ⟨_, hstep', h.with_jobs (hbound hstep') _ _ h.jobs⟩
  | @placed other cache hcache =>
      have hstep' : Step replies t (.placements other) _ := .placed (.refl _)
      exact ⟨_, hstep', h.with_jobs (hbound hstep') _ _ h.jobs⟩
  | @answered j task hjob =>
      cases hown
      refine ⟨_, .answered ((h.jobs j rfl).trans hjob), h.with_jobs h.maxBytes _ _ ?_⟩
      rw [outcomeOf, outcomeOf, h.maxBytes]
      exact h.set_job _ _
  | @started j task slots hjob hslot =>
      cases hown
      have hqueued := (h.jobs j rfl).trans hjob
      obtain ⟨slots', hslot'⟩ : ∃ slots', t.slots.acquire? task = some slots' := by
        rw [← Option.ne_none_iff_exists']
        intro hnone
        rw [waits_iff.mpr ⟨j, task, rfl, hqueued, hnone⟩] at hwaits
        cases hwaits
      exact ⟨_, .started hqueued hslot', h.with_jobs h.maxBytes _ _ (h.set_job _ _)⟩
  | @accepted j task bitmap hjob hregistered =>
      cases hown
      exact ⟨_, .accepted ((h.jobs j rfl).trans hjob) (h.isRegistered.trans hregistered),
        h.with_jobs h.maxBytes _ _ (h.set_job _ _)⟩
  | @dropped j task bitmap hjob hunregistered =>
      cases hown
      exact ⟨_, .dropped ((h.jobs j rfl).trans hjob) (h.isRegistered.trans hunregistered),
        h.with_jobs h.maxBytes _ _ (h.set_job _ _)⟩
  | @failed j task error hjob =>
      cases hown
      have hstep' : Step replies t (.step j) _ := .failed ((h.jobs j rfl).trans hjob)
      exact ⟨_, hstep', h.with_jobs (hbound hstep') _ _ (h.set_job _ _)⟩
  | @stored j task bitmap hjob =>
      cases hown
      have hstep' : Step replies t (.step j) _ := .stored ((h.jobs j rfl).trans hjob)
      exact ⟨_, hstep', h.with_jobs (hbound hstep') _ _ (h.set_job _ _)⟩
  | @reported j task error batch hjob hbatch =>
      cases hown
      obtain ⟨hgate, hsummary⟩ :=
        CompletionGate.arrive_congr batch.gate s.registry t.registry j.location error
      refine ⟨_, .reported ((h.jobs j rfl).trans hjob) ((h.batches _ rfl).trans hbatch),
        { h with document := ?_, slot := ?_, batches := ?_, jobs := h.set_job _ _ }⟩
      · show (if (batch.gate.arrive t.registry j.location error).summary.isSome = true then _ else _
          : Table DocumentId OpenDocument).get? _ = _
        rw [hsummary]
        exact get?_completed_congr h.document _ _
      · show (batch.gate.arrive t.registry j.location error).registry.slot? _
          = (batch.gate.arrive s.registry j.location error).registry.slot? _
        rw [CompletionGate.registry_arrive, CompletionGate.registry_arrive]
        by_cases hfull : batch.gate.arrived ≥ batch.gate.total
        · rw [if_pos hfull, if_pos hfull]
          exact h.slot
        · rw [if_neg hfull, if_neg hfull, hs.gate _ _ hbatch]
          exact Registry.slot?_record_congr h.slot _ _
      · intro b hb
        show (t.batches.set j.batch { gate := (batch.gate.arrive t.registry j.location error).gate
                                      summary := _ }).get? b = _
        rw [hgate, hsummary]
        exact Table.get?_set_congr (h.batches b hb) _ _
  | @orphaned j task error hjob hbatch =>
      cases hown
      exact ⟨_, .orphaned ((h.jobs j rfl).trans hjob) ((h.batches _ rfl).trans hbatch),
        h.with_jobs h.maxBytes _ _ (h.set_job _ _)⟩
  | @left j task hjob =>
      cases hown
      exact ⟨_, .left ((h.jobs j rfl).trans hjob),
        h.with_jobs h.maxBytes _ _ fun j' hj' => Table.get?_erase_congr (h.jobs j' hj') _⟩

/-- An event of the document leaves sessions in agreement that agree on it, if no job waits. -/
theorem Agree.perform_own (h : Agree id s t) (hs : s.Valid) (ht : t.Valid) (hown : e.document = id)
    (hwaits : s.waits e = false) (hwaits' : t.waits e = false) :
    Agree id (perform replies s e) (perform replies t e) := by
  have hfollow : ∀ {a b : Session}, Agree id a b → a.Valid → b.Valid → b.waits e = false →
      Step replies a e (perform replies a e) →
      Agree id (perform replies a e) (perform replies b e) := by
    intro a b hagree ha hb hfree hstep
    obtain ⟨b', hstep', hagree'⟩ := hagree.step_own ha hb hown hfree hstep
    obtain ⟨cache, hcache, heq⟩ := perform_of_step hstep'
    rw [heq]
    exact hagree'.trans (.of_jobs hcache.maxBytes _ fun _ _ => rfl)
  rcases perform_eq_or_step replies s e with ⟨heq, -⟩ | hstep
  · rcases perform_eq_or_step replies t e with ⟨heq', -⟩ | hstep'
    · rw [heq, heq']
      exact h
    · exact (hfollow h.symm ht hs hwaits hstep').symm
  · exact hfollow h hs ht hwaits' hstep

end Session
end Formulary
