import Formulary.Proofs.Session.Agreement
import Formulary.Proofs.Session.Closing
import Formulary.Proofs.Session.Overlap

/-!
# Isolation — documents do not disturb each other

Documents share the cache, the registry and the slots, and many of them have the same places. A run over
several documents is compared with the run of the events of one of them alone. Events of other documents
change nothing that is about this one, so its own events do the same in both runs. Only the slots differ: no
other document holds any in the second run, so a job that is tried in vain in the first one could start
there. A job does nothing while it waits, and such attempts are left out with the events of the others.

* `ownEvents` — the events of one document in a run over several.
* `Isolates` — a session over several documents, and one over a single one of them.
* `Mirrors` — the same is seen of the document, and the same is written for it.
* `isolates_perform`, `isolates_play` — one event, and any run.
* `stored_play`, `Produced` — which job a bitmap is from.
* `isolation_spec` — any document in any run.
-/

namespace Formulary

open Render Markup

namespace Session

variable {replies : JobId → Reply} {s t : Session} {e : Event} {id : DocumentId}
  {fetchBound drawBound : Nat}

/-! ## The events of a document -/

/-- An event of a document, unless it is one of a job that waits. -/
def ownOf (id : DocumentId) (s : Session) (e : Event) : List Event :=
  if e.document = id ∧ s.waits e = false then [e] else []

/-- The events of a document in a run: those of other documents are left out, and so are those in which a job
    waits. -/
def ownEvents (replies : JobId → Reply) (id : DocumentId) (s : Session) : List Event → List Event
  | [] => []
  | e :: rest => s.ownOf id e ++ ownEvents replies id (perform replies s e) rest

theorem ownEvents_append (s : Session) (a b : List Event) :
    ownEvents replies id s (a ++ b)
      = ownEvents replies id s a ++ ownEvents replies id (play replies s a) b := by
  induction a generalizing s with
  | nil => rfl
  | cons e rest ih => rw [List.cons_append, ownEvents, ownEvents, ih, List.append_assoc, play_cons]

/-- As long as no job of a document is tried in vain, nothing is left out but the events of others. -/
theorem ownEvents_eq_filter {events : List Event}
    (h : ∀ first e rest, events = first ++ e :: rest → e.document = id →
      (play replies s first).waits e = false) :
    ownEvents replies id s events = events.filter fun e => e.document = id := by
  induction events generalizing s with
  | nil => rfl
  | cons e rest ih =>
      have hrest : ownEvents replies id (perform replies s e) rest
          = rest.filter fun e => e.document = id :=
        ih fun first e' rest' heq hdocument => h (e :: first) e' rest' (by rw [heq]; rfl) hdocument
      rw [ownEvents, ownOf, hrest]
      by_cases hdocument : e.document = id
      · rw [if_pos ⟨hdocument, h [] e rest rfl hdocument⟩]
        exact (List.filter_cons_of_pos (by simpa using hdocument)).symm
      · rw [if_neg fun hboth => hdocument hboth.1]
        exact (List.filter_cons_of_neg (by simpa using hdocument)).symm

/-- All of them are events of the document, and they come in the order of the run. -/
theorem ownEvents_sublist (s : Session) (events : List Event) :
    (ownEvents replies id s events).Sublist (events.filter fun e => e.document = id) := by
  induction events generalizing s with
  | nil => exact .refl _
  | cons e rest ih =>
      rw [ownEvents, ownOf]
      by_cases hdocument : e.document = id
      · rw [List.filter_cons_of_pos (by simpa using hdocument)]
        by_cases hwaits : s.waits e = false
        · rw [if_pos ⟨hdocument, hwaits⟩]
          exact (ih _).cons_cons e
        · rw [if_neg fun hboth => hwaits hboth.2]
          exact (ih _).cons e
      · rw [if_neg fun hboth => hdocument hboth.1, List.filter_cons_of_neg (by simpa using hdocument)]
        exact ih _

/-! ## Slots -/

/-- When a session has at least the jobs of another one, all slots are held in it if they are in the other. -/
theorem Conserves.full_of_le (h : Conserves fetchBound drawBound s)
    (hle : ∀ kind, t.holders kind ≤ s.holders kind) {task : Task}
    (hfull : Full fetchBound drawBound t task) : Full fetchBound drawBound s task := by
  cases task with
  | fetch url =>
      have hsum : s.slots.fetch + s.holders isFetch = max 1 fetchBound := h.fetch
      have hheld : t.holders isFetch = max 1 fetchBound := hfull
      have hmore := hle isFetch
      show s.holders isFetch = max 1 fetchBound
      omega
  | draw request =>
      obtain ⟨hbound, hheld⟩ := hfull
      obtain ⟨free, -, hsum⟩ := h.draw hbound
      have hsum' : free + s.holders isDraw = drawBound := hsum
      have hmore := hle isDraw
      exact ⟨hbound, by omega⟩
  | load name => exact hfull

/-! ## Two runs -/

/-- A session over several documents, and one over a single one of them: they agree on this document, and no
    other has a job in the second one. -/
structure Isolates (fetchBound drawBound : Nat) (id : DocumentId) (s t : Session) : Prop where
  valid : s.Valid
  validOwn : t.Valid
  conserves : Conserves fetchBound drawBound s
  conservesOwn : Conserves fetchBound drawBound t
  agree : Agree id s t
  alone : ∀ j, j.batch.document ≠ id → t.jobs.get? j = none

theorem isolates_new (options : SessionOptions) (id : DocumentId) :
    Isolates options.fetchBound options.drawBound id (new options) (new options) where
  valid := valid_new options
  validOwn := valid_new options
  conserves := conserves_new options
  conservesOwn := conserves_new options
  agree := .refl id _
  alone _ _ := rfl

/-- A job of the document that finds a slot finds one when it is alone. -/
theorem Isolates.waits (h : Isolates fetchBound drawBound id s t) (hown : e.document = id)
    (hwaits : s.waits e = false) : t.waits e = false := by
  rw [← Bool.not_eq_true]
  intro hwaits'
  obtain ⟨j, task, rfl, hjob, hslot⟩ := waits_iff.mp hwaits'
  have hle : ∀ kind, t.holders kind ≤ s.holders kind := by
    intro kind
    refine Table.weigh_le ?_
    intro other running hother
    by_cases hdocument : other.batch.document = id
    · exact (h.agree.jobs other hdocument).symm.trans hother
    · cases (h.alone other hdocument).symm.trans hother
  have hfull : Full fetchBound drawBound t task := by
    by_contra hroom
    have hsome := (h.conservesOwn.acquire?_isSome_iff task).mpr hroom
    rw [hslot] at hsome
    cases hsome
  have hnone : s.slots.acquire? task = none := by
    rw [← Option.not_isSome_iff_eq_none, h.conserves.acquire?_isSome_iff, not_not]
    exact h.conserves.full_of_le hle hfull
  have hqueued := (h.agree.jobs j hown).symm.trans hjob
  rw [waits_iff.mpr ⟨j, task, rfl, hqueued, hnone⟩] at hwaits
  cases hwaits

/-- A document is loaded under a number that is not in use in either session. -/
theorem Agree.fresh (h : Agree id s t) (hown : e.document = id) (hfresh : s.Fresh e) : t.Fresh e := by
  cases e with
  | load other ids reader text =>
      cases hown
      exact ⟨h.document.trans hfresh.1, fun generation => (h.batches _ rfl).trans (hfresh.2 generation)⟩
  | _ => trivial

/-! ## What is seen -/

/-- Nothing is seen of a batch in an event of another document. -/
theorem noticesOf_of_document {b : BatchId} (h : e.document ≠ b.document) :
    noticesOf b (s.notices e) = [] := by
  cases e with
  | request other =>
      rw [notices]
      cases hopen : s.documents.get? other with
      | none =>
          rw [request_eq_none hopen]
          rfl
      | some d =>
          rw [request_eq hopen]
          refine noticesOf_signal_ne ?_ _
          rintro rfl
          exact h rfl
  | step j =>
      refine noticesOf_step_foreign ?_
      rintro rfl
      exact h rfl
  | _ => rfl

/-- In an event of another document nothing is written at a place of this one. -/
theorem lastAt_of_document {key : RenderKey} (h : e.document ≠ key.document) :
    lastAt key (s.writesOf e) = none := by
  rw [lastAt_eq_none_iff]
  rintro ⟨job, outcome⟩ hmem hkey
  obtain ⟨rfl, -⟩ := mem_writesOf hmem
  exact h (congrArg RenderKey.document hkey)

/-- An event of the document shows the same of its batches in sessions that agree on it. -/
theorem Agree.noticesOf_own (h : Agree id s t) (hown : e.document = id) {b : BatchId}
    (hb : b.document = id) : noticesOf b (t.notices e) = noticesOf b (s.notices e) := by
  cases e with
  | request other =>
      cases hown
      have hdocument : t.documents.get? other = s.documents.get? other := h.document
      rw [notices, notices]
      cases hopen : s.documents.get? other with
      | none =>
          rw [request_eq_none hopen, request_eq_none (hdocument.trans hopen)]
      | some d =>
          rw [request_eq hopen, request_eq (hdocument.trans hopen)]
          show noticesOf b (signal _ (((t.batches.set _ _).get? _).bind _))
            = noticesOf b (signal _ (((s.batches.set _ _).get? _).bind _))
          rw [Table.get?_set_self, Table.get?_set_self]
  | step j =>
      have hjobs := h.jobs j hown
      have hbatches := h.batches j.batch hown
      rw [notices, notices, noticesOfStep, noticesOfStep, hjobs]
      cases hjob : s.jobs.get? j with
      | none => rfl
      | some running =>
          obtain ⟨task, stage⟩ := running
          cases stage with
          | storing bitmap => exact (noticesOf_evicted b _).trans (noticesOf_evicted b _).symm
          | reporting error =>
              simp only [hbatches]
              cases hbatch : s.batches.get? j.batch with
              | none => rfl
              | some batch =>
                  obtain ⟨-, hsummary⟩ :=
                    CompletionGate.arrive_congr batch.gate s.registry t.registry j.location error
                  simp only [hsummary]
          | _ => rfl
  | _ => rfl

theorem Agree.writesOf_own (h : Agree id s t) (hown : e.document = id) :
    t.writesOf e = s.writesOf e := by
  cases e with
  | step j => rw [writesOf, writesOf, writesOfStep, writesOfStep, h.jobs j hown]
  | _ => rfl

/-- While a job waits nothing is seen and nothing is written. -/
theorem quiet_of_waits (h : s.waits e = true) : s.notices e = [] ∧ s.writesOf e = [] := by
  obtain ⟨j, task, rfl, hjob, -⟩ := waits_iff.mp h
  constructor
  · rw [notices, noticesOfStep, hjob]
  · rw [writesOf, writesOfStep, hjob]

/-- A run of the events of a document shows what another run shows of it: the same of each batch, and at each
    place the same was written last. -/
structure Mirrors (replies : JobId → Reply) (id : DocumentId) (s t : Session)
    (events own : List Event) : Prop where
  admissible : Admissible replies t own
  notices : ∀ b, b.document = id →
    noticesOf b (log replies t own) = noticesOf b (log replies s events)
  writes : ∀ key, key.document = id →
    lastAt key (writes replies t own) = lastAt key (writes replies s events)

theorem Mirrors.append {first first' later later' : List Event}
    (h : Mirrors replies id s t first first')
    (k : Mirrors replies id (play replies s first) (play replies t first') later later') :
    Mirrors replies id s t (first ++ later) (first' ++ later') where
  admissible := (admissible_append replies).mpr ⟨h.admissible, k.admissible⟩
  notices b hb := by
    rw [log_append, log_append, noticesOf_append, noticesOf_append, h.notices b hb, k.notices b hb]
  writes key hkey := by
    rw [writes_append, writes_append, lastAt_append, lastAt_append, h.writes key hkey,
      k.writes key hkey]

theorem log_singleton (replies : JobId → Reply) (s : Session) (e : Event) :
    log replies s [e] = s.notices e := List.append_nil _

theorem writes_singleton (replies : JobId → Reply) (s : Session) (e : Event) :
    writes replies s [e] = s.writesOf e := List.append_nil _

/-! ## One event, and any run -/

/-- An event of the document in which no job waits happens in both sessions. -/
theorem isolates_own (h : Isolates fetchBound drawBound id s t) (hfresh : s.Fresh e)
    (hown : e.document = id) (hwaits : s.waits e = false) :
    Isolates fetchBound drawBound id (perform replies s e) (perform replies t e) ∧
      Mirrors replies id s t [e] [e] := by
  have hfresh' := h.agree.fresh hown hfresh
  have hrun : Admissible replies s [e] := ⟨hfresh, trivial⟩
  have hrun' : Admissible replies t [e] := ⟨hfresh', trivial⟩
  constructor
  · refine ⟨valid_play h.valid hrun, valid_play h.validOwn hrun', conserves_play h.valid h.conserves hrun,
      conserves_play h.validOwn h.conservesOwn hrun',
      h.agree.perform_own h.valid h.validOwn hown hwaits (h.waits hown hwaits), ?_⟩
    -- other documents have no jobs, and this event gives them none
    intro j hj
    have hother : e.document ≠ j.batch.document := by
      rw [hown]
      exact Ne.symm hj
    exact ((agree_perform_foreign replies h.validOwn hother).jobs j rfl).trans (h.alone j hj)
  · refine ⟨hrun', ?_, ?_⟩
    · intro b hb
      rw [log_singleton, log_singleton, h.agree.noticesOf_own hown hb]
    · intro key _
      rw [writes_singleton, writes_singleton, h.agree.writesOf_own hown]

/-- A job of the document that waits is left out. -/
theorem isolates_waiting (h : Isolates fetchBound drawBound id s t) (hwaits : s.waits e = true) :
    Isolates fetchBound drawBound id (perform replies s e) t ∧ Mirrors replies id s t [e] [] := by
  obtain ⟨hnotices, hwrites⟩ := quiet_of_waits hwaits
  constructor
  · rw [perform_of_waits hwaits]
    exact h
  · refine ⟨trivial, ?_, ?_⟩
    · intro b _
      rw [log_singleton, hnotices]
      rfl
    · intro key _
      rw [writes_singleton, hwrites]
      rfl

/-- An event of another document is left out. -/
theorem isolates_foreign (h : Isolates fetchBound drawBound id s t) (hfresh : s.Fresh e)
    (hforeign : e.document ≠ id) :
    Isolates fetchBound drawBound id (perform replies s e) t ∧ Mirrors replies id s t [e] [] := by
  have hrun : Admissible replies s [e] := ⟨hfresh, trivial⟩
  have hsame := agree_perform_foreign replies h.valid hforeign
  constructor
  · exact ⟨valid_play h.valid hrun, h.validOwn, conserves_play h.valid h.conserves hrun, h.conservesOwn,
      hsame.symm.trans h.agree, h.alone⟩
  · refine ⟨trivial, ?_, ?_⟩
    · rintro b rfl
      rw [log_singleton, noticesOf_of_document hforeign]
      rfl
    · rintro key rfl
      rw [writes_singleton, lastAt_of_document hforeign]
      rfl

/-- One event. -/
theorem isolates_perform (replies : JobId → Reply) (h : Isolates fetchBound drawBound id s t)
    (hfresh : s.Fresh e) :
    Isolates fetchBound drawBound id (perform replies s e) (play replies t (s.ownOf id e)) ∧
      Mirrors replies id s t [e] (s.ownOf id e) := by
  rw [ownOf]
  by_cases hown : e.document = id
  · cases hwaits : s.waits e with
    | false =>
        rw [if_pos ⟨hown, rfl⟩]
        exact isolates_own h hfresh hown hwaits
    | true =>
        rw [if_neg fun hboth => Bool.noConfusion hboth.2]
        exact isolates_waiting h hwaits
  · rw [if_neg fun hboth => hown hboth.1]
    exact isolates_foreign h hfresh hown

/-- A whole run. The induction is on the events still to come. -/
theorem isolates_play (h : Isolates fetchBound drawBound id s t) {events : List Event}
    (hrun : Admissible replies s events) :
    Isolates fetchBound drawBound id (play replies s events)
        (play replies t (ownEvents replies id s events)) ∧
      Mirrors replies id s t events (ownEvents replies id s events) := by
  induction events generalizing s t with
  | nil => exact ⟨h, trivial, fun _ _ => rfl, fun _ _ => rfl⟩
  | cons e rest ih =>
      obtain ⟨hnext, hfirst⟩ := isolates_perform replies h hrun.1
      obtain ⟨hlast, hlater⟩ := ih hnext hrun.2
      rw [ownEvents, play_append]
      exact ⟨hlast, hfirst.append hlater⟩

/-! ## Where bitmaps come from -/

/-- A bitmap that is there after a run was there before, or a job at its place stored it. -/
theorem stored_play {events : List Event} {key : RenderKey} {bitmap : Bitmap}
    (h : (play replies s events).cache.bitmap? key = some bitmap) :
    s.cache.bitmap? key = some bitmap ∨
      ∃ j, j.renderKey = key ∧ (j, .ok bitmap) ∈ writes replies s events := by
  induction events generalizing s with
  | nil => exact Or.inl h
  | cons e rest ih =>
      rcases ih h with hbefore | ⟨j, hkey, hmem⟩
      · rcases perform_eq_or_step replies s e with ⟨heq, -⟩ | hstep
        · rw [heq] at hbefore
          exact Or.inl hbefore
        · rcases stored_of_bitmap hstep hbefore with hold | ⟨j, task, rfl, hkey, hjob⟩
          · exact Or.inl hold
          · refine Or.inr ⟨j, hkey, List.mem_append_left _ ?_⟩
            rw [writesOf_storing hjob]
            exact List.mem_singleton.mpr rfl
      · exact Or.inr ⟨j, hkey, List.mem_append_right _ hmem⟩

/-- A bitmap is what the collaborators made of a job of a document at a place: a batch of the document was
    requested during the run, the job was planned for it at this place, and it stored the bitmap. -/
def Produced (replies : JobId → Reply) (s : Session) (events : List Event) (id : DocumentId)
    (location : String) (bitmap : Bitmap) : Prop :=
  ∃ first rest d job, events = first ++ .request id :: rest ∧
    (play replies s first).documents.get? id = some d ∧ job ∈ (planOf d).jobs ∧
    job.location = location ∧
    jobOutcome replies (play replies s first).cache.maxBytes (nextBatch id d) job = .ok bitmap ∧
    (⟨nextBatch id d, location⟩, .ok bitmap) ∈ writes replies s events

/-- Every bitmap of a session was made by a job of its document at its place. -/
theorem produced_of_bitmap {options : SessionOptions} {events : List Event} {key : RenderKey}
    {bitmap : Bitmap} (hrun : Admissible replies (new options) events)
    (h : (play replies (new options) events).cache.bitmap? key = some bitmap) :
    Produced replies (new options) events key.document key.location bitmap := by
  rcases stored_play h with hold | ⟨⟨b, location⟩, rfl, hmem⟩
  · cases hold
  · -- the batch of the job was requested
    have hphased := phased_play (valid_new options) (phased_new options b.document) hrun
    obtain ⟨batch, hbatch⟩ := (recalls_run hrun).owned _ hmem
    have hrequested := (hphased.made b).mpr ⟨rfl, batch, hbatch⟩
    obtain ⟨first, rest, d, rfl, hopen, hb⟩ := mem_requestsOf hrequested
    obtain ⟨arrived, hfollows⟩ := follows_request hrun hopen
    rw [hb] at hmem
    obtain ⟨job, hjob, hlocation, houtcome⟩ := hfollows.outcomes _ _ hmem
    exact ⟨first, rest, d, job, rfl, hopen, hjob, hlocation, houtcome.symm, hmem⟩

/-! ## Any document -/

/-- Places resolve alike in sessions that agree on their document, if their bitmaps are the same. -/
theorem Agree.resolve (h : Agree id s t) {range : SourceRange}
    (hbitmap : t.cache.bitmap? ⟨id, range.key⟩ = s.cache.bitmap? ⟨id, range.key⟩) :
    (t.resolve id range).1 = (s.resolve id range).1 := by
  rw [resolve_fst, resolve_fst, sourceAt, sourceAt, h.document,
    Registry.error_eq_of_slot?_eq h.slot, hbitmap]

/-- A place that shows a bitmap shows that of the cache. -/
theorem bitmap_of_rendered {range : SourceRange} {bitmap : Bitmap}
    (h : (s.resolve id range).1 = .rendered bitmap) : s.cache.bitmap? ⟨id, range.key⟩ = some bitmap := by
  rw [resolve_fst] at h
  cases herror : s.registry.error id range with
  | some e =>
      rw [herror] at h
      cases h
  | none =>
      rw [herror] at h
      cases hbitmap : s.cache.bitmap? ⟨id, range.key⟩ with
      | none =>
          rw [hbitmap] at h
          cases h
      | some own =>
          rw [hbitmap] at h
          exact congrArg some (Resolution.rendered.inj h)

/-- A document at any point of a run over several documents, and the run of its own events up to there. Only
    events of the document are in it, and all of them are if none of its jobs was tried while there was no
    slot for it. It is a run too, and the first part of what the whole run leaves of its own events. The
    document is the same in both, with its phase; its batches have the same results, and showed the same
    arrivals and signals; its errors are the same. A place of it resolves to the same, unless one of the two
    caches gave up the bitmap of this place. Whatever was given up, a bitmap that a place of it shows was
    made by a job of it for this place. -/
theorem isolation_spec (replies : JobId → Reply) (options : SessionOptions)
    (before after : List Event) (id : DocumentId)
    (hrun : Admissible replies (new options) (before ++ after)) :
    let own := ownEvents replies id (new options)
    let s := play replies (new options) before
    let t := play replies (new options) (own before)
    let seen := log replies (new options) before
    let seen' := log replies (new options) (own before)
    (own before).Sublist (before.filter fun e => e.document = id) ∧
    ((∀ first e rest, before = first ++ e :: rest → e.document = id →
        (play replies (new options) first).waits e = false) →
      own before = before.filter fun e => e.document = id) ∧
    Admissible replies (new options) (own (before ++ after)) ∧
    own before <+: own (before ++ after) ∧
    t.documents.get? id = s.documents.get? id ∧
    (∀ b, b.document = id → t.result? b = s.result? b ∧ noticesOf b seen' = noticesOf b seen) ∧
    t.errors id = s.errors id ∧
    (∀ range, ⟨id, range.key⟩ ∉ evictedKeys seen → ⟨id, range.key⟩ ∉ evictedKeys seen' →
      (t.resolve id range).1 = (s.resolve id range).1) ∧
    ∀ range bitmap, (s.resolve id range).1 = .rendered bitmap →
      Produced replies (new options) before id range.key bitmap := by
  intro own s t seen seen'
  obtain ⟨hbefore, -⟩ := (admissible_append replies).mp hrun
  obtain ⟨-, hwhole⟩ := isolates_play (isolates_new options id) hrun
  obtain ⟨hisolates, hmirrors⟩ := isolates_play (isolates_new options id) hbefore
  have hagree : Agree id s t := hisolates.agree
  refine ⟨ownEvents_sublist _ _, ownEvents_eq_filter, hwhole.admissible,
    ⟨_, (ownEvents_append _ _ _).symm⟩, hagree.document, ?_, ?_, ?_, ?_⟩
  · intro b hb
    refine ⟨?_, hmirrors.notices b hb⟩
    rw [hisolates.validOwn.result?_eq, hisolates.valid.result?_eq, hagree.batches b hb]
  · rw [errors, errors, Registry.errors, Registry.errors, hagree.slot]
  · intro range hkept hkept'
    refine hagree.resolve ?_
    rw [bitmap_play replies hkept', bitmap_play replies hkept, hmirrors.writes _ rfl]
  · intro range bitmap hrendered
    exact produced_of_bitmap hbefore (bitmap_of_rendered hrendered)

/-- Two documents with a formula at the same place and one slot for drawing, which the job of the second
    document takes first: the job of the first one waits, and shows its own bitmap in the end. -/
theorem isolation_spec_two_documents :
    let range : SourceRange := ⟨⟨1, 3⟩, ⟨1, 40⟩⟩
    let reader := fun _ => Node.mk (.inlineCode (Uuid.numbered 0).hyphenated) range []
    let bitmap := fun (id : DocumentId) =>
      Bitmap.uniform 1 1 (if id = ⟨0⟩ then Color.black else ⟨255, 255, 255, 255⟩)
    let replies : JobId → Reply := fun j =>
      ⟨.broken none, .given (bitmap j.batch.document), .given, .broken none, Raster.decodeImage⟩
    let a : JobId := ⟨⟨⟨0⟩, 1⟩, range.key⟩
    let b : JobId := ⟨⟨⟨1⟩, 1⟩, range.key⟩
    let options : SessionOptions := { drawBound := 1 }
    let before := [.load ⟨0⟩ Uuid.numbered reader "a $x$ b", .load ⟨1⟩ Uuid.numbered reader "a $x$ b",
      .request ⟨0⟩, .request ⟨1⟩, .step b, .step a, .answer b, .step b, .step b, .step b, .step b,
      .step a, .answer a, .step a, .step a, .step a]
    let own := ownEvents replies ⟨0⟩ (new options) before
    let s := play replies (new options) before
    let t := play replies (new options) own
    own.length = 7 ∧ (s.documents.get? ⟨0⟩).map OpenDocument.phase = some .completed ∧
      t.documents.get? ⟨0⟩ = s.documents.get? ⟨0⟩ ∧ t.result? a.batch = s.result? a.batch ∧
      (s.resolve ⟨0⟩ range).1 = .rendered (bitmap ⟨0⟩) ∧
      (s.resolve ⟨1⟩ range).1 = .rendered (bitmap ⟨1⟩) ∧
      (t.resolve ⟨0⟩ range).1 = .rendered (bitmap ⟨0⟩) ∧
      Produced replies (new options) before ⟨0⟩ range.key (bitmap ⟨0⟩) := by
  intro range reader bitmap replies a b options before own s t
  have hsecond : (perform replies (new options) (.load ⟨0⟩ Uuid.numbered reader "a $x$ b")).Fresh
      (.load ⟨1⟩ Uuid.numbered reader "a $x$ b") :=
    (agree_perform_foreign replies (valid_new options) (by decide)).fresh rfl ⟨rfl, fun _ => rfl⟩
  have hrun : Admissible replies (new options) (before ++ []) :=
    ⟨⟨rfl, fun _ => rfl⟩, hsecond, trivial, trivial, trivial, trivial, trivial, trivial, trivial, trivial,
      trivial, trivial, trivial, trivial, trivial, trivial, trivial⟩
  obtain ⟨-, -, -, -, hdocument, hbatches, -, hresolve, hproduced⟩ :=
    isolation_spec replies options before [] ⟨0⟩ hrun
  have hshows : (s.resolve ⟨0⟩ range).1 = .rendered (bitmap ⟨0⟩) := by decide +kernel
  have hkept : (⟨⟨0⟩, range.key⟩ : RenderKey) ∉ evictedKeys (log replies (new options) before) := by
    decide +kernel
  have hkept' : (⟨⟨0⟩, range.key⟩ : RenderKey) ∉ evictedKeys (log replies (new options) own) := by
    decide +kernel
  refine ⟨by decide +kernel, by decide +kernel, hdocument, (hbatches a.batch rfl).1, hshows,
    by decide +kernel, ?_, hproduced range _ hshows⟩
  exact (hresolve range hkept hkept').trans hshows

end Session
end Formulary
