import Formulary.Proofs.Cache
import Formulary.Proofs.Session.Loading

/-!
# Steps — all that an event can do to a session

Every event leaves the session as it is or takes one of a few steps, each of which says what it needs
and what it changes. All invariants are proved from these steps; the operations themselves are opened
here only.

* `SameBitmaps` — caches that differ in the order of use only.
* `keysRead`, `resolve_snd`, `placements_snd` — looking at places reads bitmaps and does nothing else.
* `requested`, `reported` — the session after a request and after a report.
* `Step` — the steps, one for each thing that can happen.
* `perform_eq_or_step`, `perform_of_step` — an event takes its step if it can, or else changes nothing.
-/

namespace Formulary

open Render

/-- Two caches hold the same bitmaps within the same bound. -/
structure SameBitmaps (c c' : RenderCache) : Prop where
  bitmap? : ∀ key, c'.bitmap? key = c.bitmap? key
  maxBytes : c'.maxBytes = c.maxBytes

theorem SameBitmaps.refl (c : RenderCache) : SameBitmaps c c := ⟨fun _ => rfl, rfl⟩

/-- The order of use may change again and again. -/
theorem SameBitmaps.trans {a b c : RenderCache} (h : SameBitmaps a b) (k : SameBitmaps b c) :
    SameBitmaps a c :=
  ⟨fun key => (k.bitmap? key).trans (h.bitmap? key), k.maxBytes.trans h.maxBytes⟩

theorem SameBitmaps.symm {c c' : RenderCache} (h : SameBitmaps c c') : SameBitmaps c' c :=
  ⟨fun key => (h.bitmap? key).symm, h.maxBytes.symm⟩

/-- Reading changes the order of use, and nothing else. -/
theorem sameBitmaps_readAll (c : RenderCache) (keys : List RenderKey) :
    SameBitmaps c (c.readAll keys) := by
  refine ⟨RenderCache.bitmap?_readAll c keys, ?_⟩
  induction keys generalizing c with
  | nil => rfl
  | cons key rest ih =>
      rw [RenderCache.readAll_cons, ih, RenderCache.get]
      cases c.find? key with
      | none => rfl
      | some e => rfl

namespace Session

/-! ## Looking at places -/

/-- The keys that are read when ranges of a document are looked at: those of ranges without an error. -/
def readKeys (s : Session) (id : DocumentId) (ranges : List SourceRange) : List RenderKey :=
  (ranges.filter fun range => (s.registry.error id range).isNone).map fun range => ⟨id, range.key⟩

/-- The keys that an event reads. -/
def keysRead (s : Session) : Event → List RenderKey
  | .resolve id range => s.readKeys id [range]
  | .placements id =>
    match s.documents.get? id with
    | some d => s.readKeys id (d.loaded.extraction.contents.map Prod.fst)
    | none => []
  | _ => []

/-- Looking at a place reads its bitmap, unless it has an error, and does nothing else. -/
theorem resolve_snd (s : Session) (id : DocumentId) (range : SourceRange) :
    (s.resolve id range).2 = { s with cache := s.cache.readAll (s.readKeys id [range]) } := by
  rw [resolve, readKeys]
  cases herror : s.registry.error id range with
  | some e =>
      rw [List.filter_cons_of_neg (by simp [herror])]
      rfl
  | none =>
      rw [List.filter_cons_of_pos (by simp [herror])]
      rfl

/-- Looking at several places reads their bitmaps one after the other. -/
theorem resolveAll_snd (s : Session) (id : DocumentId) (places : List (SourceRange × Content)) :
    (s.resolveAll id places).2
      = { s with cache := s.cache.readAll (s.readKeys id (places.map Prod.fst)) } := by
  induction places generalizing s with
  | nil => rfl
  | cons place rest ih =>
      have hkeys : s.readKeys id ((place :: rest).map Prod.fst)
          = s.readKeys id [place.1] ++ s.readKeys id (rest.map Prod.fst) := by
        rw [readKeys, readKeys, readKeys, ← List.map_append, ← List.filter_append]
        rfl
      show ((s.resolve id place.1).2.resolveAll id rest).2 = _
      rw [ih, resolve_snd, hkeys, RenderCache.readAll_append]
      rfl

/-- So does listing the places of a document. -/
theorem placements_snd (s : Session) (id : DocumentId) :
    (s.placements id).2 = { s with cache := s.cache.readAll (s.keysRead (.placements id)) } := by
  rw [placements, keysRead]
  cases s.documents.get? id with
  | none => rfl
  | some d => exact s.resolveAll_snd id d.loaded.extraction.contents

/-! ## Requests and reports -/

/-- The documents when a batch has completed. -/
def completed (documents : Table DocumentId OpenDocument) (batch : BatchId) :
    Table DocumentId OpenDocument :=
  documents.modify batch.document fun d =>
    if d.generation = batch.generation then { d with phase := .completed } else d

/-- The plan of the next batch of a document. -/
def planOf (d : OpenDocument) : Plan := Plan.ofExtraction d.loaded.extraction d.fontSize d.color

/-- The next batch of a document. -/
def nextBatch (id : DocumentId) (d : OpenDocument) : BatchId := ⟨id, d.generation + 1⟩

/-- The session when the next batch of an open document was requested. -/
def requested (s : Session) (id : DocumentId) (d : OpenDocument) : Session :=
  let batch := nextBatch id d
  let new := CompletionGate.new id (planOf d).total
  let documents := s.documents.set id
    { d with phase := .renderRequested, generation := batch.generation }
  { s with
    documents := if new.1.isSome then completed documents batch else documents
    batches := s.batches.set batch { gate := new.2, summary := new.1 }
    jobs := if s.stopped then s.jobs else enqueue batch s.jobs (planOf d).jobs }

/-- Nothing can be requested of a document that is not open. -/
theorem request_eq_none {s : Session} {id : DocumentId} (h : s.documents.get? id = none) :
    s.request id = none := by
  rw [request, h]

/-- A request makes the next batch of an open document. -/
theorem request_eq {s : Session} {id : DocumentId} {d : OpenDocument}
    (h : s.documents.get? id = some d) :
    s.request id = some (nextBatch id d, s.requested id d) := by
  rw [request, h, requested]
  show some (nextBatch id d, if (CompletionGate.new id (planOf d).total).1.isSome = true then _ else _)
    = _
  by_cases hdone : (CompletionGate.new id (planOf d).total).1.isSome = true
  · rw [if_pos hdone, if_pos hdone]
    rfl
  · rw [if_neg hdone, if_neg hdone]
    rfl

/-- The session when a job has reported to the gate of its batch. -/
def reported (s : Session) (id : JobId) (task : Task) (error : Option JobError) (batch : Batch) :
    Session :=
  let arrived := batch.gate.arrive s.registry id.location error
  { s with
    registry := arrived.registry
    batches := s.batches.set id.batch
      { gate := arrived.gate, summary := batch.summary.or arrived.summary }
    documents := if arrived.summary.isSome then completed s.documents id.batch else s.documents
    jobs := s.jobs.set id ⟨task, .leaving⟩ }

/-- A job whose batch is there reports to its gate. -/
theorem report_eq {s : Session} {id : JobId} {task : Task} {stage : Stage}
    {error : Option JobError} {batch : Batch} (h : s.batches.get? id.batch = some batch) :
    s.report id ⟨task, stage⟩ error = s.reported id task error batch := by
  rw [report, h, reported]
  by_cases hdone : (batch.gate.arrive s.registry id.location error).summary.isSome = true
  · simp only [if_pos hdone]
    rfl
  · simp only [if_neg hdone]
    rfl

/-! ## The steps -/

/-- What an event can do to a session. -/
inductive Step (replies : JobId → Reply) (s : Session) : Event → Session → Prop
  | opened {id : DocumentId} {ids : Nat → Uuid} {reader : String → Markup.Node} {text : String}
      {d : LoadedDocument} (hload : LoadedDocument.load ids reader text = .ok d) :
      Step replies s (.load id ids reader text) (s.opened id d)
  | closed {id : DocumentId} {d : OpenDocument} (hopen : s.documents.get? id = some d) :
      Step replies s (.close id)
        { s with
          registry := s.registry.release d.registration
          documents := s.documents.erase id }
  | sized {id : DocumentId} {size : Binary32} :
      Step replies s (.setFontSize id size)
        { s with documents := s.documents.modify id fun d => { d with fontSize := size } }
  | coloured {id : DocumentId} {color : Color} :
      Step replies s (.setColor id color)
        { s with documents := s.documents.modify id fun d => { d with color } }
  | requested {id : DocumentId} {d : OpenDocument} (hopen : s.documents.get? id = some d) :
      Step replies s (.request id) (s.requested id d)
  | resolved {id : DocumentId} {range : SourceRange} {cache : RenderCache}
      (hcache : SameBitmaps s.cache cache) : Step replies s (.resolve id range) { s with cache }
  | placed {id : DocumentId} {cache : RenderCache} (hcache : SameBitmaps s.cache cache) :
      Step replies s (.placements id) { s with cache }
  | answered {id : JobId} {task : Task} (hjob : s.jobs.get? id = some ⟨task, .working⟩) :
      Step replies s (.answer id)
        { s with jobs := s.jobs.set id ⟨task, .finished (outcomeOf replies s id task)⟩ }
  | started {id : JobId} {task : Task} {slots : Slots}
      (hjob : s.jobs.get? id = some ⟨task, .queued⟩) (hslot : s.slots.acquire? task = some slots) :
      Step replies s (.step id) { s with slots, jobs := s.jobs.set id ⟨task, .working⟩ }
  | accepted {id : JobId} {task : Task} {bitmap : Bitmap}
      (hjob : s.jobs.get? id = some ⟨task, .finished (.ok bitmap)⟩)
      (hregistered : s.registry.isRegistered id.batch.document = true) :
      Step replies s (.step id) { s with jobs := s.jobs.set id ⟨task, .storing bitmap⟩ }
  | dropped {id : JobId} {task : Task} {bitmap : Bitmap}
      (hjob : s.jobs.get? id = some ⟨task, .finished (.ok bitmap)⟩)
      (hunregistered : s.registry.isRegistered id.batch.document = false) :
      Step replies s (.step id) { s with jobs := s.jobs.set id ⟨task, .reporting none⟩ }
  | failed {id : JobId} {task : Task} {e : JobError}
      (hjob : s.jobs.get? id = some ⟨task, .finished (.error e)⟩) :
      Step replies s (.step id)
        { s with
          cache := (s.cache.remove id.renderKey).2
          jobs := s.jobs.set id ⟨task, .reporting (some e)⟩ }
  | stored {id : JobId} {task : Task} {bitmap : Bitmap}
      (hjob : s.jobs.get? id = some ⟨task, .storing bitmap⟩) :
      Step replies s (.step id)
        { s with
          cache := (s.cache.insert id.renderKey bitmap).2
          jobs := s.jobs.set id ⟨task, .reporting none⟩ }
  | reported {id : JobId} {task : Task} {error : Option JobError} {batch : Batch}
      (hjob : s.jobs.get? id = some ⟨task, .reporting error⟩)
      (hbatch : s.batches.get? id.batch = some batch) :
      Step replies s (.step id) (s.reported id task error batch)
  | orphaned {id : JobId} {task : Task} {error : Option JobError}
      (hjob : s.jobs.get? id = some ⟨task, .reporting error⟩)
      (hbatch : s.batches.get? id.batch = none) :
      Step replies s (.step id) { s with jobs := s.jobs.set id ⟨task, .leaving⟩ }
  | left {id : JobId} {task : Task} (hjob : s.jobs.get? id = some ⟨task, .leaving⟩) :
      Step replies s (.step id)
        { s with slots := s.slots.release task, jobs := s.jobs.erase id }

variable {replies : JobId → Reply}

/-- The next step of a job changes nothing, and nothing is seen of it, or is one of the steps. -/
theorem advance_eq_or_step (replies : JobId → Reply) (s : Session) (id : JobId) :
    (s.advance id = s ∧ s.noticesOfStep id = []) ∨ Step replies s (.step id) (s.advance id) := by
  rw [advance, noticesOfStep]
  cases hjob : s.jobs.get? id with
  | none => exact Or.inl ⟨rfl, rfl⟩
  | some job =>
      obtain ⟨task, stage⟩ := job
      cases stage with
      | queued =>
          show (s.start id _ = s ∧ _) ∨ Step replies s (.step id) (s.start id _)
          rw [start]
          cases hslot : s.slots.acquire? task with
          | none => exact Or.inl ⟨rfl, rfl⟩
          | some slots => exact Or.inr (.started hjob hslot)
      | working => exact Or.inl ⟨rfl, rfl⟩
      | finished outcome =>
          refine Or.inr ?_
          show Step replies s (.step id) (s.settle id _ outcome)
          cases outcome with
          | ok bitmap =>
              rw [settle]
              cases hregistered : s.registry.isRegistered id.batch.document with
              | true => exact .accepted hjob hregistered
              | false => exact .dropped hjob hregistered
          | error e => exact .failed hjob
      | storing bitmap => exact Or.inr (.stored hjob)
      | reporting error =>
          refine Or.inr ?_
          show Step replies s (.step id) (s.report id _ error)
          cases hbatch : s.batches.get? id.batch with
          | none =>
              rw [report, hbatch]
              exact .orphaned hjob hbatch
          | some batch =>
              rw [report_eq hbatch]
              exact .reported hjob hbatch
      | leaving => exact Or.inr (.left hjob)

/-- An event changes nothing, and nothing is seen of it, or takes its step. -/
theorem perform_eq_or_step (replies : JobId → Reply) (s : Session) (e : Event) :
    (perform replies s e = s ∧ s.notices e = []) ∨ Step replies s e (perform replies s e) := by
  cases e with
  | load id ids reader text =>
      rw [perform, load_eq]
      cases hload : LoadedDocument.load ids reader text with
      | ok d => exact Or.inr (.opened hload)
      | error err => exact Or.inl ⟨rfl, rfl⟩
  | close id =>
      rw [perform, close]
      cases hopen : s.documents.get? id with
      | none => exact Or.inl ⟨rfl, rfl⟩
      | some d => exact Or.inr (.closed hopen)
  | setFontSize id size => exact Or.inr .sized
  | setColor id color => exact Or.inr .coloured
  | request id =>
      rw [perform, notices]
      cases hopen : s.documents.get? id with
      | none =>
          rw [request_eq_none hopen]
          exact Or.inl ⟨rfl, rfl⟩
      | some d =>
          rw [request_eq hopen]
          exact Or.inr (.requested hopen)
  | resolve id range =>
      rw [perform, resolve_snd]
      exact Or.inr (.resolved (sameBitmaps_readAll _ _))
  | placements id =>
      rw [perform, placements_snd]
      exact Or.inr (.placed (sameBitmaps_readAll _ _))
  | answer id =>
      rw [perform]
      cases hjob : s.jobs.get? id with
      | none => exact Or.inl ⟨rfl, rfl⟩
      | some job =>
          obtain ⟨task, stage⟩ := job
          show (s.finish id (outcomeOf replies s id task) = s ∧ _) ∨
            Step replies s (.answer id) (s.finish id (outcomeOf replies s id task))
          rw [finish, hjob]
          cases stage with
          | working => exact Or.inr (.answered hjob)
          | _ => exact Or.inl ⟨rfl, rfl⟩
  | step id => exact advance_eq_or_step replies s id

/-- An event that can take a step takes it: the session afterwards is that of the step, but for the order in
    which its bitmaps were used. -/
theorem perform_of_step {s s' : Session} {e : Event} (h : Step replies s e s') :
    ∃ cache, SameBitmaps s'.cache cache ∧ perform replies s e = { s' with cache } := by
  have hexact : perform replies s e = s' →
      ∃ cache, SameBitmaps s'.cache cache ∧ perform replies s e = { s' with cache } :=
    fun heq => ⟨s'.cache, .refl _, heq⟩
  cases h with
  | opened hload =>
      refine hexact ?_
      rw [perform, load_eq, hload]
      rfl
  | closed hopen =>
      refine hexact ?_
      rw [perform, close, hopen]
  | sized => exact hexact rfl
  | coloured => exact hexact rfl
  | requested hopen =>
      refine hexact ?_
      rw [perform, request_eq hopen]
  | @resolved id range cache hcache =>
      exact ⟨_, hcache.symm.trans (sameBitmaps_readAll _ _), s.resolve_snd id range⟩
  | @placed id cache hcache =>
      exact ⟨_, hcache.symm.trans (sameBitmaps_readAll _ _), s.placements_snd id⟩
  | answered hjob =>
      refine hexact ?_
      rw [perform, hjob]
      simp only [finish, hjob]
      rfl
  | started hjob hslot =>
      refine hexact ?_
      rw [perform, advance, hjob]
      simp only [start, hslot]
      rfl
  | accepted hjob hregistered =>
      refine hexact ?_
      rw [perform, advance, hjob]
      simp only [settle, if_pos hregistered]
      rfl
  | dropped hjob hunregistered =>
      refine hexact ?_
      rw [perform, advance, hjob]
      simp only [settle, hunregistered]
      rfl
  | failed hjob =>
      refine hexact ?_
      rw [perform, advance, hjob]
      rfl
  | stored hjob =>
      refine hexact ?_
      rw [perform, advance, hjob]
      rfl
  | reported hjob hbatch =>
      refine hexact ?_
      rw [perform, advance, hjob]
      exact report_eq hbatch
  | orphaned hjob hbatch =>
      refine hexact ?_
      rw [perform, advance, hjob]
      simp only [report, hbatch]
      rfl
  | left hjob =>
      refine hexact ?_
      rw [perform, advance, hjob]
      rfl

end Session
end Formulary
