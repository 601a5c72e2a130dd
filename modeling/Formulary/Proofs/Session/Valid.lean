import Formulary.Proofs.Render.Gate
import Formulary.Proofs.Render.Plan
import Formulary.Proofs.Render.Registry
import Formulary.Proofs.Session.Step

/-!
# Valid sessions — what holds after every run

A document is registered exactly while it is open, under its own number and with the index of its
extraction. The batches of an open document were all made by its own requests, and every job belongs to
a batch.

* `Valid` — the invariant.
* `Valid.congr` — it depends on a few parts of the session only, which most steps leave alone.
* `valid_step`, `valid_play` — every step keeps it, and so does every run.
-/

namespace Formulary

open Render

namespace Session

/-- What requests and completions do not change of a document, and the number of its last batch. -/
def brief (d : OpenDocument) : LoadedDocument × Registration × Nat :=
  (d.loaded, d.registration, d.generation)

/-- The session was not stopped; open documents are registered with their index, and no others are;
    batches have gates of their own document and numbers up to that of the last request; jobs belong
    to batches. -/
structure Valid (s : Session) : Prop where
  running : s.stopped = false
  registration : ∀ id d, s.documents.get? id = some d → d.registration = ⟨id⟩
  wellFormed : ∀ id d, s.documents.get? id = some d → d.loaded.extraction.WellFormed
  index : ∀ id d, s.documents.get? id = some d →
    (s.registry.slot? id).map DocumentSlot.index = some d.loaded.extraction.index
  unregistered : ∀ id, s.documents.get? id = none → s.registry.slot? id = none
  gate : ∀ b batch, s.batches.get? b = some batch → batch.gate.document = b.document
  generation : ∀ b batch d, s.batches.get? b = some batch →
    s.documents.get? b.document = some d → b.generation ≤ d.generation
  owned : ∀ j job, s.jobs.get? j = some job → ∃ batch, s.batches.get? j.batch = some batch

/-- A new session is valid. -/
theorem valid_new (options : SessionOptions) : (new options).Valid where
  running := rfl
  registration _ _ h := by cases h
  wellFormed _ _ h := by cases h
  index _ _ h := by cases h
  unregistered _ _ := rfl
  gate _ _ h := by cases h
  generation _ _ _ h := by cases h
  owned _ _ h := by cases h

variable {s s' : Session}

/-- A document of a session with the same briefs was there before. -/
theorem exists_of_brief {id : DocumentId} {d' : OpenDocument}
    (h : (s'.documents.get? id).map brief = (s.documents.get? id).map brief)
    (hd' : s'.documents.get? id = some d') :
    ∃ d, s.documents.get? id = some d ∧ brief d = brief d' := by
  rw [hd'] at h
  obtain ⟨d, hd, hbrief⟩ := Option.map_eq_some_iff.mp h.symm
  exact ⟨d, hd, hbrief⟩

/-- The invariant depends on the briefs of documents, the indexes of the registry, the documents of
    gates and on which jobs there are. -/
theorem Valid.congr (h : s.Valid) (hstopped : s'.stopped = s.stopped)
    (hdocuments : ∀ id, (s'.documents.get? id).map brief = (s.documents.get? id).map brief)
    (hregistry : ∀ id, (s'.registry.slot? id).map DocumentSlot.index
      = (s.registry.slot? id).map DocumentSlot.index)
    (hbatches : ∀ b, (s'.batches.get? b).map (·.gate.document)
      = (s.batches.get? b).map (·.gate.document))
    (hjobs : ∀ j job, s'.jobs.get? j = some job → ∃ old, s.jobs.get? j = some old) : s'.Valid := by
  have hbatch : ∀ b batch, s'.batches.get? b = some batch →
      ∃ old, s.batches.get? b = some old ∧ old.gate.document = batch.gate.document := by
    intro b batch hb
    have hmap := hbatches b
    rw [hb] at hmap
    exact Option.map_eq_some_iff.mp hmap.symm
  constructor
  · exact hstopped.trans h.running
  · intro id d' hd'
    obtain ⟨d, hd, hbrief⟩ := exists_of_brief (hdocuments id) hd'
    rw [← (Prod.mk.inj (Prod.mk.inj hbrief).2).1]
    exact h.registration id d hd
  · intro id d' hd'
    obtain ⟨d, hd, hbrief⟩ := exists_of_brief (hdocuments id) hd'
    rw [← (Prod.mk.inj hbrief).1]
    exact h.wellFormed id d hd
  · intro id d' hd'
    obtain ⟨d, hd, hbrief⟩ := exists_of_brief (hdocuments id) hd'
    rw [hregistry, ← (Prod.mk.inj hbrief).1]
    exact h.index id d hd
  · intro id hid
    have hnone : s.documents.get? id = none := by
      have hmap := hdocuments id
      rw [hid] at hmap
      exact Option.map_eq_none_iff.mp hmap.symm
    have hmap := hregistry id
    rw [h.unregistered id hnone] at hmap
    exact Option.map_eq_none_iff.mp hmap
  · intro b batch hb
    obtain ⟨old, hold, hdocument⟩ := hbatch b batch hb
    rw [← hdocument]
    exact h.gate b old hold
  · intro b batch d' hb hd'
    obtain ⟨old, hold, -⟩ := hbatch b batch hb
    obtain ⟨d, hd, hbrief⟩ := exists_of_brief (hdocuments _) hd'
    rw [← (Prod.mk.inj (Prod.mk.inj hbrief).2).2]
    exact h.generation b old d hold hd
  · intro j job hj
    obtain ⟨oldJob, holdJob⟩ := hjobs j job hj
    obtain ⟨old, hold⟩ := h.owned j oldJob holdJob
    have hmap := hbatches j.batch
    rw [hold] at hmap
    obtain ⟨batch, hb, -⟩ := Option.map_eq_some_iff.mp hmap
    exact ⟨batch, hb⟩

/-! ## Parts that steps leave alone -/

/-- A change that keeps a part of every value keeps that part of every entry. -/
theorem map_get?_modify {κ α β : Type} [DecidableEq κ] (part : α → β) {f : α → α}
    (h : ∀ a, part (f a) = part a) (t : Table κ α) (k other : κ) :
    ((t.modify k f).get? other).map part = (t.get? other).map part := by
  rw [Table.get?_modify]
  by_cases hk : other = k
  · rw [if_pos hk, Option.map_map]
    exact congrArg (fun g => (t.get? other).map g) (funext h)
  · rw [if_neg hk]

/-- Completing a batch changes the phase of a document, which is no part of its brief. -/
theorem brief_completed (documents : Table DocumentId OpenDocument) (batch : BatchId)
    (id : DocumentId) :
    ((completed documents batch).get? id).map brief = (documents.get? id).map brief := by
  refine map_get?_modify brief ?_ documents batch.document id
  intro d
  by_cases hd : d.generation = batch.generation
  · rw [if_pos hd]
    rfl
  · rw [if_neg hd]

theorem brief_completed_if (flag : Bool) (documents : Table DocumentId OpenDocument)
    (batch : BatchId) (id : DocumentId) :
    ((if flag = true then completed documents batch else documents).get? id).map brief
      = (documents.get? id).map brief := by
  cases flag with
  | true => exact brief_completed documents batch id
  | false => rfl

/-- A key that is written again was there before. -/
theorem exists_of_get?_set {κ α : Type} [DecidableEq κ] {t : Table κ α} {k other : κ} {v w old : α}
    (hk : t.get? k = some old) (h : (t.set k v).get? other = some w) :
    ∃ u, t.get? other = some u := by
  by_cases hother : other = k
  · exact ⟨old, hother ▸ hk⟩
  · rw [Table.get?_set, if_neg hother] at h
    exact ⟨w, h⟩

/-! ## Every step keeps the invariant -/

/-- Loading a document keeps a session valid, if the number was not in use. -/
theorem Valid.opened (h : s.Valid) {id : DocumentId} (hunused : s.Unused id) {d : LoadedDocument}
    (hwellFormed : d.extraction.WellFormed) : (s.opened id d).Valid := by
  have hget : ∀ other, (s.opened id d).documents.get? other
      = if other = id then some _ else s.documents.get? other := fun _ => Table.get?_set _ _ _ _
  have hslot : ∀ other, (s.opened id d).registry.slot? other
      = if other = id then some { index := d.extraction.index } else s.registry.slot? other :=
    fun _ => Registry.slot?_register _ _ _ _
  constructor
  · exact h.running
  · intro other d' hd'
    rw [hget] at hd'
    by_cases hother : other = id
    · rw [if_pos hother] at hd'
      rw [← Option.some.inj hd', hother]
      rfl
    · rw [if_neg hother] at hd'
      exact h.registration other d' hd'
  · intro other d' hd'
    rw [hget] at hd'
    by_cases hother : other = id
    · rw [if_pos hother] at hd'
      rw [← Option.some.inj hd']
      exact hwellFormed
    · rw [if_neg hother] at hd'
      exact h.wellFormed other d' hd'
  · intro other d' hd'
    rw [hget] at hd'
    rw [hslot]
    by_cases hother : other = id
    · rw [if_pos hother] at hd' ⊢
      rw [← Option.some.inj hd']
      rfl
    · rw [if_neg hother] at hd' ⊢
      exact h.index other d' hd'
  · intro other hnone
    rw [hget] at hnone
    rw [hslot]
    by_cases hother : other = id
    · rw [if_pos hother] at hnone
      cases hnone
    · rw [if_neg hother] at hnone ⊢
      exact h.unregistered other hnone
  · exact h.gate
  · intro b batch d' hb hd'
    rw [hget] at hd'
    by_cases hother : b.document = id
    · -- no batch was made under an unused number
      have hnone := hunused.2 b.generation
      rw [← hother] at hnone
      cases hnone.symm.trans hb
    · rw [if_neg hother] at hd'
      exact h.generation b batch d' hb hd'
  · exact h.owned

/-- So does closing one. -/
theorem Valid.closed (h : s.Valid) {id : DocumentId} {d : OpenDocument}
    (hopen : s.documents.get? id = some d) :
    Valid { s with
      registry := s.registry.release d.registration
      documents := s.documents.erase id } := by
  have hregistration := h.registration id d hopen
  have hslot : ∀ other, (s.registry.release d.registration).slot? other
      = if other = id then none else s.registry.slot? other := by
    intro other
    rw [Registry.slot?_release, hregistration]
  have hstill : ∀ {other d'}, (s.documents.erase id).get? other = some d' →
      other ≠ id ∧ s.documents.get? other = some d' := by
    intro other d' hd'
    rw [Table.get?_erase] at hd'
    by_cases hother : other = id
    · rw [if_pos hother] at hd'
      cases hd'
    · rw [if_neg hother] at hd'
      exact ⟨hother, hd'⟩
  constructor
  · exact h.running
  · intro other d' hd'
    exact h.registration other d' (hstill hd').2
  · intro other d' hd'
    exact h.wellFormed other d' (hstill hd').2
  · intro other d' hd'
    obtain ⟨hother, hd⟩ := hstill hd'
    rw [hslot, if_neg hother]
    exact h.index other d' hd
  · intro other hnone
    rw [hslot]
    by_cases hother : other = id
    · rw [if_pos hother]
    · rw [if_neg hother]
      rw [Table.get?_erase, if_neg hother] at hnone
      exact h.unregistered other hnone
  · exact h.gate
  · intro b batch d' hb hd'
    exact h.generation b batch d' hb (hstill hd').2
  · exact h.owned

/-- Jobs are enqueued for one batch only. -/
theorem get?_enqueue_ne {batch : BatchId} {jobs : Table JobId RunningJob} {j : JobId}
    (h : j.batch ≠ batch) (plan : List Job) : (enqueue batch jobs plan).get? j = jobs.get? j := by
  induction plan generalizing jobs with
  | nil => rfl
  | cons job rest ih =>
      have hne : j ≠ ⟨batch, job.location⟩ := by
        rintro rfl
        exact h rfl
      show (enqueue batch (jobs.set ⟨batch, job.location⟩ { task := job.task }) rest).get? j = _
      rw [ih, Table.get?_set, if_neg hne]

theorem document_new (document : DocumentId) (total : Nat) :
    (CompletionGate.new document total).2.document = document := by
  rw [CompletionGate.new_eq]
  rfl

/-- The jobs of the next batch wait from its request on. -/
theorem Valid.jobs_requested (h : s.Valid) (id : DocumentId) (d : OpenDocument) :
    (s.requested id d).jobs = enqueue (nextBatch id d) s.jobs (planOf d).jobs := by
  show (if s.stopped = true then s.jobs else _) = _
  rw [if_neg (by rw [h.running]; exact Bool.false_ne_true)]

/-- So does requesting a batch: its number is new, and so are those of its jobs. -/
theorem Valid.requested (h : s.Valid) {id : DocumentId} {d : OpenDocument}
    (hopen : s.documents.get? id = some d) : (s.requested id d).Valid := by
  -- the document goes on under the number of the new batch
  have hbrief : ∀ other, ((s.requested id d).documents.get? other).map brief
      = if other = id then some (d.loaded, d.registration, d.generation + 1)
        else (s.documents.get? other).map brief := by
    intro other
    show ((if (CompletionGate.new id (planOf d).total).1.isSome = true then completed _ _
      else _ : Table DocumentId OpenDocument).get? other).map brief = _
    rw [brief_completed_if, Table.get?_set]
    by_cases hother : other = id
    · rw [if_pos hother, if_pos hother]
      rfl
    · rw [if_neg hother, if_neg hother]
  have hdocument : ∀ {other d'}, (s.requested id d).documents.get? other = some d' →
      ∃ old, s.documents.get? other = some old ∧ old.loaded = d'.loaded ∧
        old.registration = d'.registration ∧ old.generation ≤ d'.generation ∧
        (other = id → d'.generation = d.generation + 1) := by
    intro other d' hd'
    have hmap := hbrief other
    rw [hd'] at hmap
    by_cases hother : other = id
    · rw [if_pos hother] at hmap
      obtain ⟨hloaded, hrest⟩ := Prod.mk.inj (Option.some.inj hmap)
      obtain ⟨hregistration, hgeneration⟩ := Prod.mk.inj hrest
      refine ⟨d, hother ▸ hopen, hloaded.symm, hregistration.symm, ?_, fun _ => hgeneration⟩
      show d.generation ≤ d'.generation
      rw [hgeneration]
      exact Nat.le_succ _
    · rw [if_neg hother] at hmap
      obtain ⟨old, hold, heq⟩ := Option.map_eq_some_iff.mp hmap.symm
      obtain ⟨hloaded, hrest⟩ := Prod.mk.inj heq
      obtain ⟨hregistration, hgeneration⟩ := Prod.mk.inj hrest
      exact ⟨old, hold, hloaded, hregistration, Nat.le_of_eq hgeneration,
        fun heq => absurd heq hother⟩
  have hbatch : ∀ b, (s.requested id d).batches.get? b
      = if b = nextBatch id d then some _ else s.batches.get? b := fun _ => Table.get?_set _ _ _ _
  constructor
  · exact h.running
  · intro other d' hd'
    obtain ⟨old, hold, -, hregistration, -⟩ := hdocument hd'
    rw [← hregistration]
    exact h.registration other old hold
  · intro other d' hd'
    obtain ⟨old, hold, hloaded, -⟩ := hdocument hd'
    rw [← hloaded]
    exact h.wellFormed other old hold
  · intro other d' hd'
    obtain ⟨old, hold, hloaded, -⟩ := hdocument hd'
    rw [← hloaded]
    exact h.index other old hold
  · intro other hnone
    have hmap := hbrief other
    rw [hnone] at hmap
    by_cases hother : other = id
    · rw [if_pos hother] at hmap
      cases hmap
    · rw [if_neg hother] at hmap
      exact h.unregistered other (Option.map_eq_none_iff.mp hmap.symm)
  · intro b batch hb
    rw [hbatch] at hb
    by_cases hnext : b = nextBatch id d
    · rw [if_pos hnext] at hb
      rw [← Option.some.inj hb, hnext]
      exact document_new id _
    · rw [if_neg hnext] at hb
      exact h.gate b batch hb
  · intro b batch d' hb hd'
    obtain ⟨old, hold, -, -, hle, hsame⟩ := hdocument hd'
    rw [hbatch] at hb
    by_cases hnext : b = nextBatch id d
    · rw [hnext, hsame (by rw [hnext]; rfl)]
      exact Nat.le_refl _
    · rw [if_neg hnext] at hb
      exact Nat.le_trans (h.generation b batch old hb hold) hle
  · intro j job hj
    rw [hbatch]
    by_cases hnext : j.batch = nextBatch id d
    · exact ⟨_, if_pos hnext⟩
    · rw [h.jobs_requested, get?_enqueue_ne hnext] at hj
      rw [if_neg hnext]
      exact h.owned j job hj

variable {replies : JobId → Reply}

/-- Every step of a valid session leads to a valid session, if documents are loaded under numbers that
    are not in use. -/
theorem valid_step (h : s.Valid) {e : Event} (hfresh : s.Fresh e) (hstep : Step replies s e s') :
    s'.Valid := by
  -- a job that goes to another stage was there before
  have hkeep : ∀ {id : JobId} {old new : RunningJob}, s.jobs.get? id = some old →
      ∀ j job, (s.jobs.set id new).get? j = some job → ∃ old, s.jobs.get? j = some old :=
    fun hjob _ _ hj => exists_of_get?_set hjob hj
  cases hstep with
  | opened hload => exact h.opened hfresh (Markup.Extraction.wellFormed_of_convert
      (LoadedDocument.extract_of_load hload))
  | closed hopen => exact h.closed hopen
  | sized =>
      refine h.congr rfl ?_ (fun _ => rfl) (fun _ => rfl) fun _ job hj => ⟨job, hj⟩
      intro other
      refine map_get?_modify brief ?_ _ _ other
      intro d
      rfl
  | coloured =>
      refine h.congr rfl ?_ (fun _ => rfl) (fun _ => rfl) fun _ job hj => ⟨job, hj⟩
      intro other
      refine map_get?_modify brief ?_ _ _ other
      intro d
      rfl
  | requested hopen => exact h.requested hopen
  | resolved hcache =>
      exact h.congr rfl (fun _ => rfl) (fun _ => rfl) (fun _ => rfl) fun _ job hj => ⟨job, hj⟩
  | placed hcache =>
      exact h.congr rfl (fun _ => rfl) (fun _ => rfl) (fun _ => rfl) fun _ job hj => ⟨job, hj⟩
  | answered hjob =>
      exact h.congr rfl (fun _ => rfl) (fun _ => rfl) (fun _ => rfl) (hkeep hjob)
  | started hjob hslot =>
      exact h.congr rfl (fun _ => rfl) (fun _ => rfl) (fun _ => rfl) (hkeep hjob)
  | accepted hjob hregistered =>
      exact h.congr rfl (fun _ => rfl) (fun _ => rfl) (fun _ => rfl) (hkeep hjob)
  | dropped hjob hunregistered =>
      exact h.congr rfl (fun _ => rfl) (fun _ => rfl) (fun _ => rfl) (hkeep hjob)
  | failed hjob =>
      exact h.congr rfl (fun _ => rfl) (fun _ => rfl) (fun _ => rfl) (hkeep hjob)
  | stored hjob =>
      exact h.congr rfl (fun _ => rfl) (fun _ => rfl) (fun _ => rfl) (hkeep hjob)
  | @reported id task error batch hjob hbatch =>
      refine h.congr rfl ?_ ?_ ?_ (hkeep hjob)
      · intro other
        exact brief_completed_if _ _ _ _
      · intro other
        exact CompletionGate.index_arrive _ _ _ _ other
      · intro b
        show ((s.batches.set id.batch _).get? b).map _ = _
        rw [Table.get?_set]
        by_cases hb : b = id.batch
        · rw [if_pos hb, hb, hbatch]
          exact congrArg some (CompletionGate.document_arrive _ _ _ _)
        · rw [if_neg hb]
  | orphaned hjob hbatch =>
      exact h.congr rfl (fun _ => rfl) (fun _ => rfl) (fun _ => rfl) (hkeep hjob)
  | left hjob =>
      refine h.congr rfl (fun _ => rfl) (fun _ => rfl) (fun _ => rfl) ?_
      intro j job hj
      rw [Table.get?_erase] at hj
      exact ⟨job, (Option.ite_none_left_eq_some.mp hj).2⟩

/-- Every event keeps a session valid, if documents are loaded under numbers that are not in use. -/
theorem valid_perform (h : s.Valid) {e : Event} (hfresh : s.Fresh e) :
    (perform replies s e).Valid := by
  rcases perform_eq_or_step replies s e with ⟨heq, -⟩ | hstep
  · rw [heq]
    exact h
  · exact valid_step h hfresh hstep

/-- Every admissible run of a valid session ends in a valid session. -/
theorem valid_play (h : s.Valid) {events : List Event} (hrun : Admissible replies s events) :
    (play replies s events).Valid := by
  induction events generalizing s with
  | nil => exact h
  | cons e rest ih => exact ih (valid_perform h hrun.1) hrun.2

end Session
end Formulary
