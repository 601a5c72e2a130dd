import Formulary.Proofs.Session.Phases

/-!
# Closed documents — what their jobs still do

The jobs of a closed document go on, report and are counted. Nothing is registered under its number any
more, so no error is recorded, and a job that looks whether its document is registered drops its bitmap. But
a job looks in one step and stores in another, and when the document is closed in between, the bitmap is
stored all the same.

* `Gone`, `gone_close`, `gone_step`, `gone_play` — a closed document, from then on.
* `stored_of_bitmap` — where the bitmaps after an event come from.
* `close_spec` — a document that is closed, and all that its jobs can do afterwards.
-/

namespace Formulary

open Render Markup

namespace Session

variable {replies : JobId → Reply} {s s' last : Session} {e : Event} {id : DocumentId}

/-! ## Closed documents -/

/-- A bitmap of a key stems from a session: it was there, or a job of the key was about to store it. -/
def Stems (last : Session) (key : RenderKey) (bitmap : Bitmap) : Prop :=
  last.cache.bitmap? key = some bitmap ∨
    ∃ j task, j.renderKey = key ∧ last.jobs.get? j = some ⟨task, .storing bitmap⟩

/-- A document is closed. Its jobs that are about to store a bitmap were about to in the last session in
    which it was open, and all of its bitmaps stem from that session. -/
structure Gone (id : DocumentId) (last s : Session) : Prop where
  closed : s.documents.get? id = none
  leftover : ∀ j task bitmap, j.batch.document = id →
    s.jobs.get? j = some ⟨task, .storing bitmap⟩ → last.jobs.get? j = some ⟨task, .storing bitmap⟩
  stems : ∀ key bitmap, key.document = id → s.cache.bitmap? key = some bitmap → Stems last key bitmap

/-- Closing a document changes neither jobs nor bitmaps. -/
theorem gone_close (replies : JobId → Reply) (s : Session) (id : DocumentId) :
    Gone id s (perform replies s (.close id)) := by
  rw [perform, close]
  cases hopen : s.documents.get? id with
  | none => exact ⟨hopen, fun _ _ _ _ h => h, fun _ _ _ h => Or.inl h⟩
  | some d =>
      refine ⟨?_, fun _ _ _ _ h => h, fun _ _ _ h => Or.inl h⟩
      exact (Table.get?_erase _ _ _).trans (if_pos rfl)

/-- Nothing is registered under the number of a closed document. -/
theorem Gone.slot? (h : Gone id last s) (hvalid : s.Valid) : s.registry.slot? id = none :=
  hvalid.unregistered id h.closed

/-- A bitmap that is there after an event was there before, or is one that a job stores. -/
theorem stored_of_bitmap (hstep : Step replies s e s') {key : RenderKey} {bitmap : Bitmap}
    (h : s'.cache.bitmap? key = some bitmap) :
    s.cache.bitmap? key = some bitmap ∨
      ∃ j task, e = .step j ∧ j.renderKey = key ∧ s.jobs.get? j = some ⟨task, .storing bitmap⟩ := by
  cases hstep with
  | resolved hcache => exact Or.inl ((hcache.bitmap? key).symm.trans h)
  | placed hcache => exact Or.inl ((hcache.bitmap? key).symm.trans h)
  | @failed j task error hjob =>
      have hremoved : (s.cache.remove j.renderKey).2.bitmap? key = some bitmap := h
      rw [RenderCache.bitmap?_remove] at hremoved
      exact Or.inl (Option.ite_none_left_eq_some.mp hremoved).2
  | @stored j task own hjob =>
      have hinserted : (s.cache.insert j.renderKey own).2.bitmap? key = some bitmap := h
      rcases RenderCache.bitmap?_of_insert hinserted with ⟨hkey, rfl⟩ | hold
      · exact Or.inr ⟨j, task, rfl, hkey.symm, hjob⟩
      · exact Or.inl hold
  | _ => exact Or.inl h

/-- No job of a closed document goes on to store a bitmap. -/
theorem leftover_step (hvalid : s.Valid) (h : Gone id last s) (hstep : Step replies s e s')
    {j : JobId} {task : Task} {bitmap : Bitmap} (hdocument : j.batch.document = id)
    (hjob : s'.jobs.get? j = some ⟨task, .storing bitmap⟩) :
    s.jobs.get? j = some ⟨task, .storing bitmap⟩ := by
  have hset : ∀ {other : JobId} {new : RunningJob}, (∀ bitmap, new.stage ≠ .storing bitmap) →
      (s.jobs.set other new).get? j = some ⟨task, .storing bitmap⟩ →
      s.jobs.get? j = some ⟨task, .storing bitmap⟩ := by
    intro other new hstage hget
    rw [Table.get?_set] at hget
    by_cases hother : j = other
    · rw [if_pos hother] at hget
      exact absurd (congrArg RunningJob.stage (Option.some.inj hget)) (hstage bitmap)
    · rw [if_neg hother] at hget
      exact hget
  cases hstep with
  | @requested other d hopen =>
      have hne : j.batch ≠ nextBatch other d := by
        intro heq
        rw [heq] at hdocument
        have hother : other = id := hdocument
        cases (hother ▸ h.closed).symm.trans hopen
      rw [hvalid.jobs_requested, get?_enqueue_ne hne] at hjob
      exact hjob
  | answered hjob' => exact hset (fun _ => Stage.noConfusion) hjob
  | started hjob' hslot => exact hset (fun _ => Stage.noConfusion) hjob
  | @accepted other task' bitmap' hjob' hregistered =>
      have hget : (s.jobs.set other ⟨task', .storing bitmap'⟩).get? j
        = some ⟨task, .storing bitmap⟩ := hjob
      rw [Table.get?_set] at hget
      by_cases hother : j = other
      · -- the document is not registered
        rw [← hother, hdocument, Registry.isRegistered, h.slot? hvalid] at hregistered
        cases hregistered
      · rw [if_neg hother] at hget
        exact hget
  | dropped hjob' hunregistered => exact hset (fun _ => Stage.noConfusion) hjob
  | failed hjob' => exact hset (fun _ => Stage.noConfusion) hjob
  | stored hjob' => exact hset (fun _ => Stage.noConfusion) hjob
  | reported hjob' hbatch => exact hset (fun _ => Stage.noConfusion) hjob
  | orphaned hjob' hbatch => exact hset (fun _ => Stage.noConfusion) hjob
  | left hjob' =>
      have hget := (Table.get?_erase _ _ _).symm.trans hjob
      exact (Option.ite_none_left_eq_some.mp hget).2
  | _ => exact hjob

/-- One step more. -/
theorem gone_step (hvalid : s.Valid) (h : Gone id last s) (hload : LoadsOther id e)
    (hstep : Step replies s e s') : Gone id last s' := by
  refine ⟨?_, ?_, ?_⟩
  · cases hopen : s'.documents.get? id with
    | none => rfl
    | some d' =>
        rcases open_before hstep hopen with ⟨-, d, hbefore, -⟩ | ⟨loaded, ids, reader, text, rfl, -⟩
        · cases h.closed.symm.trans hbefore
        · exact absurd rfl (hload ids reader text)
  · intro j task bitmap hdocument hjob
    exact h.leftover j task bitmap hdocument (leftover_step hvalid h hstep hdocument hjob)
  · intro key bitmap hkey hbitmap
    rcases stored_of_bitmap hstep hbitmap with hold | ⟨j, task, -, hplace, hjob⟩
    · exact h.stems key bitmap hkey hold
    · have hdocument : j.batch.document = id := (congrArg RenderKey.document hplace).trans hkey
      exact Or.inr ⟨j, task, hplace, h.leftover j task bitmap hdocument hjob⟩

theorem gone_perform (hvalid : s.Valid) (h : Gone id last s) (hload : LoadsOther id e) :
    Gone id last (perform replies s e) := by
  rcases perform_eq_or_step replies s e with ⟨heq, -⟩ | hstep
  · rw [heq]
    exact h
  · exact gone_step hvalid h hload hstep

/-- A whole run. The induction is on the events still to come. -/
theorem gone_play (hvalid : s.Valid) (h : Gone id last s) {events : List Event}
    (hrun : Admissible replies s events) (hloads : ∀ e ∈ events, LoadsOther id e) :
    Gone id last (play replies s events) := by
  induction events generalizing s with
  | nil => exact h
  | cons e rest ih =>
      exact ih (valid_perform hvalid hrun.1) (gone_perform hvalid h (hloads e List.mem_cons_self))
        hrun.2 fun e' he => hloads e' (List.mem_cons_of_mem _ he)

/-! ## Any document -/

/-- A document that was closed at some point of a run, and whose number is not used again. Nothing is
    registered under the number from then on, so no error is recorded. Its bitmaps were there when it was
    closed, or are those of jobs that had found it registered and were about to store them; and an event
    adds or replaces one only if it is the step of such a job. All jobs of its batches are still counted,
    and the batches complete. -/
theorem close_spec (replies : JobId → Reply) (options : SessionOptions) (before after : List Event)
    (id : DocumentId) (hrun : Admissible replies (new options) (before ++ .close id :: after))
    (hloads : ∀ e ∈ after, LoadsOther id e) :
    let last := play replies (new options) before
    let s := play replies (new options) (before ++ .close id :: after)
    s.registry.slot? id = none ∧
    (∀ key bitmap, key.document = id → s.cache.bitmap? key = some bitmap → Stems last key bitmap) ∧
    (∀ e, s.Fresh e → LoadsOther id e →
      (perform replies s e).registry.slot? id = none ∧
      ∀ key bitmap, key.document = id → (perform replies s e).cache.bitmap? key = some bitmap →
        s.cache.bitmap? key = some bitmap ∨
        ∃ j task, e = .step j ∧ j.renderKey = key ∧
          s.jobs.get? j = some ⟨task, .storing bitmap⟩ ∧
          last.jobs.get? j = some ⟨task, .storing bitmap⟩) ∧
    ∀ b ∈ requestsOf replies id (new options) before, ∃ first rest d,
      before = first ++ .request id :: rest ∧
      (play replies (new options) first).documents.get? id = some d ∧ b = nextBatch id d ∧
      Completes replies (play replies (new options) first).cache.maxBytes (planOf d).jobs b s
        (log replies (play replies (new options) first)
          (.request id :: (rest ++ .close id :: after))) := by
  intro last s
  obtain ⟨hbefore, hclose, hafter⟩ := (admissible_append replies).mp hrun
  have hvalid : s.Valid := valid_play (valid_new options) hrun
  have hgone : Gone id last s := by
    have hplay : s = play replies (perform replies last (.close id)) after := by
      rw [← play_cons, ← play_append]
    rw [hplay]
    exact gone_play (valid_perform (valid_play (valid_new options) hbefore) hclose)
      (gone_close replies last id) hafter hloads
  refine ⟨hgone.slot? hvalid, hgone.stems, ?_, ?_⟩
  · intro e hfresh hload
    refine ⟨(gone_perform hvalid hgone hload).slot? (valid_perform hvalid hfresh), ?_⟩
    intro key bitmap hkey hbitmap
    rcases perform_eq_or_step replies s e with ⟨heq, -⟩ | hstep
    · rw [heq] at hbitmap
      exact Or.inl hbitmap
    · rcases stored_of_bitmap hstep hbitmap with hold | ⟨j, task, rfl, hplace, hjob⟩
      · exact Or.inl hold
      · have hdocument : j.batch.document = id := (congrArg RenderKey.document hplace).trans hkey
        exact Or.inr ⟨j, task, rfl, hplace, hjob, hgone.leftover j task bitmap hdocument hjob⟩
  · intro b hb
    obtain ⟨first, rest, d, rfl, hopen, rfl⟩ := mem_requestsOf hb
    refine ⟨first, rest, d, rfl, hopen, rfl, ?_⟩
    have hwhole : (first ++ .request id :: rest) ++ .close id :: after
        = first ++ .request id :: (rest ++ .close id :: after) := by
      rw [List.append_assoc, List.cons_append]
    rw [hwhole] at hrun
    obtain ⟨hfirst, hrequest⟩ := (admissible_append replies).mp hrun
    have hcompletes := completes_play (valid_play (valid_new options) hfirst)
      (conserves_play (valid_new options) (conserves_new options) hfirst) hopen hrequest
    rw [← play_append, ← hwhole] at hcompletes
    exact hcompletes

/-- A document with one formula that is closed when its job has found it registered and has not yet stored
    the bitmap: the next step of the job stores it. -/
theorem close_spec_about_to_store :
    let range : SourceRange := ⟨⟨1, 3⟩, ⟨1, 40⟩⟩
    let reader := fun _ => Node.mk (.inlineCode (Uuid.numbered 0).hyphenated) range []
    let bitmap := Bitmap.uniform 1 1 Color.black
    let replies : JobId → Reply := fun _ =>
      ⟨.broken none, .given bitmap, .given, .broken none, Raster.decodeImage⟩
    let j : JobId := ⟨⟨⟨0⟩, 1⟩, range.key⟩
    let before := [.load ⟨0⟩ Uuid.numbered reader "a $x$ b", .request ⟨0⟩, .step j, .answer j, .step j]
    let last := play replies (new {}) before
    let s := play replies (new {}) (before ++ [.close ⟨0⟩])
    s.registry.slot? ⟨0⟩ = none ∧ s.cache.bitmap? j.renderKey = none ∧
      (perform replies s (.step j)).cache.bitmap? j.renderKey = some bitmap ∧
      ∃ task, last.jobs.get? j = some ⟨task, .storing bitmap⟩ := by
  intro range reader bitmap replies j before last s
  have hrun : Admissible replies (new {}) (before ++ [.close ⟨0⟩]) :=
    ⟨⟨rfl, fun _ => rfl⟩, trivial, trivial, trivial, trivial, trivial, trivial⟩
  obtain ⟨hslot, -, hnext, -⟩ := close_spec replies {} before [] ⟨0⟩ hrun (by simp)
  have hnone : s.cache.bitmap? j.renderKey = none := by decide +kernel
  have hstored : (perform replies s (.step j)).cache.bitmap? j.renderKey = some bitmap := by
    decide +kernel
  obtain ⟨-, hstores⟩ := hnext (.step j) trivial fun _ _ _ => Event.noConfusion
  refine ⟨hslot, hnone, hstored, ?_⟩
  rcases hstores j.renderKey bitmap rfl hstored with hold | ⟨other, task, heq, -, -, hjob⟩
  · cases hnone.symm.trans hold
  · cases heq
    exact ⟨task, hjob⟩

end Session
end Formulary
