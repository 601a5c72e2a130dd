import Formulary.Proofs.Session.Arrivals

/-!
# What other events leave alone — the bitmap and the error of a place

The bitmap of a key changes only in steps of jobs of that key that have not reported, and when the cache
gives it up. The error of a place changes only when such a job reports and when its document comes or goes.
A document stays open, with what was loaded, until it is closed.

* `loaded_step`, `open_step`, `open_play` — documents stay open, with what was loaded.
* `bitmap_step` — bitmaps under keys of other jobs.
* `error_step` — errors at places of other jobs.
-/

namespace Formulary

open Render

namespace Session

variable {replies : JobId → Reply} {s s' : Session} {e : Event}

/-- An event that does not load a document under a number. -/
def LoadsOther (id : DocumentId) (e : Event) : Prop :=
  ∀ ids reader text, e ≠ .load id ids reader text

/-- A document stays as it was loaded, or not open, until it is closed or loaded. -/
theorem loaded_step (hstep : Step replies s e s') {id : DocumentId} (hload : LoadsOther id e)
    (hclose : e ≠ .close id) :
    (s'.documents.get? id).map OpenDocument.loaded
      = (s.documents.get? id).map OpenDocument.loaded := by
  have hcompleted : ∀ (flag : Bool) (t : Table DocumentId OpenDocument) (b : BatchId),
      ((if flag = true then completed t b else t).get? id).map OpenDocument.loaded
        = (t.get? id).map OpenDocument.loaded := by
    intro flag t b
    have hbrief := congrArg (Option.map Prod.fst) (brief_completed_if flag t b id)
    rw [Option.map_map, Option.map_map] at hbrief
    exact hbrief
  cases hstep with
  | @opened other ids reader text d hloaded =>
      have hother : id ≠ other := by
        rintro rfl
        exact hload ids reader text rfl
      exact congrArg _ ((Table.get?_set _ _ _ _).trans (if_neg hother))
  | @closed other d hopen =>
      have hother : id ≠ other := by
        rintro rfl
        exact hclose rfl
      exact congrArg _ ((Table.get?_erase _ _ _).trans (if_neg hother))
  | sized =>
      refine map_get?_modify OpenDocument.loaded ?_ _ _ _
      intro d
      rfl
  | coloured =>
      refine map_get?_modify OpenDocument.loaded ?_ _ _ _
      intro d
      rfl
  | @requested other d hopen =>
      refine (hcompleted _ _ _).trans ?_
      rw [Table.get?_set]
      by_cases hother : id = other
      · rw [if_pos hother, hother, hopen]
        rfl
      · rw [if_neg hother]
  | reported hjob hbatch => exact hcompleted _ _ _
  | _ => rfl

/-- A document stays open until it is closed. -/
theorem open_step (hfresh : s.Fresh e) (hstep : Step replies s e s') {id : DocumentId}
    {d : OpenDocument} (hopen : s.documents.get? id = some d) (hclose : e ≠ .close id) :
    ∃ d', s'.documents.get? id = some d' ∧ d'.loaded = d.loaded := by
  -- documents are loaded under numbers that are not in use
  have hload : LoadsOther id e := by
    rintro ids reader text rfl
    cases hfresh.1.symm.trans hopen
  have hsame := loaded_step hstep hload hclose
  rw [hopen] at hsame
  exact Option.map_eq_some_iff.mp hsame

/-- A document stays open during a run that does not close it. The induction is on the events still to
    come. -/
theorem open_play (replies : JobId → Reply) {s : Session} {events : List Event}
    (hrun : Admissible replies s events) {id : DocumentId} {d : OpenDocument}
    (hopen : s.documents.get? id = some d) (hclose : ∀ e ∈ events, e ≠ .close id) :
    ∃ d', (play replies s events).documents.get? id = some d' ∧ d'.loaded = d.loaded := by
  induction events generalizing s d with
  | nil => exact ⟨d, hopen, rfl⟩
  | cons e rest ih =>
      have hlater : ∀ e' ∈ rest, e' ≠ .close id := fun e' he => hclose e' (List.mem_cons_of_mem _ he)
      rw [play_cons]
      rcases perform_eq_or_step replies s e with ⟨heq, -⟩ | hstep
      · rw [heq]
        exact ih (heq ▸ hrun.2) hopen hlater
      · obtain ⟨next, hnext, hloaded⟩ := open_step hrun.1 hstep hopen (hclose e List.mem_cons_self)
        obtain ⟨d', hopen', heq⟩ := ih hrun.2 hnext hlater
        exact ⟨d', hopen', heq.trans hloaded⟩

/-- What is seen of a bitmap that is stored are the keys given up for it. -/
theorem evictedKeys_stored {id : JobId} {task : Task} {bitmap : Bitmap}
    (hjob : s.jobs.get? id = some ⟨task, .storing bitmap⟩) :
    evictedKeys (s.notices (.step id)) = (s.cache.insert id.renderKey bitmap).1 := by
  rw [notices, noticesOfStep, hjob]
  show ((s.cache.insert id.renderKey bitmap).1.map Notice.evicted).filterMap _ = _
  rw [List.filterMap_map]
  exact List.filterMap_some

/-- In an event no job writes under a key, as a job does before it has reported. -/
def WritesElsewhere (s : Session) (e : Event) (key : RenderKey) : Prop :=
  ∀ j running, e.job? = some j → s.jobs.get? j = some running → running.stage ≠ .leaving →
    j.renderKey ≠ key

/-- A bitmap changes only in steps of jobs of its key, and when it is given up. -/
theorem bitmap_step (hstep : Step replies s e s') {key : RenderKey}
    (hforeign : WritesElsewhere s e key)
    (hkept : key ∉ evictedKeys (s.notices e)) : s'.cache.bitmap? key = s.cache.bitmap? key := by
  cases hstep with
  | resolved hcache => exact hcache.bitmap? key
  | placed hcache => exact hcache.bitmap? key
  | @failed id task error hjob =>
      show (s.cache.remove id.renderKey).2.bitmap? key = _
      rw [RenderCache.bitmap?_remove, if_neg (Ne.symm (hforeign id _ rfl hjob Stage.noConfusion))]
  | @stored id task bitmap hjob =>
      rw [evictedKeys_stored hjob] at hkept
      show (s.cache.insert id.renderKey bitmap).2.bitmap? key = _
      rw [RenderCache.bitmap?_insert hkept, if_neg (Ne.symm (hforeign id _ rfl hjob Stage.noConfusion))]
  | _ => rfl

/-- A valid index finds a range under its own key only. -/
theorem Valid.lookup_key (h : s.Valid) {id : DocumentId} {d : OpenDocument}
    (hopen : s.documents.get? id = some d) {key : String} {range : SourceRange}
    (hlookup : d.loaded.extraction.index.lookup key = some range) : key = range.key :=
  (((h.wellFormed id d hopen).lookup _ _).mp hlookup).1

/-- The slot of an open document, with the index of its extraction. -/
theorem Valid.slot (h : s.Valid) {id : DocumentId} {d : OpenDocument}
    (hopen : s.documents.get? id = some d) :
    ∃ slot, s.registry.slot? id = some slot ∧ slot.index = d.loaded.extraction.index :=
  Option.map_eq_some_iff.mp (h.index id d hopen)

/-- In an event no job reports at a place. -/
def ReportsElsewhere (s : Session) (e : Event) (key : RenderKey) : Prop :=
  ∀ j task error, e.job? = some j → s.jobs.get? j = some ⟨task, .reporting error⟩ →
    j.renderKey ≠ key

theorem WritesElsewhere.reports {key : RenderKey} (h : WritesElsewhere s e key) :
    ReportsElsewhere s e key :=
  fun j _ _ hj hjob => h j _ hj hjob Stage.noConfusion

/-- The error of a place of an open document changes only when a job reports there. -/
theorem error_step (hvalid : s.Valid) (hfresh : s.Fresh e) (hstep : Step replies s e s')
    {id : DocumentId} {d : OpenDocument} (hopen : s.documents.get? id = some d)
    (hclose : e ≠ .close id) {range : SourceRange}
    (hforeign : ReportsElsewhere s e ⟨id, range.key⟩) :
    s'.registry.error id range = s.registry.error id range := by
  cases hstep with
  | @opened other ids reader text d' hload =>
      have hother : id ≠ other := by
        rintro rfl
        cases hfresh.1.symm.trans hopen
      exact Registry.error_eq_of_slot?_eq
        ((Registry.slot?_register _ _ _ _).trans (if_neg hother)) range
  | @closed other d' hopen' =>
      have hother : id ≠ other := by
        rintro rfl
        exact hclose rfl
      refine Registry.error_eq_of_slot?_eq ((Registry.slot?_release _ _ _).trans (if_neg ?_)) range
      rw [hvalid.registration other d' hopen']
      exact hother
  | @reported j task error batch hjob hbatch =>
      show (batch.gate.arrive s.registry j.location error).registry.error id range = _
      rw [CompletionGate.registry_arrive]
      by_cases hfull : batch.gate.arrived ≥ batch.gate.total
      · rw [if_pos hfull]
      · rw [if_neg hfull, hvalid.gate _ _ hbatch]
        by_cases hdocument : id = j.batch.document
        · -- a job of this document, but for another place
          obtain ⟨slot, hslot, hindex⟩ := hvalid.slot hopen
          rw [← hdocument]
          refine Registry.error_record_ne hslot ?_
          rw [hindex]
          intro hlookup
          have hkey := hvalid.lookup_key hopen hlookup
          refine hforeign j task error rfl hjob ?_
          rw [JobId.renderKey, hdocument, hkey]
        · exact Registry.error_eq_of_slot?_eq (Registry.slot?_record_ne hdocument) range
  | _ => rfl

end Session
end Formulary
