import Formulary.Proofs.Location.Map
import Formulary.Render.Registry

/-!
# Records — what the registry keeps of an outcome

An outcome is kept when its document is registered and its key stands for a range there. It then
replaces what was known of that range; every other range and every other document stays as it was, and
no record adds a document or changes an index.

* `slot?_register`, `slot?_release` — a document comes and goes.
* `fst_record`, `record_of_dropped` — which outcomes are kept, and that others change nothing.
* `error_record`, `error_record_ne`, `slot?_record_ne` — what a record writes, and what it leaves.
* `slot?_record_congr` — a record reads the slot of its document only.
* `index_record` — indexes do not change.
-/

namespace Formulary.Render
namespace Registry

variable {r : Registry} {d : DocumentId} {slot : DocumentSlot} {location : String}
  {error : Option JobError}

theorem slot?_register (r : Registry) (d other : DocumentId) (index : LocationIndex) :
    (r.register d index).2.slot? other = if other = d then some { index } else r.slot? other :=
  Table.get?_set _ _ _ _

theorem slot?_release (r : Registry) (registration : Registration) (other : DocumentId) :
    (r.release registration).slot? other
      = if other = registration.document then none else r.slot? other :=
  Table.get?_erase _ _ _

/-- An outcome for a document that is not registered is dropped. -/
theorem record_of_slot?_eq_none (h : r.slot? d = none) :
    r.record d location error = (false, r) := by
  rw [record, h]

/-- An outcome under a key that the index does not hold is dropped. -/
theorem record_of_lookup_eq_none (hslot : r.slot? d = some slot)
    (hlookup : slot.index.lookup location = none) : r.record d location error = (false, r) := by
  rw [record, hslot]
  simp only [hlookup]

/-- The errors of a slot after an outcome at a range. -/
def errorsAfter (errors : RangeMap JobError) (range : SourceRange) :
    Option JobError → RangeMap JobError
  | some e => errors.insert range e
  | none => errors.erase range

theorem get?_errorsAfter (errors : RangeMap JobError) (range other : SourceRange)
    (error : Option JobError) :
    (errorsAfter errors range error).get? other
      = if other = range then error else errors.get? other := by
  cases error with
  | none => exact RangeMap.get?_erase _ _ _
  | some e => exact RangeMap.get?_insert _ _ _ _

/-- Any other outcome is kept. -/
theorem record_of_lookup {range : SourceRange} (hslot : r.slot? d = some slot)
    (hlookup : slot.index.lookup location = some range) :
    r.record d location error
      = (true, ⟨r.slots.set d { slot with errors := errorsAfter slot.errors range error }⟩) := by
  rw [record, hslot]
  simp only [hlookup]
  cases error with
  | none => rfl
  | some e => rfl

/-- An outcome is kept exactly when its document is registered and its key stands for a range there. -/
theorem fst_record (r : Registry) (d : DocumentId) (location : String) (error : Option JobError) :
    (r.record d location error).1
      = ((r.slot? d).bind fun slot => slot.index.lookup location).isSome := by
  cases hslot : r.slot? d with
  | none =>
      rw [record_of_slot?_eq_none hslot]
      rfl
  | some slot =>
      cases hlookup : slot.index.lookup location with
      | none =>
          rw [record_of_lookup_eq_none hslot hlookup, Option.bind_some, hlookup]
          rfl
      | some range =>
          rw [record_of_lookup hslot hlookup, Option.bind_some, hlookup]
          rfl

/-- An outcome that is dropped changes nothing. -/
theorem record_of_dropped (h : (r.record d location error).1 = false) :
    (r.record d location error).2 = r := by
  cases hslot : r.slot? d with
  | none => rw [record_of_slot?_eq_none hslot]
  | some slot =>
      cases hlookup : slot.index.lookup location with
      | none => rw [record_of_lookup_eq_none hslot hlookup]
      | some range =>
          rw [record_of_lookup hslot hlookup] at h
          cases h

/-- A record leaves the slots of other documents alone. -/
theorem slot?_record_ne {other : DocumentId} (h : other ≠ d) :
    (r.record d location error).2.slot? other = r.slot? other := by
  cases hslot : r.slot? d with
  | none => rw [record_of_slot?_eq_none hslot]
  | some slot =>
      cases hlookup : slot.index.lookup location with
      | none => rw [record_of_lookup_eq_none hslot hlookup]
      | some range =>
          rw [record_of_lookup hslot hlookup]
          exact (Table.get?_set _ _ _ _).trans (if_neg h)

/-- What a record leaves of a slot depends on this slot only. -/
theorem slot?_record_congr {r' : Registry} (h : r'.slot? d = r.slot? d) (location : String)
    (error : Option JobError) :
    (r'.record d location error).2.slot? d = (r.record d location error).2.slot? d := by
  cases hslot : r.slot? d with
  | none =>
      rw [hslot] at h
      rw [record_of_slot?_eq_none hslot, record_of_slot?_eq_none h, h, hslot]
  | some slot =>
      rw [hslot] at h
      cases hlookup : slot.index.lookup location with
      | none =>
          rw [record_of_lookup_eq_none hslot hlookup, record_of_lookup_eq_none h hlookup, h, hslot]
      | some range =>
          rw [record_of_lookup hslot hlookup, record_of_lookup h hlookup]
          exact (Table.get?_set_self _ _ _).trans (Table.get?_set_self _ _ _).symm

/-- A record changes no index, and adds or removes no slot. -/
theorem index_record (other : DocumentId) :
    ((r.record d location error).2.slot? other).map DocumentSlot.index
      = (r.slot? other).map DocumentSlot.index := by
  by_cases hother : other = d
  · rw [hother]
    cases hslot : r.slot? d with
    | none => rw [record_of_slot?_eq_none hslot, hslot]
    | some slot =>
        cases hlookup : slot.index.lookup location with
        | none => rw [record_of_lookup_eq_none hslot hlookup, hslot]
        | some range =>
            rw [record_of_lookup hslot hlookup]
            show ((r.slots.set d _).get? d).map DocumentSlot.index = _
            rw [Table.get?_set, if_pos rfl]
            rfl
  · rw [slot?_record_ne hother]

/-- A record at a place of a registered document decides what is known of that place. -/
theorem error_record {range : SourceRange} (hslot : r.slot? d = some slot)
    (hlookup : slot.index.lookup location = some range) :
    (r.record d location error).2.error d range = error := by
  rw [record_of_lookup hslot hlookup]
  show ((r.slots.set d _).get? d).bind (·.errors.get? range) = error
  rw [Table.get?_set, if_pos rfl]
  exact (get?_errorsAfter _ _ _ _).trans (if_pos rfl)

/-- A record leaves all places alone that its key does not stand for. -/
theorem error_record_ne {range : SourceRange} (hslot : r.slot? d = some slot)
    (hlookup : slot.index.lookup location ≠ some range) :
    (r.record d location error).2.error d range = r.error d range := by
  cases hl : slot.index.lookup location with
  | none => rw [record_of_lookup_eq_none hslot hl]
  | some place =>
      have hne : range ≠ place := by
        rintro rfl
        exact hlookup hl
      have herror : r.error d range = slot.errors.get? range := by
        rw [Registry.error, hslot]
        rfl
      rw [record_of_lookup hslot hl, herror]
      show ((r.slots.set d _).get? d).bind (·.errors.get? range) = _
      rw [Table.get?_set, if_pos rfl]
      exact (get?_errorsAfter _ _ _ _).trans (if_neg hne)

theorem error_eq_of_slot?_eq {r' : Registry} (h : r'.slot? d = r.slot? d) (range : SourceRange) :
    r'.error d range = r.error d range := by
  rw [Registry.error, Registry.error, h]

end Registry
end Formulary.Render
