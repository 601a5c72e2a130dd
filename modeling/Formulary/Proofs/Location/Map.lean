import Formulary.Location.Map
import Formulary.Proofs.Table

/-!
# Range maps as finite maps — reading after writing

The entries of a range map stand in strictly increasing range order, so no range comes twice and
reading a range finds its entry wherever it stands.

* `RangeMap.get?_insert`, `RangeMap.get?_erase` — a range holds what was last written to it.
* `RangeMap.get?_eq_some_iff` — what is read are the entries.
-/

namespace Formulary
namespace RangeMap

variable {α : Type}

/-- Ranges in strictly increasing order are distinct. -/
theorem nodup_of_ordered {entries : List (SourceRange × α)} (h : Ordered entries) :
    (entries.map Prod.fst).Nodup := by
  refine List.pairwise_map.mpr (h.imp fun {a b} hlt heq => ?_)
  rw [heq, SourceRange.lt_irrefl] at hlt
  exact Bool.noConfusion hlt

/-- No range comes twice in a map. -/
theorem nodup_keys (m : RangeMap α) : m.keys.Nodup := nodup_of_ordered m.ordered

/-- What is read at a range is its entry. -/
theorem get?_eq_some_iff (m : RangeMap α) {r : SourceRange} {v : α} :
    m.get? r = some v ↔ (r, v) ∈ m.entries :=
  lookup_eq_some_iff m.nodup_keys

@[simp] theorem get?_empty (r : SourceRange) : (empty : RangeMap α).get? r = none := rfl

/-- A range that an ordered list is searched for is found where it was put. -/
theorem lookup_insertEntry (range r : SourceRange) (value : α)
    (entries : List (SourceRange × α)) :
    (insertEntry range value entries).lookup r
      = if r = range then some value else entries.lookup r := by
  induction entries with
  | nil => simp [insertEntry, Table.lookup_cons]
  | cons e rest ih =>
      obtain ⟨head, v⟩ := e
      rw [insertEntry]
      by_cases hlt : head.lt range = true
      · have hne : head ≠ range := by
          intro heq
          rw [heq, SourceRange.lt_irrefl] at hlt
          exact Bool.noConfusion hlt
        rw [if_pos hlt, Table.lookup_cons, Table.lookup_cons, ih]
        by_cases hr : r = head
        · rw [if_pos hr, if_neg (hr ▸ hne), if_pos hr]
        · rw [if_neg hr, if_neg hr]
      · rw [if_neg hlt]
        by_cases heq : head = range
        · rw [if_pos heq, Table.lookup_cons, Table.lookup_cons, heq]
          by_cases hr : r = range <;> simp [hr]
        · rw [if_neg heq, Table.lookup_cons]

/-- After an insertion its range holds the new value, and all others what they held. -/
theorem get?_insert (m : RangeMap α) (range r : SourceRange) (value : α) :
    (m.insert range value).get? r = if r = range then some value else m.get? r :=
  lookup_insertEntry range r value m.entries

/-- After an erasure its range holds nothing, and all others what they held. -/
theorem get?_erase (m : RangeMap α) (range r : SourceRange) :
    (m.erase range).get? r = if r = range then none else m.get? r :=
  Table.lookup_filter_ne range r m.entries

/-- A new range makes an ordered list longer by one. -/
theorem length_insertEntry_of_not_mem {range : SourceRange} {value : α}
    {entries : List (SourceRange × α)} (h : range ∉ entries.map Prod.fst) :
    (insertEntry range value entries).length = entries.length + 1 := by
  induction entries with
  | nil => rfl
  | cons e rest ih =>
      rw [List.map_cons, List.mem_cons, not_or] at h
      rw [insertEntry]
      by_cases hlt : e.1.lt range = true
      · rw [if_pos hlt, List.length_cons, ih h.2, List.length_cons]
      · rw [if_neg hlt, if_neg (Ne.symm h.1)]
        rfl

/-- A new range makes a map greater by one. -/
theorem size_insert_of_get?_eq_none {m : RangeMap α} {range : SourceRange} {value : α}
    (h : m.get? range = none) : (m.insert range value).size = m.size + 1 :=
  length_insertEntry_of_not_mem (lookup_eq_none_iff.mp h)

/-- The keys are the ranges that hold something. -/
theorem mem_keys_iff (m : RangeMap α) {r : SourceRange} : r ∈ m.keys ↔ ∃ v, m.get? r = some v := by
  constructor
  · intro h
    obtain ⟨entry, hentry, rfl⟩ := List.mem_map.mp h
    exact ⟨entry.2, m.get?_eq_some_iff.mpr hentry⟩
  · rintro ⟨v, hv⟩
    exact List.mem_map.mpr ⟨(r, v), m.get?_eq_some_iff.mp hv, rfl⟩

end RangeMap
end Formulary
