/-!
# Tables — values under distinct keys

A table holds at most one value for each key and lists its entries in the order in which their keys
first came. That no key comes twice is part of the type.

* `Table.set`, `Table.erase`, `Table.get?` — writing, removing and reading.
* `get?_set`, `get?_erase` — a key holds what was last written to it, and other keys are not
  touched.
-/

namespace Formulary
namespace Table

variable {κ α : Type} [DecidableEq κ]

/-- Sets the value of a key: in place if the key is there, else at the end. -/
def setEntry (key : κ) (value : α) : List (κ × α) → List (κ × α)
  | [] => [(key, value)]
  | e :: rest => if e.1 = key then (key, value) :: rest else e :: setEntry key value rest

/-- Writing a key adds that key and no other. -/
theorem mem_keys_setEntry (key : κ) (value : α) (entries : List (κ × α)) (k : κ) :
    k ∈ (setEntry key value entries).map Prod.fst ↔ k = key ∨ k ∈ entries.map Prod.fst := by
  induction entries with
  | nil => simp [setEntry]
  | cons e rest ih =>
    by_cases h : e.1 = key
    · simp [setEntry, h]
    · simp only [setEntry, if_neg h, List.map_cons, List.mem_cons, ih]
      exact or_left_comm

/-- Keys stay distinct, which is what makes `Table.set` a table again. -/
theorem nodup_setEntry (key : κ) (value : α) {entries : List (κ × α)}
    (h : (entries.map Prod.fst).Nodup) : ((setEntry key value entries).map Prod.fst).Nodup := by
  induction entries with
  | nil => simp [setEntry]
  | cons e rest ih =>
    obtain ⟨fresh, tail⟩ := List.nodup_cons.mp h
    by_cases he : e.1 = key
    · rw [setEntry, if_pos he]
      exact List.nodup_cons.mpr ⟨he ▸ fresh, tail⟩
    · rw [setEntry, if_neg he]
      refine List.nodup_cons.mpr ⟨fun mem => ?_, ih tail⟩
      rcases (mem_keys_setEntry key value rest e.1).mp mem with eq | mem
      · exact he eq
      · exact fresh mem

theorem lookup_cons (k : κ) (e : κ × α) (rest : List (κ × α)) :
    (e :: rest).lookup k = if k = e.1 then some e.2 else rest.lookup k := by
  obtain ⟨key, value⟩ := e
  rw [List.lookup_cons]
  by_cases h : k = key
  · simp [h]
  · have : (k == key) = false := by simp [h]
    simp [h, this]

/-- A key that was written is found, and all others as before. -/
theorem lookup_setEntry (key k : κ) (value : α) (entries : List (κ × α)) :
    (setEntry key value entries).lookup k = if k = key then some value else entries.lookup k := by
  induction entries with
  | nil => simp [setEntry, lookup_cons]
  | cons e rest ih =>
    by_cases he : e.1 = key
    · subst he
      by_cases h : k = e.1 <;> simp [setEntry, lookup_cons, h]
    · rw [setEntry, if_neg he, lookup_cons, lookup_cons, ih]
      by_cases h : k = e.1
      · simp [h, he]
      · simp [h]

/-- A key that was taken out is not found, and all others as before. -/
theorem lookup_filter_ne (key k : κ) (entries : List (κ × α)) :
    (entries.filter fun e => e.1 != key).lookup k = if k = key then none else entries.lookup k := by
  induction entries with
  | nil => simp
  | cons e rest ih =>
    by_cases he : e.1 = key
    · subst he
      rw [List.filter_cons_of_neg (by simp), ih, lookup_cons]
      by_cases h : k = e.1 <;> simp [h]
    · rw [List.filter_cons_of_pos (by simp [he]), lookup_cons, lookup_cons, ih]
      by_cases h : k = e.1
      · simp [h, he]
      · simp [h]

end Table

/-- Values under distinct keys, in the order in which the keys came. -/
structure Table (κ α : Type) where
  entries : List (κ × α)
  nodup_keys : (entries.map Prod.fst).Nodup

namespace Table

variable {κ α : Type}

/-- The table without entries. -/
def empty : Table κ α := ⟨[], List.nodup_nil⟩

instance : Inhabited (Table κ α) := ⟨empty⟩
instance : EmptyCollection (Table κ α) := ⟨empty⟩

/-- The number of keys. -/
def size (t : Table κ α) : Nat := t.entries.length

/-- Whether there is no key. -/
def isEmpty (t : Table κ α) : Bool := t.entries.isEmpty

/-- The keys in the order in which they came. -/
def keys (t : Table κ α) : List κ := t.entries.map Prod.fst

/-- The values in the order in which their keys came. -/
def values (t : Table κ α) : List α := t.entries.map Prod.snd

variable [DecidableEq κ]

/-- The value of a key. -/
def get? (t : Table κ α) (key : κ) : Option α := t.entries.lookup key

/-- Whether a key has a value. -/
def contains (t : Table κ α) (key : κ) : Bool := (t.get? key).isSome

/-- Sets the value of a key. -/
def set (t : Table κ α) (key : κ) (value : α) : Table κ α :=
  ⟨setEntry key value t.entries, nodup_setEntry key value t.nodup_keys⟩

/-- Removes a key. -/
def erase (t : Table κ α) (key : κ) : Table κ α :=
  ⟨t.entries.filter fun e => e.1 != key,
    t.nodup_keys.sublist (List.Sublist.map _ List.filter_sublist)⟩

/-- Changes the value of a key, if it has one. -/
def modify (t : Table κ α) (key : κ) (f : α → α) : Table κ α :=
  match t.get? key with
  | some value => t.set key (f value)
  | none => t

theorem get?_empty (k : κ) : (empty : Table κ α).get? k = none := rfl

theorem get?_set (t : Table κ α) (key k : κ) (value : α) :
    (t.set key value).get? k = if k = key then some value else t.get? k :=
  lookup_setEntry key k value t.entries

theorem get?_erase (t : Table κ α) (key k : κ) :
    (t.erase key).get? k = if k = key then none else t.get? k :=
  lookup_filter_ne key k t.entries

theorem get?_modify (t : Table κ α) (key k : κ) (f : α → α) :
    (t.modify key f).get? k = if k = key then (t.get? k).map f else t.get? k := by
  unfold modify
  by_cases h : k = key
  · subst h
    cases hk : t.get? k <;> simp [get?_set, hk]
  · cases t.get? key <;> simp [get?_set, h]

end Table
end Formulary
