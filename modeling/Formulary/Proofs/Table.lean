import Formulary.Table
import Mathlib

/-!
# Tables as finite maps — entries, and sums over them

A table lists each key once, so reading a key and finding its entry in the list are the same. What
is counted over the entries of a table changes with one key only when that key is written or
removed.

* `nodup_concat_iff` — lists without repetitions that grow at their end.
* `forall₂_filterMap` — what is picked from a list, beside what it was picked for.
* `lookup_eq_some_iff` — reading from a list without repeated keys.
* `Table.values_set_new` — the place of what is new.
* `Table.weigh` — the sum of a weight over the entries, and how writing and removing change it.
-/

namespace Formulary

/-- A list that grows at its end stays without repetitions as long as what comes is new. -/
theorem nodup_concat_iff {α : Type} {l : List α} {a : α} :
    (l ++ [a]).Nodup ↔ a ∉ l ∧ l.Nodup := by
  rw [← List.concat_eq_append, List.nodup_concat]

/-- What is picked from a list stands beside the elements that it was picked for. -/
theorem forall₂_filterMap {α β : Type} {R : α → β → Prop} {f : α → Option β} {l : List α}
    (h : ∀ a ∈ l, ∀ b, f a = some b → R a b) :
    List.Forall₂ R (l.filter fun a => (f a).isSome) (l.filterMap f) := by
  induction l with
  | nil => exact .nil
  | cons a rest ih =>
      have hrest := ih fun other hother => h other (List.mem_cons_of_mem _ hother)
      cases hf : f a with
      | none => simpa [hf] using hrest
      | some b => simpa [hf] using hrest.cons (h a List.mem_cons_self b hf)

variable {κ α : Type} [DecidableEq κ]

/-- In a list without repeated keys a key reads as what stands beside it. -/
theorem lookup_eq_some_iff {entries : List (κ × α)} (hnd : (entries.map Prod.fst).Nodup)
    {k : κ} {v : α} : entries.lookup k = some v ↔ (k, v) ∈ entries := by
  induction entries with
  | nil => simp
  | cons e rest ih =>
      obtain ⟨fresh, tail⟩ := List.nodup_cons.mp hnd
      rw [Table.lookup_cons]
      by_cases hk : k = e.1
      · rw [if_pos hk]
        constructor
        · intro h
          rw [hk, ← Option.some.inj h]
          exact List.mem_cons_self
        · intro h
          rcases List.mem_cons.mp h with heq | hmem
          · rw [← heq]
          · exact absurd (List.mem_map.mpr ⟨(k, v), hmem, hk⟩) fresh
      · rw [if_neg hk, ih tail]
        constructor
        · exact List.mem_cons_of_mem e
        · intro h
          rcases List.mem_cons.mp h with heq | hmem
          · exact absurd (congrArg Prod.fst heq) hk
          · exact hmem

/-- A key reads as nothing exactly when it is no key of the list. -/
theorem lookup_eq_none_iff {entries : List (κ × α)} {k : κ} :
    entries.lookup k = none ↔ k ∉ entries.map Prod.fst := by
  induction entries with
  | nil => simp
  | cons e rest ih =>
      rw [Table.lookup_cons]
      by_cases hk : k = e.1
      · simp [hk]
      · rw [if_neg hk, ih]
        simp [hk]

/-- What is read from entries of which some were left out by their keys. -/
theorem lookup_filter (keep : κ → Bool) (k : κ) (entries : List (κ × α)) :
    (entries.filter fun e => keep e.1).lookup k = if keep k then entries.lookup k else none := by
  induction entries with
  | nil => simp
  | cons e rest ih =>
      rw [List.filter_cons, Table.lookup_cons]
      by_cases he : keep e.1 = true
      · rw [if_pos he, Table.lookup_cons, ih]
        by_cases hk : k = e.1
        · rw [if_pos hk, if_pos hk, hk, if_pos he]
        · rw [if_neg hk, if_neg hk]
      · rw [if_neg he, ih]
        by_cases hk : k = e.1
        · rw [hk, if_neg he, if_neg he]
        · rw [if_neg hk]

namespace Table

theorem get?_eq_some_iff (t : Table κ α) {k : κ} {v : α} :
    t.get? k = some v ↔ (k, v) ∈ t.entries :=
  lookup_eq_some_iff t.nodup_keys

theorem get?_set_self (t : Table κ α) (k : κ) (v : α) : (t.set k v).get? k = some v := by
  rw [get?_set, if_pos rfl]

/-- A write, a change or a removal leaves an entry the same in two tables in which it was the same. -/
theorem get?_set_congr {t t' : Table κ α} {k : κ} (h : t'.get? k = t.get? k) (key : κ) (value : α) :
    (t'.set key value).get? k = (t.set key value).get? k := by
  rw [get?_set, get?_set, h]

theorem get?_modify_congr {t t' : Table κ α} {k : κ} (h : t'.get? k = t.get? k) (key : κ)
    (f : α → α) : (t'.modify key f).get? k = (t.modify key f).get? k := by
  rw [get?_modify, get?_modify, h]

theorem get?_erase_congr {t t' : Table κ α} {k : κ} (h : t'.get? k = t.get? k) (key : κ) :
    (t'.erase key).get? k = (t.erase key).get? k := by
  rw [get?_erase, get?_erase, h]

theorem mem_keys_iff (t : Table κ α) {k : κ} : k ∈ t.keys ↔ ∃ v, t.get? k = some v := by
  constructor
  · intro h
    obtain ⟨e, he, rfl⟩ := List.mem_map.mp h
    exact ⟨e.2, t.get?_eq_some_iff.mpr he⟩
  · rintro ⟨v, hv⟩
    exact List.mem_map.mpr ⟨(k, v), t.get?_eq_some_iff.mp hv, rfl⟩

/-- A new key comes behind all others. -/
theorem setEntry_of_not_mem {entries : List (κ × α)} {k : κ} (h : k ∉ entries.map Prod.fst) (v : α) :
    setEntry k v entries = entries ++ [(k, v)] := by
  induction entries with
  | nil => rfl
  | cons e rest ih =>
      rw [List.map_cons, List.mem_cons, not_or] at h
      rw [setEntry, if_neg (Ne.symm h.1), ih h.2, List.cons_append]

/-- So does its value. -/
theorem values_set_new {t : Table κ α} {k : κ} (h : t.get? k = none) (v : α) :
    (t.set k v).values = t.values ++ [v] := by
  show (setEntry k v t.entries).map Prod.snd = t.entries.map Prod.snd ++ [v]
  rw [setEntry_of_not_mem (lookup_eq_none_iff.mp h), List.map_append]
  rfl

/-! ## Sums over the entries -/

/-- The sum of a weight over the entries. -/
def weigh (weight : κ × α → Nat) (t : Table κ α) : Nat := (t.entries.map weight).sum

variable {weight : κ × α → Nat} {t : Table κ α} {k : κ} {v old : α}

theorem sum_setEntry_of_not_mem {entries : List (κ × α)} (h : k ∉ entries.map Prod.fst) :
    ((setEntry k v entries).map weight).sum = (entries.map weight).sum + weight (k, v) := by
  rw [setEntry_of_not_mem h, List.map_append, List.sum_append]
  rfl

theorem sum_setEntry_of_mem {entries : List (κ × α)} (hnd : (entries.map Prod.fst).Nodup)
    (h : (k, old) ∈ entries) :
    ((setEntry k v entries).map weight).sum + weight (k, old)
      = (entries.map weight).sum + weight (k, v) := by
  induction entries with
  | nil => exact absurd h List.not_mem_nil
  | cons e rest ih =>
      obtain ⟨fresh, tail⟩ := List.nodup_cons.mp hnd
      rcases List.mem_cons.mp h with heq | hmem
      · subst heq
        rw [setEntry, if_pos rfl]
        simp only [List.map_cons, List.sum_cons]
        omega
      · have hne : e.1 ≠ k := by
          intro heq
          exact fresh (List.mem_map.mpr ⟨(k, old), hmem, heq.symm⟩)
        have := ih tail hmem
        rw [setEntry, if_neg hne]
        simp only [List.map_cons, List.sum_cons]
        omega

theorem sum_filter_ne_of_mem {entries : List (κ × α)} (hnd : (entries.map Prod.fst).Nodup)
    (h : (k, old) ∈ entries) :
    ((entries.filter fun e => e.1 != k).map weight).sum + weight (k, old)
      = (entries.map weight).sum := by
  induction entries with
  | nil => exact absurd h List.not_mem_nil
  | cons e rest ih =>
      obtain ⟨fresh, tail⟩ := List.nodup_cons.mp hnd
      rcases List.mem_cons.mp h with heq | hmem
      · subst heq
        have hrest : (rest.filter fun e => e.1 != k) = rest := by
          refine List.filter_eq_self.mpr fun e he => ?_
          have : e.1 ≠ k := fun heq => fresh (List.mem_map.mpr ⟨e, he, heq⟩)
          simpa using this
        rw [List.filter_cons_of_neg (by simp), hrest]
        simp only [List.map_cons, List.sum_cons]
        omega
      · have hne : e.1 ≠ k := by
          intro heq
          exact fresh (List.mem_map.mpr ⟨(k, old), hmem, heq.symm⟩)
        have := ih tail hmem
        rw [List.filter_cons_of_pos (by simpa using hne)]
        simp only [List.map_cons, List.sum_cons]
        omega

/-- A new key adds the weight of its entry. -/
theorem weigh_set_new (h : t.get? k = none) :
    (t.set k v).weigh weight = t.weigh weight + weight (k, v) :=
  sum_setEntry_of_not_mem (lookup_eq_none_iff.mp h)

/-- A key that is written again gives up the weight of its old entry. -/
theorem weigh_set_old (h : t.get? k = some old) :
    (t.set k v).weigh weight + weight (k, old) = t.weigh weight + weight (k, v) :=
  sum_setEntry_of_mem t.nodup_keys (t.get?_eq_some_iff.mp h)

/-- A key that is removed takes the weight of its entry with it. -/
theorem weigh_erase (h : t.get? k = some old) :
    (t.erase k).weigh weight + weight (k, old) = t.weigh weight :=
  sum_filter_ne_of_mem t.nodup_keys (t.get?_eq_some_iff.mp h)

/-- A table whose entries are all in another one weighs at most as much. -/
theorem weigh_le {larger : Table κ α} (h : ∀ k v, t.get? k = some v → larger.get? k = some v) :
    t.weigh weight ≤ larger.weigh weight := by
  have hsubset : t.entries ⊆ larger.entries := by
    intro e he
    exact larger.get?_eq_some_iff.mp (h e.1 e.2 (t.get?_eq_some_iff.mpr he))
  obtain ⟨part, hperm, hsublist⟩ := List.subperm_of_subset t.nodup_keys.of_map hsubset
  rw [weigh, weigh, ← (hperm.map weight).sum_eq]
  exact (hsublist.map weight).sum_le_sum fun _ _ => Nat.zero_le _

omit [DecidableEq κ] in
theorem size_eq_weigh (t : Table κ α) : t.size = t.weigh fun _ => 1 := by
  simp [size, weigh]

/-- A new key makes a table longer by one. -/
theorem size_set_new (h : t.get? k = none) : (t.set k v).size = t.size + 1 := by
  rw [size_eq_weigh, size_eq_weigh]
  exact weigh_set_new h

/-- A table weighs something exactly when one of its entries does. -/
theorem exists_of_weigh_pos (h : 0 < t.weigh weight) :
    ∃ k v, t.get? k = some v ∧ 0 < weight (k, v) := by
  by_contra hno
  have hall : ∀ n ∈ t.entries.map weight, n = 0 := by
    intro n hn
    obtain ⟨e, he, rfl⟩ := List.mem_map.mp hn
    by_contra hne
    exact hno ⟨e.1, e.2, t.get?_eq_some_iff.mpr he, Nat.pos_of_ne_zero hne⟩
  have hzero : t.weigh weight = 0 := List.sum_eq_zero hall
  omega

end Table
end Formulary
