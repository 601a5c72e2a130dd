import Formulary.Cache
import Mathlib

/-!
# Bitmaps in the cache — what stays when others come

Storing a bitmap may push others out, and the keys that are pushed out come back. All other bitmaps
stay: reading changes the order only, and taking one out does not touch the others.

* `RenderCache.bitmap?` — the bitmap of a key.
* `RenderCache.bitmap?_get`, `RenderCache.bitmap?_remove` — after reading and after taking out.
* `RenderCache.readAll`, `RenderCache.bitmap?_readAll` — after reading some keys, one after the other.
* `RenderCache.bitmap?_insert` — after storing, for every key that was not given up.
* `RenderCache.bitmap?_of_insert` — nothing but the stored bitmap is new.
-/

namespace Formulary
namespace RenderCache

/-- The bitmap of a key. -/
def bitmap? (c : RenderCache) (key : RenderKey) : Option Bitmap := (c.find? key).map (·.bitmap)

/-- The first entry of a key. -/
def entryOf (entries : List CacheEntry) (key : RenderKey) : Option CacheEntry :=
  entries.find? fun e => e.key == key

theorem entryOf_cons (e : CacheEntry) (rest : List CacheEntry) (key : RenderKey) :
    entryOf (e :: rest) key = if e.key = key then some e else entryOf rest key := by
  by_cases h : e.key = key
  · rw [if_pos h]
    exact List.find?_cons_of_pos (beq_iff_eq.mpr h)
  · rw [if_neg h]
    exact List.find?_cons_of_neg (fun hkey => h (eq_of_beq hkey))

theorem entryOf_without (entries : List CacheEntry) (key other : RenderKey) :
    entryOf (without entries key) other
      = if other = key then none else entryOf entries other := by
  induction entries with
  | nil =>
      rw [without, List.filter_nil]
      exact (ite_self none).symm
  | cons e rest ih =>
      rw [without] at ih
      rw [without, List.filter_cons, entryOf_cons]
      by_cases he : e.key = key
      · simp only [he, bne_self_eq_false, Bool.false_eq_true, if_false, ih]
        by_cases hother : other = key
        · rw [if_pos hother, if_pos hother]
        · rw [if_neg hother, if_neg hother, if_neg (Ne.symm hother)]
      · have hkeep : (e.key != key) = true := by simpa using he
        rw [if_pos hkeep, entryOf_cons, ih]
        by_cases hother : e.key = other
        · rw [if_pos hother, if_pos hother, if_neg (hother ▸ he)]
        · rw [if_neg hother, if_neg hother]

theorem entryOf_eq_none_of_not_mem {entries : List CacheEntry} {key : RenderKey}
    (h : key ∉ entries.map CacheEntry.key) : entryOf entries key = none := by
  refine List.find?_eq_none.mpr ?_
  intro e he hkey
  exact h (List.mem_map.mpr ⟨e, he, eq_of_beq hkey⟩)

/-- Entries at the end do not matter for a key that none of them has. -/
theorem entryOf_append_of_not_mem (front : List CacheEntry) {back : List CacheEntry}
    {key : RenderKey} (h : key ∉ back.map CacheEntry.key) :
    entryOf (front ++ back) key = entryOf front key := by
  rw [entryOf, List.find?_append]
  have hback : back.find? (fun e => e.key == key) = none := entryOf_eq_none_of_not_mem h
  rw [hback]
  exact Option.or_none

/-- An entry that is found at the front is found in the whole. -/
theorem entryOf_append_of_front {front back : List CacheEntry} {key : RenderKey} {e : CacheEntry}
    (h : entryOf front key = some e) : entryOf (front ++ back) key = some e := by
  rw [entryOf, List.find?_append]
  exact Option.or_eq_some_iff.mpr (Or.inl h)

variable {c : RenderCache} {key : RenderKey} {bitmap : Bitmap}

/-! ## Reading and taking out -/

/-- Reading gives the bitmap of the key. -/
theorem get_fst (c : RenderCache) (key : RenderKey) : (c.get key).1 = c.bitmap? key := by
  rw [get, bitmap?]
  cases c.find? key with
  | none => rfl
  | some e => rfl

/-- Reading changes no bitmap. -/
theorem bitmap?_get (c : RenderCache) (key other : RenderKey) :
    (c.get key).2.bitmap? other = c.bitmap? other := by
  rw [get]
  cases h : c.find? key with
  | none => rfl
  | some e =>
      have hkey : e.key = key := by simpa using List.find?_some h
      show (entryOf (e :: without c.entries key) other).map CacheEntry.bitmap = _
      rw [entryOf_cons, entryOf_without]
      by_cases hother : e.key = other
      · rw [if_pos hother, bitmap?, ← hother, hkey, h]
      · rw [if_neg hother, if_neg (fun heq => hother (hkey.trans heq.symm))]
        rfl

/-- The cache after some keys were read, one after the other. -/
def readAll (c : RenderCache) (keys : List RenderKey) : RenderCache :=
  keys.foldl (fun c key => (c.get key).2) c

theorem readAll_cons (c : RenderCache) (key : RenderKey) (rest : List RenderKey) :
    c.readAll (key :: rest) = (c.get key).2.readAll rest := rfl

theorem readAll_append (c : RenderCache) (first rest : List RenderKey) :
    c.readAll (first ++ rest) = (c.readAll first).readAll rest := List.foldl_append

theorem bitmap?_readAll (c : RenderCache) (keys : List RenderKey) (other : RenderKey) :
    (c.readAll keys).bitmap? other = c.bitmap? other := by
  induction keys generalizing c with
  | nil => rfl
  | cons key rest ih => rw [readAll_cons, ih, bitmap?_get]

/-- Taking a bitmap out leaves the others. -/
theorem bitmap?_remove (c : RenderCache) (key other : RenderKey) :
    (c.remove key).2.bitmap? other = if other = key then none else c.bitmap? other := by
  rw [remove]
  cases h : c.find? key with
  | none =>
      by_cases hother : other = key
      · rw [if_pos hother, hother, bitmap?, h]
        rfl
      · rw [if_neg hother]
  | some e =>
      show (entryOf (without c.entries key) other).map CacheEntry.bitmap = _
      rw [entryOf_without]
      by_cases hother : other = key
      · rw [if_pos hother, if_pos hother]
        rfl
      · rw [if_neg hother, if_neg hother]
        rfl

/-! ## Storing -/

/-- Trimming gives up some entries at the front of the reversed list, and never the last one. -/
theorem trim_spec (maxBytes bytes : Nat) (entries : List CacheEntry) :
    ∃ dropped, entries = dropped ++ (trim maxBytes bytes entries).2.1 ∧
      dropped.map CacheEntry.key = (trim maxBytes bytes entries).1 ∧
      (entries ≠ [] → (trim maxBytes bytes entries).2.1 ≠ []) := by
  fun_induction trim maxBytes bytes entries with
  | case1 bytes e f rest hbytes evicted left bytes' htrim ih =>
      obtain ⟨dropped, happend, hkeys, hne⟩ := ih
      rw [htrim] at happend hkeys hne
      refine ⟨e :: dropped, ?_, ?_, ?_⟩
      · rw [List.cons_append, happend]
      · rw [List.map_cons, hkeys]
      · intro _
        exact hne (List.cons_ne_nil f rest)
  | case2 bytes e f rest hbytes => exact ⟨[], rfl, rfl, fun h => h⟩
  | case3 bytes entries hentries => exact ⟨[], rfl, rfl, fun h => h⟩

/-- The keys that an entry pushed out. -/
def pushedOut (old : Option CacheEntry) (key : RenderKey) : List RenderKey :=
  match old with
  | some e => if e.key = key then [] else [e.key]
  | none => []

/-- The new entry goes to the front, and what is not pushed out stays. -/
theorem push_spec (c : RenderCache) (entry : CacheEntry) :
    ∃ rest, (c.push entry).2 = entry :: rest ∧
      ∀ other, other ≠ entry.key → other ∉ pushedOut (c.push entry).1 entry.key →
        entryOf rest other = entryOf c.entries other := by
  rw [push]
  cases h : c.find? entry.key with
  | some old =>
      refine ⟨without c.entries entry.key, rfl, ?_⟩
      intro other hother _
      rw [entryOf_without, if_neg hother]
  | none =>
      by_cases hroom : c.entries.length < c.maxItems
      · simp only [if_pos hroom]
        exact ⟨c.entries, rfl, fun _ _ _ => rfl⟩
      · simp only [if_neg hroom]
        refine ⟨c.entries.dropLast, rfl, ?_⟩
        intro other hother hkept
        -- the last entry made room, unless there was none
        cases hlast : c.entries.getLast? with
        | none => rw [List.getLast?_eq_none_iff.mp hlast, List.dropLast_nil]
        | some last =>
            have hentries : c.entries = c.entries.dropLast ++ [last] :=
              (List.dropLast_append_getLast? last hlast).symm
            have hkey : last.key ≠ entry.key := by
              intro heq
              have hmem : last ∈ c.entries := List.mem_of_getLast? hlast
              have := List.find?_eq_none.mp h last hmem
              simp [heq] at this
            rw [hlast, pushedOut, if_neg hkey, List.mem_singleton] at hkept
            rw [hentries, entryOf_append_of_not_mem _ (by simpa using hkept),
              ← hentries]

/-- An entry that is found among those pushed is the new one or was found before. -/
theorem entryOf_push {entry e : CacheEntry} {other : RenderKey}
    (h : entryOf (c.push entry).2 other = some e) :
    (other = entry.key ∧ e = entry) ∨ entryOf c.entries other = some e := by
  have hfirst : ∀ rest, (c.push entry).2 = entry :: rest →
      (entryOf rest other = some e → entryOf c.entries other = some e) →
      (other = entry.key ∧ e = entry) ∨ entryOf c.entries other = some e := by
    intro rest hpush hrest
    rw [hpush, entryOf_cons] at h
    by_cases hother : entry.key = other
    · rw [if_pos hother] at h
      exact Or.inl ⟨hother.symm, (Option.some.inj h).symm⟩
    · rw [if_neg hother] at h
      exact Or.inr (hrest h)
  cases hfound : c.find? entry.key with
  | some old =>
      refine hfirst (without c.entries entry.key) (by rw [push, hfound]) ?_
      intro hrest
      rw [entryOf_without] at hrest
      exact (Option.ite_none_left_eq_some.mp hrest).2
  | none =>
      by_cases hroom : c.entries.length < c.maxItems
      · refine hfirst c.entries ?_ fun hrest => hrest
        rw [push, hfound]
        exact congrArg Prod.snd (if_pos hroom)
      · refine hfirst c.entries.dropLast ?_ ?_
        · rw [push, hfound]
          exact congrArg Prod.snd (if_neg hroom)
        · intro hrest
          cases hlast : c.entries.getLast? with
          | none =>
              rw [List.getLast?_eq_none_iff.mp hlast] at hrest
              cases hrest
          | some last =>
              rw [← List.dropLast_append_getLast? last hlast]
              exact entryOf_append_of_front hrest

/-- What storing leaves is the front of what was pushed, and the rest of it is given up. -/
theorem insert_split (c : RenderCache) (key : RenderKey) (bitmap : Bitmap) :
    ∃ dropped,
      (c.push ⟨key, bitmap, bitmap.byteCost⟩).2 = (c.insert key bitmap).2.entries ++ dropped ∧
      (c.insert key bitmap).2.entries ≠ [] ∧
      (c.insert key bitmap).1 = pushedOut (c.push ⟨key, bitmap, bitmap.byteCost⟩).1 key ++
        dropped.reverse.map CacheEntry.key := by
  obtain ⟨bytes, hevicted, hentries⟩ : ∃ bytes,
      (c.insert key bitmap).1
        = pushedOut (c.push ⟨key, bitmap, bitmap.byteCost⟩).1 key ++
          (trim c.maxBytes bytes (c.push ⟨key, bitmap, bitmap.byteCost⟩).2.reverse).1 ∧
      (c.insert key bitmap).2.entries
        = (trim c.maxBytes bytes (c.push ⟨key, bitmap, bitmap.byteCost⟩).2.reverse).2.1.reverse :=
    ⟨_, rfl, rfl⟩
  obtain ⟨dropped, happend, hkeys, hne⟩ := trim_spec c.maxBytes bytes
    (c.push ⟨key, bitmap, bitmap.byteCost⟩).2.reverse
  obtain ⟨rest, hpush, -⟩ := push_spec c ⟨key, bitmap, bitmap.byteCost⟩
  refine ⟨dropped.reverse, ?_, ?_, ?_⟩
  · rw [hentries, ← List.reverse_append, ← happend, List.reverse_reverse]
  · rw [hentries, ne_eq, List.reverse_eq_nil_iff]
    refine hne ?_
    rw [hpush, ne_eq, List.reverse_eq_nil_iff]
    exact List.cons_ne_nil _ _
  · rw [hevicted, ← hkeys, List.reverse_reverse]

/-- Storing a bitmap changes no other bitmap, except those of the keys that it gives up. -/
theorem bitmap?_insert {other : RenderKey} (h : other ∉ (c.insert key bitmap).1) :
    (c.insert key bitmap).2.bitmap? other
      = if other = key then some bitmap else c.bitmap? other := by
  obtain ⟨dropped, hsplit, hne, hevicted⟩ := insert_split c key bitmap
  obtain ⟨rest, hpush, hkept⟩ := push_spec c ⟨key, bitmap, bitmap.byteCost⟩
  rw [hevicted, List.mem_append, not_or, List.map_reverse, List.mem_reverse] at h
  show (entryOf (c.insert key bitmap).2.entries other).map CacheEntry.bitmap = _
  by_cases hother : other = key
  · -- the new entry comes first and is never given up
    have hfront : ∃ tail, (c.insert key bitmap).2.entries = ⟨key, bitmap, bitmap.byteCost⟩ :: tail := by
      cases hleft : (c.insert key bitmap).2.entries with
      | nil => exact absurd hleft hne
      | cons first tail =>
          rw [hleft, hpush] at hsplit
          exact ⟨tail, by rw [← (List.cons.inj hsplit).1]⟩
    obtain ⟨tail, htail⟩ := hfront
    rw [htail, entryOf_cons, if_pos hother.symm, if_pos hother]
    rfl
  · -- an entry that was not given up is found in front of those that were
    rw [if_neg hother, ← entryOf_append_of_not_mem _ h.2, ← hsplit, hpush, entryOf_cons,
      if_neg (Ne.symm hother), hkept other hother h.1]
    rfl

/-- A bitmap that is there when another was stored is that one or was there before. -/
theorem bitmap?_of_insert {other : RenderKey} {found : Bitmap}
    (h : (c.insert key bitmap).2.bitmap? other = some found) :
    (other = key ∧ found = bitmap) ∨ c.bitmap? other = some found := by
  obtain ⟨entry, hentry, rfl⟩ := Option.map_eq_some_iff.mp h
  obtain ⟨dropped, hsplit, -, -⟩ := insert_split c key bitmap
  have hpushed : entryOf (c.push ⟨key, bitmap, bitmap.byteCost⟩).2 other = some entry := by
    rw [hsplit]
    exact entryOf_append_of_front hentry
  rcases entryOf_push hpushed with ⟨heq, rfl⟩ | hold
  · exact Or.inl ⟨heq, rfl⟩
  · exact Or.inr (congrArg (Option.map CacheEntry.bitmap) hold)

end RenderCache
end Formulary
