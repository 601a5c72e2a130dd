import Formulary.Proofs.Cache.Recency

/-!
# Calls — a cache answers one call like the list by last use

A cache counts its bytes and gives up entries at two places, one when an entry is pushed into a full
cache and then from the end while the count is too great. Together they give up what the list of
`Recency` gives up.

* `RenderCache.answer` — the answer of a cache to a call.
* `RenderCache.Sound` — the count is the cost of the entries, and no key comes twice.
* `RenderCache.Pushes`, `RenderCache.Trims` — what the two places give up.
* `RenderCache.Puts`, `RenderCache.put_sound` — storing an entry.
* `RenderCache.answer_sound` — every call is answered as the list answers it.
-/

namespace Formulary
namespace RenderCache

open Recency

/-- Answers a call. -/
def answer (c : RenderCache) : CacheCall → CacheAnswer × RenderCache
  | .put key bitmap cost => (c.put key bitmap cost).map .evicted id
  | .insert key bitmap => (c.insert key bitmap).map .evicted id
  | .get key => (c.get key).map .bitmap id
  | .contains key => (.contained (c.contains key), c)
  | .remove key => (c.remove key).map .bitmap id

/-- The count of bytes is the cost of the entries, and each key has one entry. -/
structure Sound (bounds : CacheBounds) (c : RenderCache) : Prop where
  maxItems : c.maxItems = max 1 bounds.maxItems
  maxBytes : c.maxBytes = max 1 bounds.maxBytes
  bytes : c.bytes = costOf c.entries
  nodup : (c.entries.map CacheEntry.key).Nodup
  items : c.entries.length ≤ c.maxItems

/-- A new cache is sound. -/
theorem sound_new (bounds : CacheBounds) : Sound bounds (new bounds) :=
  ⟨rfl, rfl, rfl, List.nodup_nil, Nat.zero_le _⟩

variable {bounds : CacheBounds} {c : RenderCache} {entry : CacheEntry}

/-! ## Entries of distinct keys -/

theorem without_sublist (entries : List CacheEntry) (key : RenderKey) :
    (without entries key).Sublist entries := List.filter_sublist

/-- Taking away a key that is not there changes nothing. -/
theorem without_of_not_mem {entries : List CacheEntry} {key : RenderKey}
    (h : key ∉ entries.map CacheEntry.key) : without entries key = entries := by
  refine List.filter_eq_self.mpr ?_
  intro e he
  have hkey : e.key ≠ key := fun heq => h (List.mem_map.mpr ⟨e, he, heq⟩)
  simpa using hkey

theorem without_of_entryOf_eq_none {entries : List CacheEntry} {key : RenderKey}
    (h : entryOf entries key = none) : without entries key = entries := by
  refine without_of_not_mem ?_
  rw [List.mem_map]
  rintro ⟨e, he, hkey⟩
  have := List.find?_eq_none.mp h e he
  simp [hkey] at this

/-- An entry that is found is the only one of its key. -/
theorem perm_of_entryOf {entries : List CacheEntry} {key : RenderKey} {e : CacheEntry}
    (hnodup : (entries.map CacheEntry.key).Nodup) (h : entryOf entries key = some e) :
    e.key = key ∧ (e :: without entries key).Perm entries := by
  have hkey : e.key = key := by simpa using List.find?_some h
  refine ⟨hkey, ?_⟩
  induction entries with
  | nil => cases h
  | cons first rest ih =>
      rw [List.map_cons, List.nodup_cons] at hnodup
      rw [entryOf_cons] at h
      by_cases hfirst : first.key = key
      · rw [if_pos hfirst] at h
        cases h
        rw [without, List.filter_cons_of_neg (by simpa using hfirst)]
        have hrest : without rest key = rest := without_of_not_mem (hfirst ▸ hnodup.1)
        rw [without] at hrest
        rw [hrest]
      · rw [if_neg hfirst] at h
        rw [without, List.filter_cons_of_pos (by simpa using hfirst)]
        exact (List.Perm.swap first e _).trans ((ih hnodup.2 h).cons first)

/-- The cost of entries does not depend on their order. -/
theorem costOf_perm {front back : List CacheEntry} (h : front.Perm back) :
    costOf front = costOf back := (h.map CacheEntry.cost).sum_eq

/-- The cost without a key. -/
theorem costOf_without {entries : List CacheEntry} {key : RenderKey} {e : CacheEntry}
    (hnodup : (entries.map CacheEntry.key).Nodup) (h : entryOf entries key = some e) :
    costOf entries = e.cost + costOf (without entries key) := by
  rw [← costOf_perm (perm_of_entryOf hnodup h).2, costOf_cons]

/-- An entry in front of those of other keys. -/
theorem nodup_cons_without {entries : List CacheEntry} (entry : CacheEntry)
    (hnodup : (entries.map CacheEntry.key).Nodup) :
    ((entry :: without entries entry.key).map CacheEntry.key).Nodup := by
  rw [List.map_cons, List.nodup_cons]
  exact ⟨key_not_mem_without entries entry.key,
    hnodup.sublist ((without_sublist entries entry.key).map CacheEntry.key)⟩

/-! ## Storing -/

/-- The bytes that are counted when an entry has been pushed. -/
def bytesPushed (c : RenderCache) (old : Option CacheEntry) : Nat :=
  match old with
  | some e => c.bytes - e.cost
  | none => c.bytes

/-- Putting is pushing to the front and trimming the back. -/
theorem put_eq (c : RenderCache) (entry : CacheEntry) :
    c.put entry.key entry.bitmap entry.cost =
      let pushed := c.push entry
      let trimmed := trim c.maxBytes
        (min (c.bytesPushed pushed.1 + entry.cost) byteCountLimit) pushed.2.reverse
      (pushedOut pushed.1 entry.key ++ trimmed.1,
        { c with entries := trimmed.2.1.reverse, bytes := trimmed.2.2 }) := rfl

/-- What a push of an entry does: the others stay but for one at most, and that one goes only when all
    of them together with the new entry would be too many. -/
structure Pushes (c : RenderCache) (entry : CacheEntry) (kept pushed : List CacheEntry) : Prop where
  split : without c.entries entry.key = kept ++ pushed
  entries : (c.push entry).2 = entry :: kept
  keys : pushedOut (c.push entry).1 entry.key = (pushed.map CacheEntry.key).reverse
  bytes : c.bytesPushed (c.push entry).1 = costOf kept
  room : kept.length < c.maxItems
  full : ∀ last, pushed.head? = some last → c.maxItems ≤ kept.length + 1

/-- The entry of the key makes room. -/
theorem pushes_of_some (h : Sound bounds c) {old : CacheEntry}
    (hfind : c.find? entry.key = some old) :
    Pushes c entry (without c.entries entry.key) [] := by
  obtain ⟨hkey, hperm⟩ := perm_of_entryOf h.nodup hfind
  constructor
  · exact (List.append_nil _).symm
  · rw [push, hfind]
  · rw [push, hfind]
    exact if_pos hkey
  · rw [push, hfind]
    show c.bytes - old.cost = _
    rw [h.bytes, costOf_without h.nodup hfind, Nat.add_sub_cancel_left]
  · have hlength := hperm.length_eq
    rw [List.length_cons] at hlength
    have := h.items
    omega
  · intro last hlast
    cases hlast

/-- There is room. -/
theorem pushes_of_room (h : Sound bounds c) (hfind : c.find? entry.key = none)
    (hroom : c.entries.length < c.maxItems) : Pushes c entry c.entries [] := by
  have hpush : c.push entry = (none, entry :: c.entries) := by
    rw [push, hfind]
    exact if_pos hroom
  constructor
  · rw [without_of_entryOf_eq_none hfind, List.append_nil]
  · rw [hpush]
  · rw [hpush]
    rfl
  · rw [hpush]
    exact h.bytes
  · exact hroom
  · intro last hlast
    cases hlast

/-- The entry used least recently makes room. -/
theorem pushes_of_full (h : Sound bounds c) (hfind : c.find? entry.key = none)
    (hfull : c.maxItems ≤ c.entries.length) (hne : c.entries ≠ []) :
    Pushes c entry c.entries.dropLast [c.entries.getLast hne] := by
  have hsplit := List.dropLast_append_getLast hne
  have hpush : c.push entry = (some (c.entries.getLast hne), entry :: c.entries.dropLast) := by
    rw [push, hfind, ← List.getLast?_eq_some_getLast hne]
    exact if_neg (Nat.not_lt.mpr hfull)
  have hlength := congrArg List.length hsplit
  rw [List.length_append, List.length_singleton] at hlength
  have hkey : (c.entries.getLast hne).key ≠ entry.key := by
    have := List.find?_eq_none.mp hfind _ (List.getLast_mem hne)
    simpa using this
  constructor
  · rw [without_of_entryOf_eq_none hfind, hsplit]
  · rw [hpush]
  · rw [hpush]
    exact if_neg hkey
  · have hcost := congrArg costOf hsplit
    rw [costOf_append, costOf_cons, costOf_nil] at hcost
    rw [hpush]
    show c.bytes - (c.entries.getLast hne).cost = _
    rw [h.bytes]
    omega
  · have := h.items
    omega
  · intro _ _
    omega

/-- A push keeps a front part of the others, in whichever of the three ways it makes room. -/
theorem exists_pushes (h : Sound bounds c) (entry : CacheEntry) :
    ∃ kept pushed, Pushes c entry kept pushed := by
  cases hfind : c.find? entry.key with
  | some old => exact ⟨_, _, pushes_of_some h hfind⟩
  | none =>
      by_cases hroom : c.entries.length < c.maxItems
      · exact ⟨_, _, pushes_of_room h hfind hroom⟩
      · have hpos : 0 < c.maxItems := by
          rw [h.maxItems]
          exact Nat.lt_of_lt_of_le Nat.zero_lt_one (Nat.le_max_left 1 bounds.maxItems)
        have hne : c.entries ≠ [] := List.length_pos_iff.mp (by omega)
        exact ⟨_, _, pushes_of_full h hfind (Nat.not_lt.mp hroom) hne⟩

/-- What trimming does to an entry and the others behind it: it gives up others from the end until the
    cost fits, and no more. -/
structure Trims (maxBytes : Nat) (entry : CacheEntry) (others kept dropped : List CacheEntry) :
    Prop where
  split : others = kept ++ dropped
  result : trim maxBytes (costOf (entry :: others)) (entry :: others).reverse
    = ((dropped.map CacheEntry.key).reverse, (entry :: kept).reverse, costOf (entry :: kept))
  fits : costOf (entry :: kept) ≤ maxBytes ∨ kept = []
  next : ∀ d, dropped.head? = some d → maxBytes < costOf (entry :: (kept ++ [d]))

/-- Trimming looks at the last entry first: that goes while the bytes are too many, or else all stay. -/
theorem trim_concat (maxBytes bytes : Nat) (entry last : CacheEntry) (others : List CacheEntry) :
    trim maxBytes bytes (entry :: (others ++ [last])).reverse =
      if bytes > maxBytes then
        let rest := trim maxBytes (bytes - last.cost) (entry :: others).reverse
        (last.key :: rest.1, rest.2)
      else ([], (entry :: (others ++ [last])).reverse, bytes) := by
  have hreverse : (entry :: (others ++ [last])).reverse = last :: (entry :: others).reverse := by
    simp
  obtain ⟨first, rest, hrest⟩ : ∃ first rest, (entry :: others).reverse = first :: rest := by
    refine List.exists_cons_of_ne_nil ?_
    simp
  rw [hreverse, hrest, trim]

/-- When the cost is too great the last one of the others goes. -/
theorem Trims.concat {maxBytes : Nat} {last : CacheEntry} {others kept dropped : List CacheEntry}
    (h : Trims maxBytes entry others kept dropped)
    (hcost : maxBytes < costOf (entry :: (others ++ [last]))) :
    Trims maxBytes entry (others ++ [last]) kept (dropped ++ [last]) := by
  have hless : costOf (entry :: (others ++ [last])) - last.cost = costOf (entry :: others) := by
    simp only [costOf_cons, costOf_append, costOf_nil]
    omega
  refine ⟨?_, ?_, h.fits, ?_⟩
  · rw [h.split, List.append_assoc]
  · rw [trim_concat, if_pos hcost, hless, h.result]
    simp
  · intro d hd
    cases dropped with
    | nil =>
        -- the last entry is the first that was given up
        cases hd
        rwa [h.split, List.append_nil] at hcost
    | cons first rest => exact h.next d hd

/-- So trimming keeps a front part of the others, whatever they cost. -/
theorem exists_trims (maxBytes : Nat) (entry : CacheEntry) (others : List CacheEntry) :
    ∃ kept dropped, Trims maxBytes entry others kept dropped := by
  -- from the end, where trimming begins
  induction others using List.reverseRecOn with
  | nil => exact ⟨[], [], rfl, rfl, Or.inr rfl, fun d hd => absurd hd (Option.some_ne_none d).symm⟩
  | append_singleton others last ih =>
      obtain ⟨kept, dropped, htrims⟩ := ih
      by_cases hcost : maxBytes < costOf (entry :: (others ++ [last]))
      · exact ⟨kept, dropped ++ [last], htrims.concat hcost⟩
      · refine ⟨others ++ [last], [], (List.append_nil _).symm, ?_, Or.inl (Nat.not_lt.mp hcost),
          fun d hd => absurd hd (Option.some_ne_none d).symm⟩
        rw [trim_concat, if_neg hcost]
        rfl

/-- What storing an entry does: it gives up others from the end until both bounds hold, and no more. -/
structure Puts (c : RenderCache) (entry : CacheEntry) (kept dropped : List CacheEntry) : Prop where
  split : without c.entries entry.key = kept ++ dropped
  result : c.put entry.key entry.bitmap entry.cost = ((dropped.map CacheEntry.key).reverse,
    { c with entries := entry :: kept, bytes := costOf (entry :: kept) })
  room : kept.length < c.maxItems
  fits : costOf (entry :: kept) ≤ c.maxBytes ∨ kept = []
  next : ∀ d, dropped.head? = some d →
    c.maxItems ≤ kept.length + 1 ∨ c.maxBytes < costOf (entry :: (kept ++ [d]))

/-- A push and the trimming behind it, when no count of bytes reaches its limit. -/
theorem Pushes.puts {front pushed kept dropped : List CacheEntry} (hpush : Pushes c entry front pushed)
    (htrim : Trims c.maxBytes entry front kept dropped)
    (hcount : costOf (entry :: without c.entries entry.key) < UInt64.size) :
    Puts c entry kept (dropped ++ pushed) := by
  -- the count stays below its limit, so it is the cost of what was pushed
  have hcounted : min (c.bytesPushed (c.push entry).1 + entry.cost) byteCountLimit
      = costOf (entry :: front) := by
    rw [hpush.split, costOf_cons, costOf_append] at hcount
    rw [hpush.bytes, costOf_cons, Nat.add_comm]
    refine Nat.min_eq_left ?_
    rw [byteCountLimit]
    omega
  refine ⟨?_, ?_, ?_, htrim.fits, ?_⟩
  · rw [hpush.split, htrim.split, List.append_assoc]
  · rw [put_eq]
    simp only [hpush.entries, hpush.keys, hcounted, htrim.result, List.reverse_reverse,
      List.map_append, List.reverse_append]
  · have hroom := hpush.room
    rw [htrim.split, List.length_append] at hroom
    omega
  · intro d hd
    cases dropped with
    | nil =>
        -- nothing was trimmed, so the entry that was pushed out is the first one gone
        have hfull := hpush.full d hd
        rw [htrim.split, List.append_nil] at hfull
        exact Or.inl hfull
    | cons first rest => exact Or.inr (htrim.next d hd)

/-- A put splits the entries in those that are kept and those that are dropped, as long as their cost can be
    counted. -/
theorem exists_puts (h : Sound bounds c) (entry : CacheEntry)
    (hcount : costOf (entry :: without c.entries entry.key) < UInt64.size) :
    ∃ kept dropped, Puts c entry kept dropped := by
  obtain ⟨front, pushed, hpush⟩ := exists_pushes h entry
  obtain ⟨kept, dropped, htrim⟩ := exists_trims c.maxBytes entry front
  exact ⟨kept, dropped ++ pushed, hpush.puts htrim hcount⟩

/-- Storing an entry, as the list does it. -/
theorem put_sound (h : Sound bounds c) (entry : CacheEntry)
    (hcount : costOf (entry :: without c.entries entry.key) < UInt64.size) :
    let after := c.put entry.key entry.bitmap entry.cost
    (after.1, after.2.entries) = store bounds entry c.entries ∧ Sound bounds after.2 := by
  obtain ⟨kept, dropped, hputs⟩ := exists_puts h entry hcount
  have hfits : Fits bounds (entry :: kept) := by
    refine ⟨h.maxItems ▸ hputs.room, ?_⟩
    rw [← h.maxBytes]
    cases hputs.fits with
    | inl hcost => exact Or.inl hcost
    | inr hnil => exact Or.inr (by rw [hnil]; rfl)
  have hnext : ∀ d, dropped.head? = some d → ¬ Fits bounds (entry :: (kept ++ [d])) := by
    rintro d hd ⟨hitems, hbytes⟩
    rw [List.length_cons, List.length_append, List.length_singleton] at hitems hbytes
    rw [← h.maxItems] at hitems
    rw [← h.maxBytes] at hbytes
    have := hputs.next d hd
    omega
  -- so there is room for what is kept, and the list stops at the same entry
  have hn : room bounds entry (kept ++ dropped) = kept.length := room_eq hfits hnext
  rw [hputs.result]
  refine ⟨?_, h.maxItems, h.maxBytes, rfl, ?_, hputs.room⟩
  · rw [store, hputs.split]
    simp only [hn, List.take_left, List.drop_left]
  · refine (nodup_cons_without entry h.nodup).sublist (List.Sublist.map _ ?_)
    rw [hputs.split]
    exact (List.sublist_append_left kept dropped).cons_cons entry

/-! ## Calls -/

/-- A call is answered as the list answers it. -/
theorem answer_sound (h : Sound bounds c) {call : CacheCall}
    (hcount : costOf (present c.entries call) < UInt64.size) :
    ((c.answer call).1, (c.answer call).2.entries) = Recency.answer bounds c.entries call ∧
      Sound bounds (c.answer call).2 := by
  cases call with
  | put key bitmap cost =>
      obtain ⟨hstore, hsound⟩ := put_sound h ⟨key, bitmap, cost⟩ hcount
      refine ⟨?_, hsound⟩
      rw [Recency.answer, ← hstore]
      rfl
  | insert key bitmap =>
      obtain ⟨hstore, hsound⟩ := put_sound h ⟨key, bitmap, bitmap.byteCost⟩ hcount
      refine ⟨?_, hsound⟩
      rw [Recency.answer, ← hstore]
      rfl
  | get key =>
      rw [answer, get, Recency.answer]
      cases hfind : entryOf c.entries key with
      | none =>
          rw [show c.find? key = none from hfind]
          exact ⟨rfl, h⟩
      | some e =>
          rw [show c.find? key = some e from hfind]
          obtain ⟨-, hperm⟩ := perm_of_entryOf h.nodup hfind
          refine ⟨rfl, h.maxItems, h.maxBytes, ?_, ?_, ?_⟩
          · exact h.bytes.trans (costOf_perm hperm).symm
          · exact (hperm.map CacheEntry.key).nodup_iff.mpr h.nodup
          · exact hperm.length_eq.trans_le h.items
  | contains key => exact ⟨rfl, h⟩
  | remove key =>
      rw [answer, remove, Recency.answer]
      cases hfind : entryOf c.entries key with
      | none =>
          rw [show c.find? key = none from hfind, without_of_entryOf_eq_none hfind]
          exact ⟨rfl, h⟩
      | some e =>
          rw [show c.find? key = some e from hfind]
          have hsub := without_sublist c.entries key
          refine ⟨rfl, h.maxItems, h.maxBytes, ?_, ?_, ?_⟩
          · show c.bytes - e.cost = costOf (without c.entries key)
            rw [h.bytes, costOf_without h.nodup hfind, Nat.add_sub_cancel_left]
          · exact h.nodup.sublist (hsub.map CacheEntry.key)
          · exact hsub.length_le.trans h.items

end RenderCache
end Formulary
