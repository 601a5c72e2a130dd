import Formulary.Proofs.Cache.History

/-!
# Accounting — when the count of bytes is the cost of the entries

Beside its entries a cache keeps a count of their bytes. Additions to the count stop at the greatest
number of 64 bits, but what was cut off there is taken away again when the entry leaves. So the
count may fall behind the entries, and then more of them stay than the bound on the cost allows; it
never runs ahead of them, and an empty cache counts from zero again.

* `RenderCache.after` — the cache that a history leaves.
* `RenderCache.Counting` — what holds of the count after every history.
* `RenderCache.Accounted` — the count is the cost, and the cost of several entries is within the bound.
* `RenderCache.Overflows` — at some call more is present than can be counted.
* `RenderCache.Settles`, `RenderCache.exists_settles` — what storing does to a count, right or wrong.
* `RenderCache.accounting_spec` — the count stays right exactly as long as nothing overflows.
-/

namespace Formulary
namespace RenderCache

open Recency

/-- The cache that a history leaves. -/
def after (bounds : CacheBounds) (history : List CacheCall) : RenderCache :=
  ((new bounds).answers history).2

/-- The cache with the count that it should have. -/
def recounted (c : RenderCache) : RenderCache := { c with bytes := costOf c.entries }

/-- The entries at a call, when room was made by their number and not yet by their cost. -/
def pushed (c : RenderCache) (call : CacheCall) : List CacheEntry :=
  match call.entry? with
  | some entry => (c.push entry).2
  | none => c.entries

/-- The count is the cost of the entries, as far as numbers go, and the cost of two entries or more
    is within the bound. -/
structure Accounted (c : RenderCache) : Prop where
  total : c.bytes = min (costOf c.entries) byteCountLimit
  budget : 2 ≤ c.size → costOf c.entries ≤ c.maxBytes

/-- At some call of a history the entries cost more than can be counted. -/
def Overflows (bounds : CacheBounds) (history : List CacheCall) : Prop :=
  ∃ front call, front ++ [call] <+: history ∧
    byteCountLimit < costOf ((after bounds front).pushed call)

/-- What holds of the count after every history: it is not ahead of the cost of the entries, it is a
    number of 64 bits, and it is within the bound unless there is one entry only. -/
structure Counting (bounds : CacheBounds) (c : RenderCache) : Prop where
  /-- All but the count is as it should be. -/
  recounted : Sound bounds c.recounted
  behind : c.bytes ≤ costOf c.entries
  limit : c.bytes ≤ byteCountLimit
  budget : 2 ≤ c.size → c.bytes ≤ c.maxBytes

variable {bounds : CacheBounds} {c : RenderCache} {entry : CacheEntry} {call : CacheCall}

theorem sound_iff_recounted :
    Sound bounds c ↔ Sound bounds c.recounted ∧ c.bytes = costOf c.entries := by
  constructor
  · intro h
    exact ⟨⟨h.maxItems, h.maxBytes, rfl, h.nodup, h.items⟩, h.bytes⟩
  · rintro ⟨h, hbytes⟩
    exact ⟨h.maxItems, h.maxBytes, hbytes, h.nodup, h.items⟩

theorem counting_new (bounds : CacheBounds) : Counting bounds (new bounds) :=
  ⟨sound_new bounds, Nat.le_refl 0, Nat.zero_le _, fun _ => Nat.zero_le _⟩

/-- A cache that has become empty is as good as new. -/
theorem Counting.eq_new (h : Counting bounds c) (hempty : c.entries = []) : c = new bounds := by
  obtain ⟨maxItems, maxBytes, entries, bytes⟩ := c
  have hItems : maxItems = max 1 bounds.maxItems := h.recounted.maxItems
  have hBytes : maxBytes = max 1 bounds.maxBytes := h.recounted.maxBytes
  have hbehind : bytes ≤ costOf entries := h.behind
  obtain rfl : entries = [] := hempty
  obtain rfl : bytes = 0 := Nat.le_zero.mp hbehind
  rw [hItems, hBytes, new]

/-! ## Storing -/

/-- What trimming does to any count: it gives up entries from the end and takes their cost off, until
    the count is within the bound or one entry is left. -/
theorem exists_trimmed (maxBytes bytes : Nat) (entry : CacheEntry) (others : List CacheEntry) :
    ∃ kept dropped, others = kept ++ dropped ∧
      (trim maxBytes bytes (entry :: others).reverse).2
        = ((entry :: kept).reverse, bytes - costOf dropped) ∧
      (bytes - costOf dropped ≤ maxBytes ∨ kept = []) := by
  -- from the end, where trimming begins
  induction others using List.reverseRecOn generalizing bytes with
  | nil => exact ⟨[], [], rfl, rfl, Or.inr rfl⟩
  | append_singleton others last ih =>
      rw [trim_concat]
      by_cases hover : bytes > maxBytes
      · obtain ⟨kept, dropped, hsplit, hresult, hfits⟩ := ih (bytes - last.cost)
        have hcost : bytes - last.cost - costOf dropped = bytes - costOf (dropped ++ [last]) := by
          rw [costOf_append, costOf_cons, costOf_nil]
          omega
        rw [hcost] at hresult hfits
        refine ⟨kept, dropped ++ [last], ?_, ?_, hfits⟩
        · rw [hsplit, List.append_assoc]
        · rw [if_pos hover]
          exact hresult
      · rw [if_neg hover]
        exact ⟨others ++ [last], [], (List.append_nil _).symm, rfl, Or.inl (Nat.not_lt.mp hover)⟩

/-- What storing an entry does, whatever the count: of the others `kept` stay, `dropped` are given up
    for their cost, and what made room by number is gone already. -/
structure Settles (c : RenderCache) (entry : CacheEntry) (kept dropped : List CacheEntry) :
    Prop where
  pushed : (c.push entry).2 = entry :: (kept ++ dropped)
  /-- The count that there should be for the others. -/
  others : c.recounted.bytesPushed (c.push entry).1 = costOf (kept ++ dropped)
  result : (c.put entry.key entry.bitmap entry.cost).2 =
    { c with
      entries := entry :: kept
      bytes := min (c.bytesPushed (c.push entry).1 + entry.cost) byteCountLimit - costOf dropped }
  fits : min (c.bytesPushed (c.push entry).1 + entry.cost) byteCountLimit - costOf dropped
    ≤ c.maxBytes ∨ kept = []
  stays : kept.Sublist (without c.entries entry.key)
  room : kept.length < c.maxItems

/-- Room by number is made without a look at the count, so it is made as in the cache with the count
    that it should have. -/
theorem exists_settles (h : Sound bounds c.recounted) (entry : CacheEntry) :
    ∃ kept dropped, Settles c entry kept dropped := by
  obtain ⟨front, gone, hpush⟩ := exists_pushes h entry
  obtain ⟨kept, dropped, hsplit, htrim, hfits⟩ := exists_trimmed c.maxBytes
    (min (c.bytesPushed (c.push entry).1 + entry.cost) byteCountLimit) entry front
  have hpushed : (c.push entry).2 = entry :: front := hpush.entries
  have hroom : front.length < c.maxItems := hpush.room
  refine ⟨kept, dropped, ?_, ?_, ?_, hfits, ?_, ?_⟩
  · rw [hpushed, hsplit]
  · rw [← hsplit]
    exact hpush.bytes
  · rw [put_eq]
    simp only [hpushed, htrim, List.reverse_reverse]
  · have hothers : without c.entries entry.key = front ++ gone := hpush.split
    rw [hothers, hsplit, List.append_assoc]
    exact List.sublist_append_left kept _
  · rw [hsplit, List.length_append] at hroom
    omega

theorem bytesPushed_le (h : c.bytes ≤ costOf c.entries) (old : Option CacheEntry) :
    c.bytesPushed old ≤ c.recounted.bytesPushed old := by
  cases old with
  | none => exact h
  | some e => exact Nat.sub_le_sub_right h e.cost

/-- Storing an entry keeps what holds of the count. -/
theorem Counting.put (h : Counting bounds c) (entry : CacheEntry) :
    Counting bounds (c.put entry.key entry.bitmap entry.cost).2 := by
  obtain ⟨kept, dropped, hsettles⟩ := exists_settles h.recounted entry
  have hcount := bytesPushed_le h.behind (c.push entry).1
  rw [hsettles.others, costOf_append] at hcount
  rw [hsettles.result]
  refine ⟨⟨h.recounted.maxItems, h.recounted.maxBytes, rfl, ?_, hsettles.room⟩, ?_, ?_, ?_⟩
  · exact (nodup_cons_without entry h.recounted.nodup).sublist
      ((hsettles.stays.cons_cons entry).map CacheEntry.key)
  · show min _ _ - costOf dropped ≤ costOf (entry :: kept)
    rw [costOf_cons]
    omega
  · exact (Nat.sub_le _ _).trans (Nat.min_le_right _ _)
  · intro hsize
    rcases hsettles.fits with hfits | rfl
    · exact hfits
    · exact absurd hsize (by simp [size])

/-- Storing an entry where the count is right: what is present is counted as far as numbers go, and
    then the cost of what is given up is taken off. -/
theorem exists_settled (h : Sound bounds c) (entry : CacheEntry) :
    let next := (c.put entry.key entry.bitmap entry.cost).2
    ∃ kept dropped, (c.push entry).2 = entry :: (kept ++ dropped) ∧ next.entries = entry :: kept ∧
      next.bytes = min (costOf (c.push entry).2) byteCountLimit - costOf dropped ∧
      costOf (kept ++ dropped) ≤ c.bytes := by
  obtain ⟨hrecounted, hbytes⟩ := sound_iff_recounted.mp h
  obtain ⟨kept, dropped, hsettles⟩ := exists_settles hrecounted entry
  have hothers : c.bytesPushed (c.push entry).1 = costOf (kept ++ dropped) := by
    rw [← hsettles.others, recounted, ← hbytes]
  refine ⟨kept, dropped, hsettles.pushed, by rw [hsettles.result], ?_, ?_⟩
  · rw [hsettles.result, hsettles.pushed, costOf_cons, ← hothers, Nat.add_comm]
  · rw [← hothers]
    cases (c.push entry).1 with
    | none => exact Nat.le_refl _
    | some old => exact Nat.sub_le _ _

/-- When what is present can be counted, a right count stays right. -/
theorem bytes_put (h : Sound bounds c) (hcount : costOf (c.push entry).2 ≤ byteCountLimit) :
    let next := (c.put entry.key entry.bitmap entry.cost).2
    next.bytes = costOf next.entries := by
  obtain ⟨kept, dropped, hpushed, hentries, hbytes, -⟩ := exists_settled h entry
  show _ = costOf _
  rw [hpushed, costOf_cons, costOf_append] at hcount hbytes
  rw [hbytes, hentries, costOf_cons]
  omega

/-- When it cannot be counted, the count goes wrong at once: either it is less than the cost of what
    stays, or nothing was given up although the entries are beyond every bound. -/
theorem not_accounted_put (h : Sound bounds c) (hlimit : c.bytes ≤ byteCountLimit)
    (hbound : c.maxBytes ≤ byteCountLimit) (hcost : entry.cost ≤ byteCountLimit)
    (hcount : byteCountLimit < costOf (c.push entry).2) :
    ¬ Accounted (c.put entry.key entry.bitmap entry.cost).2 := by
  obtain ⟨kept, dropped, hpushed, hentries, hbytes, hothers⟩ := exists_settled h entry
  rintro ⟨htotal, hbudget⟩
  rw [hpushed, costOf_cons, costOf_append] at hcount hbytes
  rw [costOf_append] at hothers
  rw [hbytes, hentries, costOf_cons] at htotal
  -- the count can only be right when nothing that costs was given up
  have hdropped : costOf dropped = 0 := by omega
  have hkept : kept ≠ [] := by
    rintro rfl
    rw [costOf_nil] at hcount
    omega
  -- but then two entries or more stay beyond the bound
  have hsize : 2 ≤ (c.put entry.key entry.bitmap entry.cost).2.size := by
    have := List.length_pos_iff.mpr hkept
    rw [size, hentries, List.length_cons]
    omega
  have hover := hbudget hsize
  have hmaxBytes : (c.put entry.key entry.bitmap entry.cost).2.maxBytes = c.maxBytes := rfl
  rw [hentries, costOf_cons, hmaxBytes] at hover
  omega

/-! ## Calls -/

/-- A call that stores is the storing of its entry. -/
theorem answer_of_entry (h : call.entry? = some entry) :
    (c.answer call).2 = (c.put entry.key entry.bitmap entry.cost).2 ∧
      c.pushed call = (c.push entry).2 := by
  rw [pushed, h]
  refine ⟨?_, rfl⟩
  cases call with
  | put key bitmap cost => cases h; rfl
  | insert key bitmap => cases h; rfl
  | get key => cases h
  | contains key => cases h
  | remove key => cases h

/-- A call that stores nothing takes one entry out at most, and its cost with it. -/
theorem answer_of_no_entry (hnodup : (c.entries.map CacheEntry.key).Nodup)
    (h : call.entry? = none) :
    ∃ gone, ((c.answer call).2.entries ++ gone).Perm c.entries ∧
      (c.answer call).2 =
        { c with entries := (c.answer call).2.entries, bytes := c.bytes - costOf gone } := by
  cases call with
  | put key bitmap cost => cases h
  | insert key bitmap => cases h
  | contains key => exact ⟨[], by rw [List.append_nil]; rfl, rfl⟩
  | get key =>
      refine ⟨[], ?_⟩
      rw [List.append_nil, answer, get]
      cases hfind : c.find? key with
      | none => exact ⟨List.Perm.refl _, rfl⟩
      | some e => exact ⟨(perm_of_entryOf hnodup hfind).2, rfl⟩
  | remove key =>
      rw [answer, remove]
      cases hfind : c.find? key with
      | none => exact ⟨[], by rw [List.append_nil]; exact List.Perm.refl _, rfl⟩
      | some e =>
          refine ⟨[e], List.perm_append_comm.trans (perm_of_entryOf hnodup hfind).2, ?_⟩
          rw [costOf_cons, costOf_nil]
          rfl

/-- Every call keeps what holds of the count. -/
theorem counting_answer (h : Counting bounds c) (call : CacheCall) :
    Counting bounds (c.answer call).2 := by
  cases hentry : call.entry? with
  | some entry =>
      rw [(answer_of_entry hentry).1]
      exact h.put entry
  | none =>
      obtain ⟨gone, hperm, hresult⟩ := answer_of_no_entry (c := c) h.recounted.nodup hentry
      have hcost := costOf_perm hperm
      rw [costOf_append] at hcost
      have hfewer : (c.answer call).2.entries.length ≤ c.entries.length := by
        rw [← hperm.length_eq, List.length_append]
        exact Nat.le_add_right _ _
      have hbehind := h.behind
      rw [hresult]
      refine ⟨⟨h.recounted.maxItems, h.recounted.maxBytes, rfl, ?_, ?_⟩, ?_, ?_, ?_⟩
      · have hnodup := (hperm.map CacheEntry.key).nodup_iff.mpr h.recounted.nodup
        rw [List.map_append] at hnodup
        exact (List.nodup_append.mp hnodup).1
      · exact hfewer.trans h.recounted.items
      · show c.bytes - costOf gone ≤ costOf (c.answer call).2.entries
        omega
      · exact (Nat.sub_le _ _).trans h.limit
      · intro hsize
        exact (Nat.sub_le _ _).trans (h.budget (hsize.trans hfewer))

/-- A call at which what is present can be counted keeps a right count right. -/
theorem sound_answer (hcounting : Counting bounds c) (h : Sound bounds c)
    (hcount : costOf (c.pushed call) ≤ byteCountLimit) : Sound bounds (c.answer call).2 := by
  refine sound_iff_recounted.mpr ⟨(counting_answer hcounting call).recounted, ?_⟩
  cases hentry : call.entry? with
  | some entry =>
      obtain ⟨hanswer, hpushed⟩ := answer_of_entry (c := c) hentry
      rw [hpushed] at hcount
      rw [hanswer]
      exact bytes_put h hcount
  | none =>
      obtain ⟨gone, hperm, hresult⟩ := answer_of_no_entry h.nodup hentry
      have hcost := costOf_perm hperm
      rw [costOf_append, ← h.bytes] at hcost
      rw [hresult]
      show c.bytes - costOf gone = costOf (c.answer call).2.entries
      omega

/-! ## Histories -/

theorem after_concat (bounds : CacheBounds) (history : List CacheCall) (call : CacheCall) :
    after bounds (history ++ [call]) = ((after bounds history).answer call).2 := by
  rw [after, answers_concat, after]

/-- What holds of the count after every history. -/
theorem counting_after (bounds : CacheBounds) (history : List CacheCall) :
    Counting bounds (after bounds history) := by
  induction history using List.reverseRecOn with
  | nil => exact counting_new bounds
  | append_singleton earlier call ih =>
      rw [after_concat]
      exact counting_answer ih call

theorem overflows_concat {history : List CacheCall} :
    Overflows bounds (history ++ [call]) ↔
      Overflows bounds history ∨ byteCountLimit < costOf ((after bounds history).pushed call) := by
  constructor
  · rintro ⟨front, other, hfront, hcount⟩
    rcases List.prefix_concat_iff.mp hfront with heq | hearlier
    · obtain ⟨rfl, hcall⟩ := List.append_inj' heq rfl
      obtain rfl : other = call := List.singleton_inj.mp hcall
      exact Or.inr hcount
    · exact Or.inl ⟨front, other, hearlier, hcount⟩
  · rintro (⟨front, other, hfront, hcount⟩ | hcount)
    · exact ⟨front, other, hfront.trans (List.prefix_append history [call]), hcount⟩
    · exact ⟨history, call, List.prefix_refl _, hcount⟩

/-- As long as nothing overflows the count is right. -/
theorem sound_after {history : List CacheCall} (h : ¬ Overflows bounds history) :
    Sound bounds (after bounds history) := by
  induction history using List.reverseRecOn with
  | nil => exact sound_new bounds
  | append_singleton earlier call ih =>
      rw [overflows_concat, not_or] at h
      rw [after_concat]
      exact sound_answer (counting_after bounds earlier) (ih h.1) (Nat.not_lt.mp h.2)

theorem Counting.accounted (h : Counting bounds c) (hsound : Sound bounds c) : Accounted c := by
  have hlimit := h.limit
  rw [hsound.bytes] at hlimit
  refine ⟨?_, ?_⟩
  · rw [Nat.min_eq_left hlimit, hsound.bytes]
  · intro hsize
    rw [← hsound.bytes]
    exact h.budget hsize

/-- The first call at which something overflows leaves a wrong count. -/
theorem exists_not_accounted {history : List CacheCall} (hbound : bounds.maxBytes ≤ byteCountLimit)
    (hcosts : ∀ entry ∈ history.filterMap CacheCall.entry?, entry.cost ≤ byteCountLimit)
    (h : Overflows bounds history) :
    ∃ front, front <+: history ∧ ¬ Accounted (after bounds front) := by
  induction history using List.reverseRecOn with
  | nil =>
      obtain ⟨front, call, hfront, -⟩ := h
      have := hfront.length_le
      rw [List.length_append] at this
      exact absurd this (by simp)
  | append_singleton earlier call ih =>
      by_cases hearlier : Overflows bounds earlier
      · rw [List.filterMap_append] at hcosts
        obtain ⟨front, hfront, hwrong⟩ :=
          ih (fun entry hentry => hcosts entry (List.mem_append_left _ hentry)) hearlier
        exact ⟨front, hfront.trans (List.prefix_append earlier [call]), hwrong⟩
      · have hcount := (overflows_concat.mp h).resolve_left hearlier
        have hsound := sound_after hearlier
        have hcounting := counting_after bounds earlier
        refine ⟨earlier ++ [call], List.prefix_refl _, ?_⟩
        rw [after_concat]
        cases hentry : call.entry? with
        | some entry =>
            obtain ⟨hanswer, hpushed⟩ := answer_of_entry (c := after bounds earlier) hentry
            rw [hpushed] at hcount
            rw [hanswer]
            refine not_accounted_put hsound hcounting.limit ?_ ?_ hcount
            · rw [hsound.maxBytes]
              exact Nat.max_le.mpr ⟨by decide, hbound⟩
            · exact hcosts entry (List.mem_filterMap.mpr
                ⟨call, List.mem_append_right _ (List.mem_singleton_self call), hentry⟩)
        | none =>
            -- without a new entry nothing can overflow
            rw [pushed, hentry] at hcount
            have := hcounting.limit
            rw [hsound.bytes] at this
            exact absurd hcount (Nat.not_lt.mpr this)

/-- **The count of bytes is right exactly as long as nothing overflows.** Whatever the bounds and the
    calls, it is never ahead of the cost of the entries, two entries or more are within the bound as
    far as the count goes, and a cache that has become empty is as good as new. It is the cost of the
    entries after every call of a history, and keeps several of them within the bound, if and only if
    at no call more is present than 64 bits can count. -/
theorem accounting_spec (bounds : CacheBounds) (history : List CacheCall)
    (hbound : bounds.maxBytes ≤ byteCountLimit)
    (hcosts : ∀ entry ∈ history.filterMap CacheCall.entry?, entry.cost ≤ byteCountLimit) :
    let c := after bounds history
    (c.bytes ≤ min (costOf c.entries) byteCountLimit ∧
      (2 ≤ c.size → c.bytes ≤ max 1 bounds.maxBytes) ∧ (c.isEmpty = true → c = new bounds)) ∧
    ((∀ front, front <+: history → Accounted (after bounds front)) ↔ ¬ Overflows bounds history) := by
  have hcounting := counting_after bounds history
  refine ⟨⟨Nat.le_min.mpr ⟨hcounting.behind, hcounting.limit⟩, ?_, ?_⟩, ?_, ?_⟩
  · rw [← hcounting.recounted.maxBytes]
    exact hcounting.budget
  · intro hempty
    exact hcounting.eq_new (List.isEmpty_iff.mp hempty)
  · intro hall hoverflows
    obtain ⟨front, hfront, hwrong⟩ := exists_not_accounted hbound hcosts hoverflows
    exact hwrong (hall front hfront)
  · intro hnone front hfront
    have hfits : ¬ Overflows bounds front := by
      rintro ⟨earlier, call, hearlier, hcount⟩
      exact hnone ⟨earlier, call, hearlier.trans hfront, hcount⟩
    exact (counting_after bounds front).accounted (sound_after hfits)

/-- Two costly bitmaps and a small one. -/
def costlyBitmaps : List CacheCall :=
  let key (location : String) : RenderKey := ⟨⟨0⟩, location⟩
  [.put (key "a") Bitmap.empty byteCountLimit, .put (key "b") Bitmap.empty byteCountLimit,
    .put (key "c") Bitmap.empty 1]

/-- The second bitmap overflows the count. The first one goes and takes with it what was never
    counted, so the second counts as nothing; the third finds room although the two together cost more
    than 64 bits can count. -/
theorem accounting_spec_costly :
    (100 ≤ byteCountLimit ∧
      ∀ entry ∈ costlyBitmaps.filterMap CacheCall.entry?, entry.cost ≤ byteCountLimit) ∧
    let two := after ⟨10, 100⟩ (costlyBitmaps.take 2)
    let three := after ⟨10, 100⟩ costlyBitmaps
    Overflows ⟨10, 100⟩ costlyBitmaps ∧
    (two.bytes = 0 ∧ costOf two.entries = byteCountLimit) ∧
    (three.bytes = 1 ∧ three.size = 2 ∧ costOf three.entries = byteCountLimit + 1) := by
  have hbound : 100 ≤ byteCountLimit := by decide
  have hcosts : ∀ entry ∈ costlyBitmaps.filterMap CacheCall.entry?,
      entry.cost ≤ byteCountLimit := by decide +kernel
  have htwo : (after ⟨10, 100⟩ (costlyBitmaps.take 2)).bytes = 0 ∧
      costOf (after ⟨10, 100⟩ (costlyBitmaps.take 2)).entries = byteCountLimit := by
    decide +kernel
  refine ⟨⟨hbound, hcosts⟩, ?_, htwo, by decide +kernel⟩
  by_contra hnone
  have hall := (accounting_spec ⟨10, 100⟩ costlyBitmaps hbound hcosts).2.mpr hnone
  have htotal := (hall (costlyBitmaps.take 2) (List.take_prefix 2 costlyBitmaps)).total
  rw [htwo.1, htwo.2, Nat.min_self] at htotal
  exact absurd htotal (by decide)

end RenderCache
end Formulary
