import Formulary.Proofs.Cache
import Mathlib.Data.Nat.Find

/-!
# Recency — the cache as a list by last use

What a cache answers depends on the order of the last uses and the costs alone. The list here keeps
that order and nothing else; it has no count of bytes and it knows one rule for giving up entries
where the cache has two, the bound on the number at the push and the bound on the cost after it.

* `CacheCall`, `CacheAnswer` — what is asked of a cache and what comes back.
* `Recency.Fits` — the bounds, on a list of entries.
* `Recency.room`, `Recency.store` — as many of the others stay as fit behind a new entry.
* `Recency.answer`, `Recency.answers` — what the list answers to a call, and to a history of them.
* `Recency.WithinCount` — the costs that are present at once can be counted in 64 bits.
* `Recency.room_eq` — the number that stay, from the first entry that would not fit.
* `Recency.Stores`, `Recency.store_spec` — the entries given up are the shortest run that will do.
-/

namespace Formulary

/-- A call on a cache. -/
inductive CacheCall where
  | put (key : RenderKey) (bitmap : Bitmap) (cost : Nat)
  | insert (key : RenderKey) (bitmap : Bitmap)
  | get (key : RenderKey)
  | contains (key : RenderKey)
  | remove (key : RenderKey)
deriving DecidableEq

/-- What a cache answers: the keys given up, a bitmap, or whether there is one. -/
inductive CacheAnswer where
  | evicted (keys : List RenderKey)
  | bitmap (found : Option Bitmap)
  | contained (found : Bool)
deriving DecidableEq

/-- The key that a call is about. -/
def CacheCall.key : CacheCall → RenderKey
  | .put key _ _ | .insert key _ | .get key | .contains key | .remove key => key

/-- The entry that a call stores. -/
def CacheCall.entry? : CacheCall → Option CacheEntry
  | .put key bitmap cost => some ⟨key, bitmap, cost⟩
  | .insert key bitmap => some ⟨key, bitmap, bitmap.byteCost⟩
  | .get _ | .contains _ | .remove _ => none

/-- The keys that an answer gives up, in order. -/
def CacheAnswer.keys : CacheAnswer → List RenderKey
  | .evicted keys => keys
  | .bitmap _ | .contained _ => []

namespace Recency

open RenderCache

/-- The cost of entries together. -/
def costOf (entries : List CacheEntry) : Nat := (entries.map CacheEntry.cost).sum

@[simp]
theorem costOf_nil : costOf [] = 0 := rfl

@[simp]
theorem costOf_cons (e : CacheEntry) (rest : List CacheEntry) :
    costOf (e :: rest) = e.cost + costOf rest := by
  rw [costOf, List.map_cons, List.sum_cons, costOf]

@[simp]
theorem costOf_append (front back : List CacheEntry) :
    costOf (front ++ back) = costOf front + costOf back := by
  rw [costOf, List.map_append, List.sum_append, costOf, costOf]

/-- Entries within the bounds: not too many, and not too costly unless there is one only. -/
def Fits (bounds : CacheBounds) (entries : List CacheEntry) : Prop :=
  entries.length ≤ max 1 bounds.maxItems ∧
    (costOf entries ≤ max 1 bounds.maxBytes ∨ entries.length = 1)

instance (bounds : CacheBounds) (entries : List CacheEntry) : Decidable (Fits bounds entries) :=
  inferInstanceAs (Decidable (_ ∧ _))

/-- How many of the others fit behind an entry. -/
def room (bounds : CacheBounds) (entry : CacheEntry) (others : List CacheEntry) : Nat :=
  Nat.findGreatest (fun n => Fits bounds (entry :: others.take n)) others.length

/-- Stores an entry in front; the others that do not fit behind it are given up, the last first. -/
def store (bounds : CacheBounds) (entry : CacheEntry) (entries : List CacheEntry) :
    List RenderKey × List CacheEntry :=
  let others := without entries entry.key
  let n := room bounds entry others
  (((others.drop n).map CacheEntry.key).reverse, entry :: others.take n)

/-- Answers a call. -/
def answer (bounds : CacheBounds) (entries : List CacheEntry) :
    CacheCall → CacheAnswer × List CacheEntry
  | .put key bitmap cost => (store bounds ⟨key, bitmap, cost⟩ entries).map .evicted id
  | .insert key bitmap => (store bounds ⟨key, bitmap, bitmap.byteCost⟩ entries).map .evicted id
  | .get key =>
    match entryOf entries key with
    | some e => (.bitmap (some e.bitmap), e :: without entries key)
    | none => (.bitmap none, entries)
  | .contains key => (.contained (entryOf entries key).isSome, entries)
  | .remove key => (.bitmap ((entryOf entries key).map CacheEntry.bitmap), without entries key)

/-! ## What fits -/

variable {bounds : CacheBounds} {entry : CacheEntry} {kept dropped : List CacheEntry}

/-- An entry alone fits, whatever it costs. -/
theorem fits_alone (bounds : CacheBounds) (entry : CacheEntry) : Fits bounds [entry] :=
  ⟨Nat.le_max_left 1 bounds.maxItems, Or.inr rfl⟩

/-- With fewer entries the bounds still hold. -/
theorem Fits.of_append (dropped : List CacheEntry) (h : Fits bounds (entry :: (kept ++ dropped))) :
    Fits bounds (entry :: kept) := by
  obtain ⟨hitems, hbytes⟩ := h
  rw [List.length_cons, List.length_append] at hitems hbytes
  refine ⟨by rw [List.length_cons]; omega, ?_⟩
  cases hbytes with
  | inl hcost =>
      rw [costOf_cons, costOf_append] at hcost
      exact Or.inl (by rw [costOf_cons]; omega)
  | inr hone => exact Or.inr (by rw [List.length_cons]; omega)

/-- As many stay as fit, when the next one would not. -/
theorem room_eq (hfits : Fits bounds (entry :: kept))
    (hnext : ∀ d, dropped.head? = some d → ¬ Fits bounds (entry :: (kept ++ [d]))) :
    room bounds entry (kept ++ dropped) = kept.length := by
  refine Nat.findGreatest_eq_iff.mpr ⟨?_, ?_, ?_⟩
  · rw [List.length_append]
    omega
  · intro _
    rwa [List.take_left]
  · intro n hmore hn hfit
    -- one more than are kept would fit as well
    cases dropped with
    | nil =>
        rw [List.append_nil] at hn
        omega
    | cons d rest =>
        refine hnext d rfl (Fits.of_append (rest.take (n - kept.length - 1)) ?_)
        have htake : (kept ++ d :: rest).take n
            = (kept ++ [d]) ++ rest.take (n - kept.length - 1) := by
          rw [List.take_append, List.take_of_length_le (by omega),
            List.take_cons (by omega), List.append_assoc, List.singleton_append]
        rwa [htake] at hfit

/-- Those for which there is room fit. -/
theorem fits_room (bounds : CacheBounds) (entry : CacheEntry) (others : List CacheEntry) :
    Fits bounds (entry :: others.take (room bounds entry others)) :=
  Nat.findGreatest_spec (P := fun n => Fits bounds (entry :: others.take n)) (Nat.zero_le _)
    (by rw [List.take_zero]; exact fits_alone bounds entry)

/-! ## What is given up -/

/-- What storing an entry does to a list: the entry comes first, behind it stay the others but the
    last `dropped` ones, whose keys are given up from the end. No shorter run would have done. -/
structure Stores (bounds : CacheBounds) (entry : CacheEntry) (before : List CacheEntry)
    (kept dropped : List CacheEntry) : Prop where
  /-- The others stay or are given up. -/
  others : without before entry.key = kept ++ dropped
  /-- What stays is within the bounds. -/
  fits : Fits bounds (entry :: kept)
  /-- A run at the end after which the bounds hold is at least as long. -/
  shortest : ∀ front back, without before entry.key = front ++ back →
    Fits bounds (entry :: front) → dropped.length ≤ back.length

/-- An entry of another key is none of the key. -/
theorem key_not_mem_without (entries : List CacheEntry) (key : RenderKey) :
    key ∉ (without entries key).map CacheEntry.key := by
  rw [List.mem_map]
  rintro ⟨e, he, hkey⟩
  have hne := (List.mem_filter.mp he).2
  rw [hkey, bne_self_eq_false] at hne
  cases hne

/-- What was just stored is not among what was dropped for it. -/
theorem Stores.not_mem {before : List CacheEntry} (h : Stores bounds entry before kept dropped) :
    entry.key ∉ dropped.map CacheEntry.key := by
  intro hmem
  refine key_not_mem_without before entry.key ?_
  rw [h.others, List.map_append]
  exact List.mem_append_right _ hmem

/-- The list gives up the shortest run that will do. -/
theorem store_spec (bounds : CacheBounds) (entry : CacheEntry) (before : List CacheEntry) :
    ∃ kept dropped, Stores bounds entry before kept dropped ∧
      store bounds entry before = ((dropped.map CacheEntry.key).reverse, entry :: kept) := by
  refine ⟨(without before entry.key).take _, (without before entry.key).drop _,
    ⟨(List.take_append_drop _ _).symm, fits_room bounds entry _, ?_⟩, rfl⟩
  intro front back hothers hfits
  -- there is room for all of the front
  have hroom : front.length ≤ room bounds entry (without before entry.key) := by
    refine Nat.le_findGreatest ?_ ?_
    · rw [hothers, List.length_append]
      omega
    · rwa [hothers, List.take_left]
  rw [List.length_drop, hothers, List.length_append]
  rw [hothers] at hroom
  omega

/-! ## Histories -/

/-- Answers calls one after the other. -/
def answers (bounds : CacheBounds) (entries : List CacheEntry) :
    List CacheCall → List CacheAnswer × List CacheEntry
  | [] => ([], entries)
  | call :: rest =>
    let later := answers bounds (answer bounds entries call).2 rest
    ((answer bounds entries call).1 :: later.1, later.2)

/-- The answers to some calls and one more: the last one is given by the entries that the others left. -/
theorem answers_concat (bounds : CacheBounds) (entries : List CacheEntry) (calls : List CacheCall)
    (call : CacheCall) :
    answers bounds entries (calls ++ [call]) =
      let earlier := answers bounds entries calls
      (earlier.1 ++ [(answer bounds earlier.2 call).1], (answer bounds earlier.2 call).2) := by
  induction calls generalizing entries with
  | nil => rfl
  | cons first rest ih =>
      rw [List.cons_append, answers, ih]
      rfl

/-- The entries present at a call, with the one that it stores. -/
def present (entries : List CacheEntry) (call : CacheCall) : List CacheEntry :=
  match call.entry? with
  | some entry => entry :: without entries entry.key
  | none => entries

/-- The costs present at each call can be counted in 64 bits. -/
def WithinCount (bounds : CacheBounds) (entries : List CacheEntry) : List CacheCall → Prop
  | [] => True
  | call :: rest =>
    costOf (present entries call) < UInt64.size ∧
      WithinCount bounds (answer bounds entries call).2 rest

/-- Whether costs can be counted is found by answering the calls. -/
instance decidableWithinCount (bounds : CacheBounds) :
    (entries : List CacheEntry) → (calls : List CacheCall) →
      Decidable (WithinCount bounds entries calls)
  | _, [] => inferInstanceAs (Decidable True)
  | entries, call :: rest =>
    have : Decidable (WithinCount bounds (answer bounds entries call).2 rest) :=
      decidableWithinCount bounds _ rest
    inferInstanceAs (Decidable (_ ∧ _))

/-- The costs can be counted over some calls and one more if they can be over the calls, and then at the
    one. -/
theorem withinCount_concat {bounds : CacheBounds} {entries : List CacheEntry}
    {calls : List CacheCall} {call : CacheCall} :
    WithinCount bounds entries (calls ++ [call]) ↔
      WithinCount bounds entries calls ∧
        costOf (present (answers bounds entries calls).2 call) < UInt64.size := by
  induction calls generalizing entries with
  | nil =>
      show _ ∧ True ↔ True ∧ _
      rw [and_true, true_and]
      rfl
  | cons first rest ih =>
      show _ ∧ WithinCount bounds _ (rest ++ [call]) ↔ (_ ∧ WithinCount bounds _ rest) ∧ _
      rw [ih, and_assoc]
      rfl

end Recency
end Formulary
