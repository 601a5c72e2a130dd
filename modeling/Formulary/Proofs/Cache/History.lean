import Formulary.Proofs.Cache.Calls

/-!
# Histories — a cache answers like the list by last use

A history is a list of calls on a cache that was empty at first. As long as no count of bytes
reaches its limit the cache answers all of it like the list of `Recency`, and what it holds can be
told from the log of calls and answers.

* `RenderCache.answers`, `RenderCache.log` — calls one after the other, and each with its answer.
* `RenderCache.leaves`, `RenderCache.latest` — what one call and a log leave under a key.
* `RenderCache.bitmap?_answer` — the cache holds what a call leaves.
* `RenderCache.answers_sound` — the same of a history, from one call by induction.
* `RenderCache.answers_eq_recency` — a cache answers like the list.
-/

namespace Formulary
namespace RenderCache

open Recency

/-- Answers calls one after the other. -/
def answers (c : RenderCache) : List CacheCall → List CacheAnswer × RenderCache
  | [] => ([], c)
  | call :: rest =>
    let later := (c.answer call).2.answers rest
    ((c.answer call).1 :: later.1, later.2)

variable {bounds : CacheBounds} {c : RenderCache} {entry : CacheEntry}

/-! ## What a call leaves -/

/-- What a call leaves under a key, by what was there. -/
def leaves (call : CacheCall) (answer : CacheAnswer) (key : RenderKey) (before : Option Bitmap) :
    Option Bitmap :=
  match call.entry? with
  | some entry =>
    if key = entry.key then some entry.bitmap else if key ∈ answer.keys then none else before
  | none => if call = .remove key then none else before

theorem leaves_of_ne {call : CacheCall} {answer : CacheAnswer} {key : RenderKey}
    (hkey : key ≠ call.key) (hkept : key ∉ answer.keys) (before : Option Bitmap) :
    leaves call answer key before = before := by
  cases call with
  | put other bitmap cost => exact (if_neg hkey).trans (if_neg hkept)
  | insert other bitmap => exact (if_neg hkey).trans (if_neg hkept)
  | get other => rfl
  | contains other => rfl
  | remove other =>
      refine if_neg fun heq => ?_
      cases heq
      exact hkey rfl

/-- What storing an entry leaves under a key. -/
theorem bitmap?_of_stores {after : RenderCache} {kept dropped : List CacheEntry}
    (hnodup : (c.entries.map CacheEntry.key).Nodup)
    (h : Stores bounds entry c.entries kept dropped) (hafter : after.entries = entry :: kept)
    (key : RenderKey) :
    after.bitmap? key = if key = entry.key then some entry.bitmap
      else if key ∈ (dropped.map CacheEntry.key).reverse then none else c.bitmap? key := by
  show (entryOf after.entries key).map CacheEntry.bitmap = _
  rw [hafter, entryOf_cons]
  by_cases hkey : key = entry.key
  · rw [if_pos hkey, if_pos hkey.symm]
    rfl
  rw [if_neg hkey, if_neg (Ne.symm hkey)]
  by_cases hdropped : key ∈ dropped.map CacheEntry.key
  · -- the key has no second entry among those that stay
    have hapart : (kept.map CacheEntry.key ++ dropped.map CacheEntry.key).Nodup := by
      rw [← List.map_append, ← h.others]
      exact hnodup.sublist ((without_sublist c.entries entry.key).map CacheEntry.key)
    have hkept : key ∉ kept.map CacheEntry.key := fun hmem =>
      (List.nodup_append.mp hapart).2.2 key hmem key hdropped rfl
    rw [if_pos (List.mem_reverse.mpr hdropped), entryOf_eq_none_of_not_mem hkept]
    rfl
  · rw [if_neg (fun hmem => hdropped (List.mem_reverse.mp hmem)),
      ← entryOf_append_of_not_mem kept hdropped, ← h.others, entryOf_without, if_neg hkey]
    rfl

/-- Storing an entry: what stays, what is given up and what comes back. -/
theorem answer_stores (h : Sound bounds c) {call : CacheCall}
    (hcount : costOf (present c.entries call) < UInt64.size) (hentry : call.entry? = some entry) :
    ∃ kept dropped, Stores bounds entry c.entries kept dropped ∧
      (c.answer call).1 = .evicted (dropped.map CacheEntry.key).reverse ∧
      (c.answer call).2.entries = entry :: kept := by
  have hstore : Recency.answer bounds c.entries call
      = (store bounds entry c.entries).map .evicted id := by
    cases call with
    | put key bitmap cost => cases hentry; rfl
    | insert key bitmap => cases hentry; rfl
    | get key => cases hentry
    | contains key => cases hentry
    | remove key => cases hentry
  obtain ⟨kept, dropped, hstores, heq⟩ := store_spec bounds entry c.entries
  have hanswer := (answer_sound h hcount).1
  rw [hstore, heq] at hanswer
  exact ⟨kept, dropped, hstores, congrArg Prod.fst hanswer, congrArg Prod.snd hanswer⟩

/-- What a call leaves under each key. -/
theorem bitmap?_answer (h : Sound bounds c) {call : CacheCall}
    (hcount : costOf (present c.entries call) < UInt64.size) (key : RenderKey) :
    (c.answer call).2.bitmap? key = leaves call (c.answer call).1 key (c.bitmap? key) := by
  cases hentry : call.entry? with
  | some entry =>
      obtain ⟨kept, dropped, hstores, hanswer, hafter⟩ := answer_stores h hcount hentry
      rw [bitmap?_of_stores h.nodup hstores hafter, leaves, hentry, hanswer]
      rfl
  | none =>
      rw [leaves, hentry]
      cases call with
      | put key bitmap cost => cases hentry
      | insert key bitmap => cases hentry
      | get other => exact bitmap?_get c other key
      | contains other => rfl
      | remove other =>
          rw [answer]
          show (c.remove other).2.bitmap? key = _
          simp only [bitmap?_remove, CacheCall.remove.injEq, eq_comm]

/-! ## Histories -/

/-- The bitmap stored last under a key that was neither taken out nor given up since, by the calls
    and their answers. -/
def latest (log : List (CacheCall × CacheAnswer)) (key : RenderKey) : Option Bitmap :=
  log.foldl (fun before turn => leaves turn.1 turn.2 key before) none

theorem answers_concat (c : RenderCache) (calls : List CacheCall) (call : CacheCall) :
    c.answers (calls ++ [call]) =
      ((c.answers calls).1 ++ [((c.answers calls).2.answer call).1],
        ((c.answers calls).2.answer call).2) := by
  induction calls generalizing c with
  | nil => rfl
  | cons first rest ih =>
      rw [List.cons_append, answers, ih]
      rfl

theorem length_answers (c : RenderCache) (calls : List CacheCall) :
    (c.answers calls).1.length = calls.length := by
  induction calls generalizing c with
  | nil => rfl
  | cons call rest ih => exact congrArg (· + 1) (ih _)

/-- The log of calls and answers. -/
def log (c : RenderCache) (calls : List CacheCall) : List (CacheCall × CacheAnswer) :=
  calls.zip (c.answers calls).1

theorem log_concat (c : RenderCache) (calls : List CacheCall) (call : CacheCall) :
    c.log (calls ++ [call]) = c.log calls ++ [(call, ((c.answers calls).2.answer call).1)] := by
  rw [log, answers_concat, List.zip_append (length_answers c calls).symm]
  rfl

/-- A history is answered as the list answers it, and the bitmap of a key is the one stored last. -/
theorem answers_sound {history : List CacheCall} (h : WithinCount bounds [] history) :
    (((new bounds).answers history).1, ((new bounds).answers history).2.entries)
        = Recency.answers bounds [] history ∧
      Sound bounds ((new bounds).answers history).2 ∧
      ∀ key, ((new bounds).answers history).2.bitmap? key
        = latest ((new bounds).log history) key := by
  -- a history grows at its end: the cache that it left answers one call more
  induction history using List.reverseRecOn with
  | nil => exact ⟨rfl, sound_new bounds, fun _ => rfl⟩
  | append_singleton earlier call ih =>
      obtain ⟨hearlier, hcount⟩ := withinCount_concat.mp h
      obtain ⟨hsame, hsound, hlatest⟩ := ih hearlier
      rw [← hsame] at hcount
      obtain ⟨hanswer, hnext⟩ := answer_sound hsound hcount
      rw [answers_concat]
      refine ⟨?_, hnext, ?_⟩
      · simp only [Recency.answers_concat, ← hsame, ← hanswer]
      · intro key
        rw [log_concat, latest, List.foldl_append, ← latest, ← hlatest]
        exact bitmap?_answer hsound hcount key

/-- **A cache answers like the list by last use**, over every history that the count of bytes can
    follow. What is found under a key is the bitmap stored last there that was neither taken out nor
    given up since; the entries that a further call gives up are the shortest run at the end of the
    others that brings the list within the bounds, in order; and no bitmap of another key changes,
    except that it may be given up. -/
theorem answers_eq_recency (bounds : CacheBounds) (history : List CacheCall)
    (h : WithinCount bounds [] history) :
    let run := (new bounds).answers history
    let last := latest ((new bounds).log history)
    (run.1 = (Recency.answers bounds [] history).1 ∧
      run.2.entries = (Recency.answers bounds [] history).2) ∧
    (∀ key, (run.2.get key).1 = last key ∧ run.2.contains key = (last key).isSome) ∧
    ∀ call, WithinCount bounds [] (history ++ [call]) →
      let next := run.2.answer call
      (∀ entry, call.entry? = some entry → ∃ kept dropped,
        Stores bounds entry run.2.entries kept dropped ∧
        next.1 = .evicted (dropped.map CacheEntry.key).reverse ∧
        next.2.entries = entry :: kept ∧ entry.key ∉ next.1.keys) ∧
      ∀ other, other ≠ call.key → other ∉ next.1.keys →
        next.2.bitmap? other = run.2.bitmap? other := by
  obtain ⟨hsame, hsound, hlatest⟩ := answers_sound h
  refine ⟨⟨congrArg Prod.fst hsame, congrArg Prod.snd hsame⟩, ?_, ?_⟩
  · intro key
    refine ⟨(get_fst _ key).trans (hlatest key), ?_⟩
    rw [← hlatest key, bitmap?, Option.isSome_map, contains]
  · intro call hcall
    have hcount := (withinCount_concat.mp hcall).2
    rw [← hsame] at hcount
    refine ⟨?_, ?_⟩
    · intro entry hentry
      obtain ⟨kept, dropped, hstores, hanswer, hafter⟩ := answer_stores hsound hcount hentry
      refine ⟨kept, dropped, hstores, hanswer, hafter, ?_⟩
      rw [hanswer]
      exact fun hmem => hstores.not_mem (List.mem_reverse.mp hmem)
    · intro other hother hkept
      rw [bitmap?_answer hsound hcount]
      exact leaves_of_ne hother hkept _

/-- Calls of which the last two give up entries, by the number and by the number and the cost. -/
def fourBitmaps : List CacheCall :=
  let key (location : String) : RenderKey := ⟨⟨0⟩, location⟩
  [.put (key "a") Bitmap.empty 16, .put (key "b") Bitmap.empty 16, .get (key "a"),
    .put (key "c") Bitmap.empty 8, .put (key "d") Bitmap.empty 100]

/-- The bitmap read last outlives the other; the costly one pushes out both that are left. -/
theorem answers_eq_recency_fourBitmaps :
    WithinCount ⟨2, 40⟩ [] fourBitmaps ∧
      ((new ⟨2, 40⟩).answers fourBitmaps).1 =
        [.evicted [], .evicted [], .bitmap (some Bitmap.empty), .evicted [⟨⟨0⟩, "b"⟩],
          .evicted [⟨⟨0⟩, "a"⟩, ⟨⟨0⟩, "c"⟩]] :=
  have hcount : WithinCount ⟨2, 40⟩ [] fourBitmaps := by decide +kernel
  ⟨hcount, (answers_eq_recency ⟨2, 40⟩ fourBitmaps hcount).1.1.trans (by decide +kernel)⟩

end RenderCache
end Formulary
