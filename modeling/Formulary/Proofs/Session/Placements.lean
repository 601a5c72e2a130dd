import Formulary.Proofs.Cache.Accounting
import Formulary.Proofs.Session.Overlap

/-!
# Placements — every place of a document once, and looking changes nothing

The placements of a document are looked up one after the other, formulas first, and each look may read a
bitmap of the cache that all documents share. Reading puts the bitmap in front of the others and leaves
everything else as it is, so no look has anything to do with what the others find. What is found is put in
range order; no two places have one range, since the extraction never holds a formula and an image at one.

* `RenderCache.exists_perm_readAll` — reading changes the order of the entries and nothing else.
* `counting_play` — the cache of a session is one that no key has two entries in.
* `play_queries` — the session after any looks: some keys were read.
* `Undisturbed`, `undisturbed_readAll` — what reading leaves as it is.
* `placements_fst`, `Placement.pairwise_sort` — the placements, and their order.
* `Lists`, `lists_placements` — each place once, with its content and what it resolves to.
* `placements_spec` — any document in any run, and any looks after it.
-/

namespace Formulary

open Render Markup

/-! ## Reading bitmaps -/

namespace RenderCache

variable {c : RenderCache}

/-- Reading puts the entries in another order and changes nothing else. -/
theorem exists_perm_get (hnodup : (c.entries.map CacheEntry.key).Nodup) (key : RenderKey) :
    ∃ entries, entries.Perm c.entries ∧ (c.get key).2 = { c with entries } := by
  rw [get]
  cases hfind : c.find? key with
  | none => exact ⟨c.entries, .refl _, rfl⟩
  | some e => exact ⟨_, (perm_of_entryOf hnodup hfind).2, rfl⟩

theorem exists_perm_readAll (hnodup : (c.entries.map CacheEntry.key).Nodup)
    (keys : List RenderKey) :
    ∃ entries, entries.Perm c.entries ∧ c.readAll keys = { c with entries } := by
  induction keys generalizing c with
  | nil => exact ⟨c.entries, .refl _, rfl⟩
  | cons key rest ih =>
      obtain ⟨first, hfirst, hget⟩ := exists_perm_get hnodup key
      have hnodup' : ((c.get key).2.entries.map CacheEntry.key).Nodup := by
        rw [hget]
        exact (hfirst.map CacheEntry.key).nodup_iff.mpr hnodup
      obtain ⟨last, hlast, hrest⟩ := ih hnodup'
      rw [hget] at hlast hrest
      refine ⟨last, hlast.trans hfirst, ?_⟩
      rw [readAll_cons, hget, hrest]

/-- Reading keeps what holds of the count. -/
theorem Counting.readAll {bounds : CacheBounds} (h : Counting bounds c) (keys : List RenderKey) :
    Counting bounds (c.readAll keys) := by
  induction keys generalizing c with
  | nil => exact h
  | cons key rest ih => exact ih (counting_answer h (.get key))

end RenderCache

/-! ## Places and their order -/

namespace Markup.Extraction

/-- What stands at a range: the formula or the image that is held there. -/
def StandsAt (e : Extraction) (range : SourceRange) (content : Content) : Prop :=
  (∃ m, e.math.get? range = some m ∧ content = .math m.latex m.style) ∨
    ∃ i, e.images.get? range = some i ∧ content = .image i.reference

theorem WellFormed.mem_contents_iff {e : Extraction} (h : e.WellFormed) {range : SourceRange}
    {content : Content} : (range, content) ∈ e.contents ↔ e.StandsAt range content := by
  constructor
  · exact h.entry_of_mem
  · rw [h.contents_eq, List.mem_append]
    rintro (⟨m, hm, rfl⟩ | ⟨i, hi, rfl⟩)
    · exact Or.inl (List.mem_map.mpr ⟨(range, m), e.math.get?_eq_some_iff.mp hm, rfl⟩)
    · exact Or.inr (List.mem_map.mpr ⟨(range, i), e.images.get?_eq_some_iff.mp hi, rfl⟩)

end Markup.Extraction

namespace SourceRange

variable {a b c : SourceRange}

theorem lt_asymm (h : a.lt b = true) : b.lt a = false := by
  rw [← Bool.not_eq_true]
  intro hba
  have hself := lt_trans h hba
  rw [lt_irrefl] at hself
  cases hself

/-- Of two different ranges one comes before the other. -/
theorem lt_of_ne (h : b.lt a = false) (hne : a ≠ b) : a.lt b = true := by
  rcases lt_trichotomy a b with hlt | heq | hgt
  · exact hlt
  · exact absurd heq hne
  · cases h.symm.trans hgt

/-- Not to come before is transitive as well: the order is total. -/
theorem not_lt_trans (hab : b.lt a = false) (hbc : c.lt b = false) : c.lt a = false := by
  by_cases heq : a = b
  · rw [heq]
    exact hbc
  · rw [← Bool.not_eq_true]
    intro hca
    cases hbc.symm.trans (lt_trans hca (lt_of_ne hab heq))

end SourceRange

/-- Placements at different ranges are put in strictly increasing order. -/
theorem Placement.pairwise_sort {ps : List Placement} (hnodup : (ps.map Placement.range).Nodup) :
    (Placement.sort ps).Pairwise fun a b => a.range.lt b.range = true := by
  have hordered : (Placement.sort ps).Pairwise fun a b => (!b.range.lt a.range) = true := by
    refine List.pairwise_mergeSort ?_ ?_ ps
    · intro a b c hab hbc
      rw [Bool.not_eq_true'] at hab hbc ⊢
      exact SourceRange.not_lt_trans hab hbc
    · intro a b
      cases hlt : b.range.lt a.range with
      | false => rfl
      | true =>
          rw [SourceRange.lt_asymm hlt]
          rfl
  have hsort := (List.mergeSort_perm ps fun a b => !b.range.lt a.range).map Placement.range
  have hapart := List.pairwise_map.mp (hsort.nodup_iff.mpr hnodup)
  refine (hordered.and hapart).imp ?_
  rintro a b ⟨hle, hne⟩
  rw [Bool.not_eq_true'] at hle
  exact SourceRange.lt_of_ne hle hne

/-! ## The session after looking -/

/-- Whether an event only looks at places. -/
def Event.isQuery : Event → Bool
  | .resolve .. | .placements _ => true
  | _ => false

namespace Session

variable {replies : JobId → Reply} {s s' t : Session} {e : Event} {id : DocumentId}

/-- A look reads its keys. -/
theorem perform_query (replies : JobId → Reply) (s : Session) (hquery : e.isQuery = true) :
    perform replies s e = { s with cache := s.cache.readAll (s.keysRead e) } := by
  cases e with
  | resolve id range => exact s.resolve_snd id range
  | placements id => exact s.placements_snd id
  | _ => cases hquery

/-- Any looks read their keys, one after the other: which ones they are does not depend on what was
    looked at before. -/
theorem play_queries (replies : JobId → Reply) (s : Session) {queries : List Event}
    (hqueries : ∀ e ∈ queries, e.isQuery = true) :
    play replies s queries = { s with cache := s.cache.readAll (queries.flatMap s.keysRead) } := by
  induction queries generalizing s with
  | nil => rfl
  | cons e rest ih =>
      rw [play_cons, perform_query replies s (hqueries e List.mem_cons_self),
        ih _ fun e' he => hqueries e' (List.mem_cons_of_mem _ he), List.flatMap_cons,
        RenderCache.readAll_append]
      rfl

/-- A step of the cache is a call on it. -/
theorem counting_step {bounds : CacheBounds} (h : s.cache.Counting bounds)
    (hquery : e.isQuery = false) (hstep : Step replies s e s') : s'.cache.Counting bounds := by
  cases hstep with
  | resolved hcache => cases hquery
  | placed hcache => cases hquery
  | @failed j task error hjob => exact RenderCache.counting_answer h (.remove j.renderKey)
  | @stored j task bitmap hjob => exact RenderCache.counting_answer h (.insert j.renderKey bitmap)
  | _ => exact h

theorem counting_perform {bounds : CacheBounds} (h : s.cache.Counting bounds) (e : Event) :
    (perform replies s e).cache.Counting bounds := by
  cases hquery : e.isQuery with
  | true =>
      rw [perform_query replies s hquery]
      exact h.readAll _
  | false =>
      rcases perform_eq_or_step replies s e with ⟨heq, -⟩ | hstep
      · rw [heq]
        exact h
      · exact counting_step h hquery hstep

/-- After any run no key has two entries in the cache. The induction is on the events still to come. -/
theorem counting_play {bounds : CacheBounds} (h : s.cache.Counting bounds) (events : List Event) :
    (play replies s events).cache.Counting bounds := by
  induction events generalizing s with
  | nil => exact h
  | cons e rest ih => exact ih (counting_perform h e)

/-! ## What is found -/

/-- What a place resolves to does not depend on which keys were read before. -/
theorem resolve_readAll (s : Session) (keys : List RenderKey) (id : DocumentId) (range : SourceRange) :
    (resolve { s with cache := s.cache.readAll keys } id range).1 = (s.resolve id range).1 := by
  rw [resolve_fst, resolve_fst, RenderCache.bitmap?_readAll]
  rfl

/-- A place with its content and what it resolves to. -/
def placementOf (s : Session) (id : DocumentId) (place : SourceRange × Content) : Placement :=
  ⟨place.1, place.2, (s.resolve id place.1).1⟩

theorem placementOf_readAll (s : Session) (keys : List RenderKey) (id : DocumentId) :
    placementOf { s with cache := s.cache.readAll keys } id = s.placementOf id := by
  funext place
  rw [placementOf, resolve_readAll, placementOf]

/-- Each place shows what it would if it were looked at alone. -/
theorem resolveAll_fst (s : Session) (id : DocumentId) (places : List (SourceRange × Content)) :
    (s.resolveAll id places).1 = places.map (s.placementOf id) := by
  induction places generalizing s with
  | nil => rfl
  | cons place rest ih =>
      show s.placementOf id place :: ((s.resolve id place.1).2.resolveAll id rest).1 = _
      rw [ih, resolve_snd, placementOf_readAll, List.map_cons]

theorem placements_fst {d : OpenDocument} (hopen : s.documents.get? id = some d) :
    (s.placements id).1
      = Placement.sort (d.loaded.extraction.contents.map (s.placementOf id)) := by
  rw [placements, hopen, ← resolveAll_fst]

theorem placements_readAll (s : Session) (keys : List RenderKey) (id : DocumentId) :
    (placements { s with cache := s.cache.readAll keys } id).1 = (s.placements id).1 := by
  cases hopen : s.documents.get? id with
  | none => rw [placements, placements, hopen]
  | some d =>
      have hopen' : ({ s with cache := s.cache.readAll keys } : Session).documents.get? id = some d :=
        hopen
      rw [placements_fst hopen, placements_fst hopen', placementOf_readAll]

/-- All that looking leaves as it is: what places resolve to, the errors, the cached entries with their cost
    and their number. The entries may come in another order; nothing else is touched. -/
structure Undisturbed (s t : Session) : Prop where
  resolution : ∀ id range, (t.resolve id range).1 = (s.resolve id range).1
  placements : ∀ id, (t.placements id).1 = (s.placements id).1
  errors : ∀ id, t.errors id = s.errors id
  entries : t.cache.entries.Perm s.cache.entries
  size : t.cache.size = s.cache.size
  bytes : t.cache.bytes = s.cache.bytes
  bounds : t.cache.maxItems = s.cache.maxItems ∧ t.cache.maxBytes = s.cache.maxBytes
  others : t = { s with cache := t.cache }

theorem undisturbed_readAll (hnodup : (s.cache.entries.map CacheEntry.key).Nodup)
    (keys : List RenderKey) : s.Undisturbed { s with cache := s.cache.readAll keys } := by
  obtain ⟨entries, hperm, hread⟩ := RenderCache.exists_perm_readAll hnodup keys
  refine ⟨s.resolve_readAll keys, s.placements_readAll keys, fun _ => rfl, ?_, ?_, ?_, ?_, rfl⟩
  · rw [hread]
    exact hperm
  · rw [hread]
    exact hperm.length_eq
  · rw [hread]
  · rw [hread]
    exact ⟨rfl, rfl⟩

/-! ## Each place once -/

/-- The placements of a document: they come in strictly increasing range order, there is exactly one for
    each formula and each image, and each has the content of its place and what the place resolves to. -/
structure Lists (s : Session) (id : DocumentId) (e : Extraction) (ps : List Placement) : Prop where
  ordered : ps.Pairwise fun a b => a.range.lt b.range = true
  size : ps.length = e.jobCount
  once : ∀ range content, e.StandsAt range content → ∃! p, p ∈ ps ∧ p.range = range
  content : ∀ p ∈ ps, e.StandsAt p.range p.content
  resolution : ∀ p ∈ ps, p.resolution = (s.resolve id p.range).1
  source : ∀ p ∈ ps, ∀ error source, p.resolution = .failed error source → source = p.content.source

/-- A place that shows an error shows it with its source text. -/
theorem source_of_failed {range : SourceRange} {error : JobError} {source : String}
    (h : (s.resolve id range).1 = .failed error source) : source = s.sourceAt id range := by
  rw [resolve_fst] at h
  cases herror : s.registry.error id range with
  | some e =>
      rw [herror] at h
      cases h
      rfl
  | none =>
      rw [herror] at h
      cases hbitmap : s.cache.bitmap? ⟨id, range.key⟩ with
      | some bitmap =>
          rw [hbitmap] at h
          cases h
      | none =>
          rw [hbitmap] at h
          cases h

theorem lists_placements (hvalid : s.Valid) {d : OpenDocument}
    (hopen : s.documents.get? id = some d) :
    s.Lists id d.loaded.extraction (s.placements id).1 := by
  have hwellFormed := hvalid.wellFormed id d hopen
  -- the placements are those of the contents, in another order
  have hperm : (s.placements id).1.Perm (d.loaded.extraction.contents.map (s.placementOf id)) := by
    rw [placements_fst hopen]
    exact List.mergeSort_perm _ _
  have hranges : ((d.loaded.extraction.contents.map (s.placementOf id)).map Placement.range).Nodup := by
    rw [List.map_map]
    exact hwellFormed.nodup_contents
  have hplace : ∀ p ∈ (s.placements id).1,
      ∃ place ∈ d.loaded.extraction.contents, s.placementOf id place = p :=
    fun p hp => List.mem_map.mp (hperm.mem_iff.mp hp)
  refine ⟨?_, ?_, ?_, ?_, ?_, ?_⟩
  · rw [placements_fst hopen]
    exact Placement.pairwise_sort hranges
  · rw [hperm.length_eq, List.length_map, Extraction.length_contents]
  · intro range content hstands
    have hmem := hwellFormed.mem_contents_iff.mpr hstands
    refine ⟨s.placementOf id (range, content), ⟨?_, rfl⟩, ?_⟩
    · exact hperm.mem_iff.mpr (List.mem_map.mpr ⟨_, hmem, rfl⟩)
    · rintro p ⟨hp, hrange⟩
      exact List.inj_on_of_nodup_map hranges (hperm.mem_iff.mp hp) (List.mem_map.mpr ⟨_, hmem, rfl⟩)
        hrange
  · intro p hp
    obtain ⟨place, hmem, rfl⟩ := hplace p hp
    exact hwellFormed.mem_contents_iff.mp hmem
  · intro p hp
    obtain ⟨place, hmem, rfl⟩ := hplace p hp
    rfl
  · intro p hp error source hfailed
    obtain ⟨place, hmem, rfl⟩ := hplace p hp
    rw [source_of_failed hfailed, hvalid.sourceAt_of_mem hopen hmem]
    rfl

/-! ## Any document -/

/-- Any session that a run leads to. The placements of an open document list each of its places once, in
    range order, with what the place resolves to. Looking at places of any documents, one by one or all of
    one document, as often as one likes and in any order, reads bitmaps and leaves everything else: what
    places resolve to, the errors, and the entries of the cache with their number and their count of
    bytes, which are the same in another order of use. -/
theorem placements_spec (replies : JobId → Reply) (options : SessionOptions) (events : List Event)
    (hrun : Admissible replies (new options) events) :
    let s := play replies (new options) events
    (∀ id d, s.documents.get? id = some d → s.Lists id d.loaded.extraction (s.placements id).1) ∧
    ∀ queries : List Event, (∀ e ∈ queries, e.isQuery = true) →
      let t := play replies s queries
      t.cache = s.cache.readAll (queries.flatMap s.keysRead) ∧ s.Undisturbed t := by
  intro s
  have hvalid : s.Valid := valid_play (valid_new options) hrun
  have hcounting : s.cache.Counting options.bounds :=
    counting_play (RenderCache.counting_new options.bounds) events
  refine ⟨fun id d hopen => lists_placements hvalid hopen, ?_⟩
  intro queries hqueries t
  have hplay : t = { s with cache := s.cache.readAll (queries.flatMap s.keysRead) } :=
    play_queries replies s hqueries
  rw [hplay]
  exact ⟨rfl, undisturbed_readAll hcounting.recounted.nodup _⟩

/-- Two formulas that were drawn, an image that was not found and one whose job has not run: four placements.
    All places are looked at, and then the first formula once more. Its bitmap is now in front of the other
    one, and nothing else is changed. -/
theorem placements_spec_mixed :
    let range := fun column => (⟨⟨1, column⟩, ⟨1, column + 35⟩⟩ : SourceRange)
    let formula := fun n column => Node.mk (.inlineCode (Uuid.numbered n).hyphenated) (range column) []
    let image := fun name column => Node.mk (.image name "") (range column) []
    let reader := fun _ => Node.mk .container (range 1)
      [image "p.png" 1, formula 0 101, image "q.png" 201, formula 1 301]
    let replies : JobId → Reply := fun _ =>
      ⟨.broken none, .given (Bitmap.uniform 1 1 Color.black), .given, .given none, Raster.decodeImage⟩
    let j := fun column => (⟨⟨⟨0⟩, 1⟩, (range column).key⟩ : JobId)
    let moves := fun column => [.step (j column), .answer (j column), .step (j column), .step (j column),
      .step (j column)]
    let events := .load ⟨0⟩ Uuid.numbered reader "$x$ $y$" :: .request ⟨0⟩ ::
      (moves 101 ++ moves 301 ++ moves 1)
    let s := play replies (new {}) events
    let t := play replies s [.placements ⟨0⟩, .resolve ⟨0⟩ (range 101)]
    (∃ d, s.documents.get? ⟨0⟩ = some d ∧ d.loaded.extraction.jobCount = 4 ∧
        s.Lists ⟨0⟩ d.loaded.extraction (s.placements ⟨0⟩).1) ∧
      [1, 101, 201, 301].map (fun column => (s.resolve ⟨0⟩ (range column)).1.status)
        = ["failed", "rendered", "pending", "rendered"] ∧
      s.cache.entries.map (fun e => e.key.location) = [(range 301).key, (range 101).key] ∧
      t.cache.entries.map (fun e => e.key.location) = [(range 101).key, (range 301).key] ∧
      s.Undisturbed t := by
  intro range formula image reader replies j moves events s t
  have hrun : Admissible replies (new {}) events :=
    ⟨⟨rfl, fun _ => rfl⟩, trivial, trivial, trivial, trivial, trivial, trivial, trivial, trivial,
      trivial, trivial, trivial, trivial, trivial, trivial, trivial, trivial, trivial⟩
  obtain ⟨hlists, hqueries⟩ := placements_spec replies {} events hrun
  have hplaces : (s.documents.get? ⟨0⟩).map (fun d => d.loaded.extraction.jobCount) = some 4 := by
    decide +kernel
  obtain ⟨d, hopen, hcount⟩ := Option.map_eq_some_iff.mp hplaces
  refine ⟨⟨d, hopen, hcount, hlists ⟨0⟩ d hopen⟩, by decide +kernel, by decide +kernel,
    by decide +kernel, ?_⟩
  exact (hqueries [.placements ⟨0⟩, .resolve ⟨0⟩ (range 101)] (by simp [Event.isQuery])).2

end Session
end Formulary
