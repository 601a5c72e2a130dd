import Formulary.Document.Placement
import Formulary.Proofs.Markup.Extraction

/-!
# Contents — the places of an extraction and what stands there

Every extraction that comes out of a tree holds each entry under its own range, never two at one range,
and its index knows exactly these ranges. Its contents list each place once.

* `Extraction.WellFormed` — what holds of every extraction that comes out of a tree.
* `Extraction.WellFormed.contents_eq` — the contents by the ranges that the entries are held at.
* `Extraction.WellFormed.nodup_contents` — no range comes twice among the contents.
* `Extraction.WellFormed.lookup_of_mem`, `Extraction.WellFormed.source?_of_mem` — the index and the
  source text of a place.
-/

namespace Formulary.Markup
namespace Extraction

/-- Entries are held under their own ranges, no range has two, and the index knows their ranges. -/
structure WellFormed (e : Extraction) : Prop where
  range_math : ∀ r m, e.math.get? r = some m → m.range = r
  range_images : ∀ r i, e.images.get? r = some i → i.range = r
  disjoint : ∀ r, e.math.get? r = none ∨ e.images.get? r = none
  lookup : ∀ key r, e.index.lookup key = some r ↔
    key = r.key ∧ ((∃ m, e.math.get? r = some m) ∨ ∃ i, e.images.get? r = some i)
  size : e.index.size = e.jobCount

variable {e : Extraction}

/-- An extraction that holds some entries at their places is well formed. -/
theorem Holds.wellFormed {math : List MathEntry} {images : List ImageEntry}
    (h : e.Holds math images) : e.WellFormed := by
  constructor
  · intro r m hm
    exact ((h.get?_math r m).mp hm).2
  · intro r i hi
    exact ((h.get?_images r i).mp hi).2
  · exact h.disjoint
  · intro key r
    rw [h.lookup_index, places, List.mem_append]
    constructor
    · rintro ⟨hkey, hmath | himage⟩
      · obtain ⟨m, hm, hr⟩ := List.mem_map.mp hmath
        exact ⟨hkey, Or.inl ⟨m, (h.get?_math r m).mpr ⟨hm, hr⟩⟩⟩
      · obtain ⟨i, hi, hr⟩ := List.mem_map.mp himage
        exact ⟨hkey, Or.inr ⟨i, (h.get?_images r i).mpr ⟨hi, hr⟩⟩⟩
    · rintro ⟨hkey, ⟨m, hm⟩ | ⟨i, hi⟩⟩
      · obtain ⟨hmem, hr⟩ := (h.get?_math r m).mp hm
        exact ⟨hkey, Or.inl (List.mem_map.mpr ⟨m, hmem, hr⟩)⟩
      · obtain ⟨hmem, hr⟩ := (h.get?_images r i).mp hi
        exact ⟨hkey, Or.inr (List.mem_map.mpr ⟨i, hmem, hr⟩)⟩
  · exact h.size_eq_jobCount

/-- What findings are converted to is well formed. -/
theorem wellFormed_of_convert {table : PlaceholderTable} {f : Findings}
    (h : f.convert table = .ok e) : e.WellFormed :=
  (Findings.holds_of_convert h).wellFormed

/-- What is made of entries that are held under their own ranges is made of the ranges of the map. -/
theorem map_values_of_range {α β : Type} {m : RangeMap α} {range : α → SourceRange}
    (h : ∀ r a, m.get? r = some a → range a = r) (f : SourceRange → α → β) :
    m.values.map (fun a => f (range a) a) = m.entries.map fun entry => f entry.1 entry.2 := by
  rw [RangeMap.values, List.map_map]
  refine List.map_congr_left ?_
  intro entry hentry
  rw [Function.comp_apply, h _ _ (m.get?_eq_some_iff.mpr hentry)]

/-- The contents stand at the ranges that the document holds them at. -/
theorem WellFormed.contents_eq (h : e.WellFormed) :
    e.contents
      = e.math.entries.map (fun entry => (entry.1, .math entry.2.latex entry.2.style)) ++
        e.images.entries.map fun entry => (entry.1, .image entry.2.reference) :=
  congrArg₂ (· ++ ·)
    (map_values_of_range h.range_math fun r m => (r, Content.math m.latex m.style))
    (map_values_of_range h.range_images fun r i => (r, Content.image i.reference))

/-- A place of the contents is the place of an entry. -/
theorem WellFormed.entry_of_mem (h : e.WellFormed) {range : SourceRange} {content : Content}
    (hmem : (range, content) ∈ e.contents) :
    (∃ m, e.math.get? range = some m ∧ content = .math m.latex m.style) ∨
      ∃ i, e.images.get? range = some i ∧ content = .image i.reference := by
  rw [h.contents_eq, List.mem_append, List.mem_map, List.mem_map] at hmem
  rcases hmem with ⟨⟨r, m⟩, hm, heq⟩ | ⟨⟨r, i⟩, hi, heq⟩
  · obtain ⟨rfl, rfl⟩ := Prod.mk.inj heq
    exact Or.inl ⟨m, e.math.get?_eq_some_iff.mpr hm, rfl⟩
  · obtain ⟨rfl, rfl⟩ := Prod.mk.inj heq
    exact Or.inr ⟨i, e.images.get?_eq_some_iff.mpr hi, rfl⟩

/-- The index finds every place of the contents under its key. -/
theorem WellFormed.lookup_of_mem (h : e.WellFormed) {range : SourceRange} {content : Content}
    (hmem : (range, content) ∈ e.contents) : e.index.lookup range.key = some range := by
  refine (h.lookup _ _).mpr ⟨rfl, ?_⟩
  rcases h.entry_of_mem hmem with ⟨m, hm, -⟩ | ⟨i, hi, -⟩
  · exact Or.inl ⟨m, hm⟩
  · exact Or.inr ⟨i, hi⟩

/-- The source text at a place is that of its content. -/
theorem WellFormed.source?_of_mem (h : e.WellFormed) {range : SourceRange} {content : Content}
    (hmem : (range, content) ∈ e.contents) : e.source? range = some content.source := by
  rcases h.entry_of_mem hmem with ⟨m, hm, rfl⟩ | ⟨i, hi, rfl⟩
  · rw [source?, hm]
    rfl
  · have hnone : e.math.get? range = none := by
      rcases h.disjoint range with hmath | himage
      · exact hmath
      · rw [hi] at himage
        cases himage
    rw [source?, hnone, hi]
    rfl

theorem WellFormed.map_fst_contents (h : e.WellFormed) :
    e.contents.map Prod.fst = e.math.keys ++ e.images.keys := by
  rw [h.contents_eq, List.map_append, List.map_map, List.map_map]
  rfl

/-- No range comes twice among the contents. -/
theorem WellFormed.nodup_contents (h : e.WellFormed) : (e.contents.map Prod.fst).Nodup := by
  rw [h.map_fst_contents, List.nodup_append]
  refine ⟨e.math.nodup_keys, e.images.nodup_keys, ?_⟩
  intro r hr r' hr' heq
  obtain ⟨m, hm⟩ := e.math.mem_keys_iff.mp hr
  obtain ⟨i, hi⟩ := e.images.mem_keys_iff.mp (heq ▸ hr')
  rcases h.disjoint r with hmath | himage
  · rw [hm] at hmath
    cases hmath
  · rw [hi] at himage
    cases himage

theorem length_contents (e : Extraction) : e.contents.length = e.jobCount := by
  rw [contents, List.length_append, List.length_map, List.length_map, jobCount, RangeMap.values,
    RangeMap.values, List.length_map, List.length_map]
  rfl

end Extraction
end Formulary.Markup
