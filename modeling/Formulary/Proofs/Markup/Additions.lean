import Formulary.Markup.Extraction
import Formulary.Proofs.Location.Key
import Formulary.Proofs.Location.Map

/-!
# Additions — extractions that grow by one entry at a time

An extraction is made by adding formulas and then images, each at a place of its own. What it holds
after some additions is said here once, for the maps and for the index together, so that all that is
proved about extractions comes down to which entries were added.

* `Extraction.Holds` — the entries that an extraction holds.
* `Extraction.foldlM_addMath`, `Extraction.foldlM_addImage` — entries at places of their own are all
  added.
* `Extraction.foldlM_addMath_error`, `Extraction.foldlM_addImage_error` — the first entry at a place
  that is taken stops the additions.
* `Extraction.nodup_or_taken` — there is such an entry, or none.
-/

namespace Formulary.Markup
namespace Extraction

/-- The places of some formulas and images. -/
def places (math : List MathEntry) (images : List ImageEntry) : List SourceRange :=
  math.map MathEntry.range ++ images.map ImageEntry.range

/-- An extraction holds some formulas and images, each at a place of its own, and nothing else; its
index holds their places. -/
structure Holds (e : Extraction) (math : List MathEntry) (images : List ImageEntry) : Prop where
  nodup : (places math images).Nodup
  get?_math : ∀ r m, e.math.get? r = some m ↔ m ∈ math ∧ m.range = r
  get?_images : ∀ r i, e.images.get? r = some i ↔ i ∈ images ∧ i.range = r
  lookup_index : ∀ key r, e.index.lookup key = some r ↔ key = r.key ∧ r ∈ places math images
  size_math : e.math.size = math.length
  size_images : e.images.size = images.length
  size_index : e.index.size = math.length + images.length

theorem holds_empty : ({} : Extraction).Holds [] [] where
  nodup := List.nodup_nil
  get?_math r m := by simp
  get?_images r i := by simp
  lookup_index key r := by simp [LocationIndex.lookup_empty, places]
  size_math := rfl
  size_images := rfl
  size_index := rfl

variable {e : Extraction} {math : List MathEntry} {images : List ImageEntry}

/-- A range is in the index under its key exactly when it is a place of an entry. -/
theorem Holds.lookup_key_eq_none (h : e.Holds math images) {r : SourceRange}
    (hr : r ∉ places math images) : e.index.lookup r.key = none := by
  cases hl : e.index.lookup r.key with
  | none => rfl
  | some r' =>
      obtain ⟨hkey, hmem⟩ := (h.lookup_index _ _).mp hl
      exact absurd (SourceRange.key_injective hkey ▸ hmem) hr

theorem Holds.lookup_key (h : e.Holds math images) {r : SourceRange}
    (hr : r ∈ places math images) : e.index.lookup r.key = some r :=
  (h.lookup_index _ _).mpr ⟨rfl, hr⟩

/-- No place has a formula and an image. -/
theorem Holds.disjoint (h : e.Holds math images) (r : SourceRange) :
    e.math.get? r = none ∨ e.images.get? r = none := by
  cases hm : e.math.get? r with
  | none => exact Or.inl rfl
  | some m =>
      cases hi : e.images.get? r with
      | none => exact Or.inr rfl
      | some i =>
          obtain ⟨hmem, hrange⟩ := (h.get?_math r m).mp hm
          obtain ⟨himem, hirange⟩ := (h.get?_images r i).mp hi
          exact absurd (hrange.trans hirange.symm) ((List.nodup_append.mp h.nodup).2.2
            _ (List.mem_map.mpr ⟨m, hmem, rfl⟩) _ (List.mem_map.mpr ⟨i, himem, rfl⟩))

/-- The index holds as many places as there are entries. -/
theorem Holds.size_eq_jobCount (h : e.Holds math images) : e.index.size = e.jobCount := by
  rw [jobCount, h.size_index, h.size_math, h.size_images]

/-- A map that holds some entries at their places holds one more after it was put there. -/
theorem get?_insert_iff {α : Type} {m : RangeMap α} {range : α → SourceRange} {entries : List α}
    (h : ∀ r a, m.get? r = some a ↔ a ∈ entries ∧ range a = r) {entry : α}
    (hfresh : range entry ∉ entries.map range) (r : SourceRange) (a : α) :
    (m.insert (range entry) entry).get? r = some a ↔ a ∈ entries ++ [entry] ∧ range a = r := by
  rw [RangeMap.get?_insert, List.mem_append, List.mem_singleton]
  by_cases hr : r = range entry
  · rw [if_pos hr]
    constructor
    · intro ha
      rw [← Option.some.inj ha]
      exact ⟨Or.inr rfl, hr.symm⟩
    · rintro ⟨hmem | rfl, ha⟩
      · exact absurd (List.mem_map.mpr ⟨a, hmem, ha.trans hr⟩) hfresh
      · rfl
  · rw [if_neg hr, h]
    constructor
    · rintro ⟨hmem, ha⟩
      exact ⟨Or.inl hmem, ha⟩
    · rintro ⟨hmem | rfl, ha⟩
      · exact ⟨hmem, ha⟩
      · exact absurd ha.symm hr

/-- A map that holds some entries at their places has none at another place. -/
theorem get?_eq_none_of_not_mem {α : Type} {m : RangeMap α} {range : α → SourceRange}
    {entries : List α} (h : ∀ r a, m.get? r = some a ↔ a ∈ entries ∧ range a = r)
    {r : SourceRange} (hr : r ∉ entries.map range) : m.get? r = none := by
  cases hget : m.get? r with
  | none => rfl
  | some a =>
      obtain ⟨hmem, ha⟩ := (h r a).mp hget
      exact absurd (List.mem_map.mpr ⟨a, hmem, ha⟩) hr

theorem addMath_of_fresh (h : e.Holds math []) {m : MathEntry}
    (hm : m.range ∉ places math []) :
    ∃ e', e.addMath m = .ok e' ∧ e'.Holds (math ++ [m]) [] := by
  have hfresh : m.range ∉ math.map (·.range) := by simpa [places] using hm
  have hplaces : places (math ++ [m]) [] = places math [] ++ [m.range] := by simp [places]
  refine ⟨_, by
    rw [addMath, LocationIndex.insert_of_lookup_eq_none (h.lookup_key_eq_none hm)], ?_⟩
  exact {
    nodup := by
      rw [hplaces]
      exact nodup_concat_iff.mpr ⟨hm, h.nodup⟩
    get?_math := get?_insert_iff h.get?_math hfresh
    get?_images := h.get?_images
    lookup_index := by
      intro key r
      rw [LocationIndex.lookup_cons_iff h.lookup_index, hplaces, List.mem_append,
        List.mem_singleton, or_comm]
    size_math := by
      rw [RangeMap.size_insert_of_get?_eq_none (get?_eq_none_of_not_mem h.get?_math hfresh),
        h.size_math, List.length_append, List.length_singleton]
    size_images := h.size_images
    size_index := by
      have := h.size_index
      simp only [LocationIndex.size, List.length_cons, List.length_append, List.length_nil] at *
      omega }

theorem addMath_of_taken (h : e.Holds math images) {m : MathEntry}
    (hm : m.range ∈ places math images) :
    e.addMath m = .error (.locationCollision m.range) := by
  rw [addMath, LocationIndex.insert_of_lookup_eq_some (h.lookup_key hm)]

theorem addImage_of_fresh (h : e.Holds math images) {i : ImageEntry}
    (hi : i.range ∉ places math images) :
    ∃ e', e.addImage i = .ok e' ∧ e'.Holds math (images ++ [i]) := by
  have hfresh : i.range ∉ images.map (·.range) :=
    fun hmem => hi (List.mem_append.mpr (Or.inr hmem))
  refine ⟨_, by
    rw [addImage, LocationIndex.insert_of_lookup_eq_none (h.lookup_key_eq_none hi)], ?_⟩
  have hplaces : places math (images ++ [i]) = places math images ++ [i.range] := by
    simp [places, List.append_assoc]
  exact {
    nodup := by
      rw [hplaces]
      exact nodup_concat_iff.mpr ⟨hi, h.nodup⟩
    get?_math := h.get?_math
    get?_images := get?_insert_iff h.get?_images hfresh
    lookup_index := by
      intro key r
      rw [LocationIndex.lookup_cons_iff h.lookup_index, hplaces, List.mem_append,
        List.mem_singleton, or_comm]
    size_math := h.size_math
    size_images := by
      rw [RangeMap.size_insert_of_get?_eq_none (get?_eq_none_of_not_mem h.get?_images hfresh),
        h.size_images, List.length_append, List.length_singleton]
    size_index := by
      have := h.size_index
      simp only [LocationIndex.size, List.length_cons, List.length_append, List.length_nil] at *
      omega }

theorem addImage_of_taken (h : e.Holds math images) {i : ImageEntry}
    (hi : i.range ∈ places math images) :
    e.addImage i = .error (.locationCollision i.range) := by
  rw [addImage, LocationIndex.insert_of_lookup_eq_some (h.lookup_key hi)]

/-! ## Many additions -/

section Fold

variable {α : Type} {add : Extraction → α → Except ConsistencyError Extraction}
  (Inv : Extraction → List α → Prop) (base : List SourceRange) (place : α → SourceRange)

/-- Entries at places of their own are all added. The induction is on the entries still to come;
    `done` are those added before. -/
theorem foldlM_add
    (hok : ∀ e done a, Inv e done → place a ∉ base ++ done.map place →
      ∃ e', add e a = .ok e' ∧ Inv e' (done ++ [a]))
    {e : Extraction} (done entries : List α) (hinv : Inv e done)
    (hnd : (base ++ (done ++ entries).map place).Nodup) :
    ∃ e', entries.foldlM add e = .ok e' ∧ Inv e' (done ++ entries) := by
  induction entries generalizing e done with
  | nil => exact ⟨e, rfl, by simpa using hinv⟩
  | cons a rest ih =>
      have hfresh : place a ∉ base ++ done.map place := by
        rw [List.map_append, ← List.append_assoc, List.nodup_append] at hnd
        intro hmem
        exact hnd.2.2 _ hmem (place a) (List.mem_map.mpr ⟨a, List.mem_cons_self, rfl⟩) rfl
      obtain ⟨e', hadd, hinv'⟩ := hok e done a hinv hfresh
      have hshift : done ++ a :: rest = (done ++ [a]) ++ rest := by simp
      rw [hshift] at hnd ⊢
      obtain ⟨e'', hrest, hinv''⟩ := ih _ hinv' hnd
      refine ⟨e'', ?_, hinv''⟩
      rw [List.foldlM_cons, hadd]
      exact hrest

/-- The first entry at a place that is taken stops the additions. -/
theorem foldlM_add_error
    (hok : ∀ e done a, Inv e done → place a ∉ base ++ done.map place →
      ∃ e', add e a = .ok e' ∧ Inv e' (done ++ [a]))
    (herr : ∀ e done a, Inv e done → place a ∈ base ++ done.map place →
      add e a = .error (.locationCollision (place a)))
    {e : Extraction} {before after : List α} {a : α} (hinv : Inv e [])
    (hnd : (base ++ before.map place).Nodup) (hmem : place a ∈ base ++ before.map place) :
    (before ++ a :: after).foldlM add e = .error (.locationCollision (place a)) := by
  obtain ⟨e', hbefore, hinv'⟩ := foldlM_add Inv base place hok [] before hinv hnd
  rw [List.foldlM_append, hbefore]
  show (a :: after).foldlM add e' = _
  rw [List.foldlM_cons, herr e' _ a hinv' hmem]
  rfl

/-- Entries stand at places of their own, or there is a first whose place is taken. -/
theorem nodup_or_taken (hbase : base.Nodup) (entries : List α) :
    (base ++ entries.map place).Nodup ∨ ∃ before a after, entries = before ++ a :: after ∧
      (base ++ before.map place).Nodup ∧ place a ∈ base ++ before.map place := by
  induction entries using List.reverseRecOn with
  | nil => exact Or.inl (by simpa using hbase)
  | append_singleton before a ih =>
      rcases ih with hnd | ⟨b, a', after, rfl, hnd, htaken⟩
      · by_cases hplace : place a ∈ base ++ before.map place
        · exact Or.inr ⟨before, a, [], rfl, hnd, hplace⟩
        · refine Or.inl ?_
          rw [List.map_append, List.map_singleton, ← List.append_assoc]
          exact nodup_concat_iff.mpr ⟨hplace, hnd⟩
      · exact Or.inr ⟨b, a', after ++ [a], by simp, hnd, htaken⟩

end Fold

variable {before after : List MathEntry} {m : MathEntry}

/-- Formulas at places of their own are all added. -/
theorem foldlM_addMath (h : e.Holds math []) (hnd : (places (math ++ before) []).Nodup) :
    ∃ e', before.foldlM addMath e = .ok e' ∧ e'.Holds (math ++ before) [] := by
  refine foldlM_add (fun e done => e.Holds (math ++ done) []) (math.map MathEntry.range)
    MathEntry.range ?_ [] before ?_ ?_
  · intro e done a hinv hfresh
    rw [← List.append_assoc]
    exact addMath_of_fresh hinv (by simpa [places] using hfresh)
  · simpa using h
  · simpa [places] using hnd

/-- A formula at a place that is taken stops the additions. -/
theorem foldlM_addMath_error (h : e.Holds math []) (hnd : (places (math ++ before) []).Nodup)
    (hmem : m.range ∈ places (math ++ before) []) :
    (before ++ m :: after).foldlM addMath e = .error (.locationCollision m.range) := by
  refine foldlM_add_error (fun e done => e.Holds (math ++ done) []) (math.map MathEntry.range)
    MathEntry.range ?_ ?_ ?_ ?_ ?_
  · intro e done a hinv hfresh
    rw [← List.append_assoc]
    exact addMath_of_fresh hinv (by simpa [places] using hfresh)
  · intro e done a hinv htaken
    exact addMath_of_taken hinv (by simpa [places] using htaken)
  · simpa using h
  · simpa [places] using hnd
  · simpa [places] using hmem

variable {before after : List ImageEntry} {i : ImageEntry}

/-- Images at places of their own are all added. -/
theorem foldlM_addImage (h : e.Holds math []) (hnd : (places math before).Nodup) :
    ∃ e', before.foldlM addImage e = .ok e' ∧ e'.Holds math before := by
  refine foldlM_add (fun e done => e.Holds math done) (math.map MathEntry.range) ImageEntry.range
    ?_ [] before h hnd
  intro e done a hinv hfresh
  exact addImage_of_fresh hinv hfresh

/-- An image at a place that is taken stops the additions. -/
theorem foldlM_addImage_error (h : e.Holds math []) (hnd : (places math before).Nodup)
    (hmem : i.range ∈ places math before) :
    (before ++ i :: after).foldlM addImage e = .error (.locationCollision i.range) := by
  refine foldlM_add_error (fun e done => e.Holds math done) (math.map MathEntry.range)
    ImageEntry.range ?_ ?_ h hnd hmem
  · intro e done a hinv hfresh
    exact addImage_of_fresh hinv hfresh
  · intro e done a hinv htaken
    exact addImage_of_taken hinv htaken

end Extraction
end Formulary.Markup
