import Formulary.Proofs.Markup.Claim

/-!
# Conversion — findings become an extraction, or are refused

The identifiers are claimed first, then nothing of the table may be left, then the blocks are added
and at last the images. Whichever of these fails first says why the findings are refused.

* `Findings.Sound` — findings that lose and repeat nothing.
* `Findings.Refused` — findings that are refused, with the error, by the stage that fails.
* `Findings.convert_of_sound`, `Findings.convert_of_refused` — the two outcomes of a conversion.
* `Findings.sound_or_refused` — one of them comes about.
* `Findings.holds_of_convert`, `Findings.convert_eq_error_iff` — read back from what comes out.
-/

namespace Formulary.Markup
namespace Findings

/-- The formulas that findings stand for: those of the identifiers, then the blocks. -/
def formulas (table : PlaceholderTable) (f : Findings) : List MathEntry :=
  claims table f.pending ++ f.blocks

/-- Every identifier of the table is found exactly once, and no two entries stand at one place. -/
structure Sound (table : PlaceholderTable) (f : Findings) : Prop where
  once : ((f.pending.map Prod.snd).filter table.contains).Nodup
  found : missing table f.pending = []
  apart : (Extraction.places (f.formulas table) f.images).Nodup

/-- Findings that are refused, with the error. The first finding that offends comes first; then
    identifiers that were not found, listed by their place in the text; then the first block and the
    first image whose place is taken. -/
inductive Refused (table : PlaceholderTable) (f : Findings) : ConsistencyError → Prop
  | duplicated {before after : List (SourceRange × Uuid)} {place : SourceRange} {id : Uuid}
      (hfound : f.pending = before ++ (place, id) :: after) (horderly : Orderly table before)
      (hmem : table.contains id = true) (hagain : id ∈ before.map Prod.snd) :
      Refused table f (.duplicated id)
  | taken {before after : List (SourceRange × Uuid)} {place : SourceRange} {id : Uuid}
      (hfound : f.pending = before ++ (place, id) :: after) (horderly : Orderly table before)
      (hmem : table.contains id = true) (hnew : id ∉ before.map Prod.snd)
      (htaken : place ∈ (claims table before).map MathEntry.range) :
      Refused table f (.locationCollision place)
  | unresolved {left : List Placeholder} (horderly : Orderly table f.pending) (hleft : left ≠ [])
      (hperm : left.Perm ((missing table f.pending).map Prod.snd))
      (hsorted : left.Pairwise fun a b => a.offset < b.offset) :
      Refused table f (.unresolved left.length table.size (left.map Placeholder.latex))
  | block {before after : List MathEntry} {m : MathEntry} (horderly : Orderly table f.pending)
      (hmissing : missing table f.pending = []) (hblocks : f.blocks = before ++ m :: after)
      (hapart : (Extraction.places (claims table f.pending ++ before) []).Nodup)
      (htaken : m.range ∈ Extraction.places (claims table f.pending ++ before) []) :
      Refused table f (.locationCollision m.range)
  | image {before after : List ImageEntry} {i : ImageEntry} (horderly : Orderly table f.pending)
      (hmissing : missing table f.pending = []) (himages : f.images = before ++ i :: after)
      (hapart : (Extraction.places (f.formulas table) before).Nodup)
      (htaken : i.range ∈ Extraction.places (f.formulas table) before) :
      Refused table f (.locationCollision i.range)

/-! ## Formulas by their place in the text -/

theorem pairwise_mergeSort_offset (l : List Placeholder) :
    (l.mergeSort fun a b => a.offset ≤ b.offset).Pairwise fun a b => a.offset ≤ b.offset := by
  refine (List.pairwise_mergeSort ?_ ?_ l).imp ?_
  · intro a b c hab hbc
    rw [decide_eq_true_iff] at hab hbc ⊢
    exact Nat.le_trans hab hbc
  · intro a b
    rw [Bool.or_eq_true, decide_eq_true_iff, decide_eq_true_iff]
    exact Nat.le_total _ _
  · intro a b hab
    exact decide_eq_true_iff.mp hab

/-- Formulas in strictly increasing order are the only ones in order. -/
theorem mergeSort_eq_of_sorted {l left : List Placeholder} (hperm : left.Perm l)
    (hsorted : left.Pairwise fun a b => a.offset < b.offset) :
    (l.mergeSort fun a b => a.offset ≤ b.offset) = left := by
  have hsort := List.mergeSort_perm l fun a b => a.offset ≤ b.offset
  have hoffsets : (left.map Placeholder.offset).Nodup :=
    List.pairwise_map.mpr (hsorted.imp Nat.ne_of_lt)
  -- formulas that come neither before nor after each other are one formula
  have hanti : ∀ a b, a ∈ l.mergeSort (fun a b => a.offset ≤ b.offset) → b ∈ left →
      a.offset ≤ b.offset → b.offset ≤ a.offset → a = b := by
    intro a b ha hb hab hba
    have hmem : a ∈ left := hperm.symm.subset (hsort.subset ha)
    exact List.inj_on_of_nodup_map hoffsets hmem hb (Nat.le_antisymm hab hba)
  exact List.Perm.eq_of_pairwise hanti (pairwise_mergeSort_offset l)
    (hsorted.imp Nat.le_of_lt) (hsort.trans hperm.symm)

/-- Formulas with different offsets are put in strictly increasing order. -/
theorem pairwise_lt_mergeSort {l : List Placeholder} (hnd : (l.map Placeholder.offset).Nodup) :
    (l.mergeSort fun a b => a.offset ≤ b.offset).Pairwise fun a b => a.offset < b.offset := by
  have hsort := List.mergeSort_perm l fun a b => a.offset ≤ b.offset
  have hne := List.pairwise_map.mp ((hsort.map Placeholder.offset).nodup_iff.mpr hnd)
  refine ((pairwise_mergeSort_offset l).and hne).imp ?_
  rintro a b ⟨hle, hneq⟩
  exact Nat.lt_of_le_of_ne hle hneq

variable {table : PlaceholderTable} {f : Findings}

/-! ## The stages -/

/-- Findings whose claims are stopped are refused with the error of the claims. -/
theorem convert_of_offends {before after : List (SourceRange × Uuid)} {x : SourceRange × Uuid}
    (hfound : f.pending = before ++ x :: after) (horderly : Orderly table before)
    (hoffends : Offends table before x) : f.convert table = .error (offence before x) := by
  rw [convert, hfound, claim_of_offends horderly hoffends]
  rfl

/-- Findings that leave something of the table are refused with what is left. -/
theorem convert_of_missing (horderly : Orderly table f.pending)
    (hmissing : missing table f.pending ≠ []) :
    f.convert table = .error (.unresolved (missing table f.pending).length table.size
      ((((missing table f.pending).map Prod.snd).mergeSort fun a b => a.offset ≤ b.offset).map
        Placeholder.latex)) := by
  obtain ⟨left, e, hclaim, hleft, -⟩ := claim_of_orderly horderly
  have hnonempty : left.isEmpty = false := by
    rw [PlaceholderTable.isEmpty, Table.isEmpty, hleft]
    exact List.isEmpty_eq_false_iff.mpr hmissing
  rw [convert, hclaim]
  show (if left.isEmpty = true then _ else _) = _
  rw [if_neg (by rw [hnonempty]; exact Bool.false_ne_true)]
  rw [PlaceholderTable.remainingSources, PlaceholderTable.size, Table.size, Table.values, hleft]

/-- Findings that take all formulas back are converted by adding their blocks and images. -/
theorem convert_of_found (horderly : Orderly table f.pending)
    (hmissing : missing table f.pending = []) :
    ∃ e, e.Holds (claims table f.pending) [] ∧ f.convert table
      = (f.blocks.foldlM Extraction.addMath e).bind fun e => f.images.foldlM Extraction.addImage e := by
  obtain ⟨left, e, hclaim, hleft, hholds⟩ := claim_of_orderly horderly
  have hempty : left.isEmpty = true := by
    rw [PlaceholderTable.isEmpty, Table.isEmpty, hleft, hmissing]
    rfl
  refine ⟨e, hholds, ?_⟩
  rw [convert, hclaim]
  show (if left.isEmpty = true then _ else _) = _
  rw [if_pos hempty]
  rfl

/-! ## The outcomes -/

theorem Sound.orderly (h : f.Sound table) : Orderly table f.pending := by
  constructor
  · exact h.once
  · have hapart := h.apart
    rw [Extraction.places, formulas, List.map_append] at hapart
    exact (List.nodup_append.mp (List.nodup_append.mp hapart).1).1

/-- Sound findings become an extraction that holds what they stand for. -/
theorem convert_of_sound (h : f.Sound table) :
    ∃ e, f.convert table = .ok e ∧ e.Holds (f.formulas table) f.images := by
  obtain ⟨e, hholds, hconvert⟩ := convert_of_found h.orderly h.found
  -- the blocks come before the images, so their places are apart as well
  have hmath : (Extraction.places (f.formulas table) []).Nodup := by
    have hapart := h.apart
    rw [Extraction.places, List.nodup_append] at hapart
    simpa [Extraction.places] using hapart.1
  obtain ⟨e', hblocks, hholds'⟩ := Extraction.foldlM_addMath hholds hmath
  obtain ⟨e'', himages, hholds''⟩ := Extraction.foldlM_addImage hholds' h.apart
  refine ⟨e'', ?_, hholds''⟩
  rw [hconvert, hblocks]
  exact himages

/-- Refused findings fail with the error that they are refused with. -/
theorem convert_of_refused {err : ConsistencyError} (h : f.Refused table err) :
    f.convert table = .error err := by
  cases h with
  | duplicated hfound horderly hmem hagain =>
      rw [convert_of_offends hfound horderly ⟨hmem, Or.inl hagain⟩, offence, if_pos hagain]
  | taken hfound horderly hmem hnew htaken =>
      rw [convert_of_offends hfound horderly ⟨hmem, Or.inr htaken⟩, offence, if_neg hnew]
  | @unresolved left horderly hleft hperm hsorted =>
      have hmissing : missing table f.pending ≠ [] := by
        intro hnil
        rw [hnil, List.map_nil, List.perm_nil] at hperm
        exact hleft hperm
      rw [convert_of_missing horderly hmissing, mergeSort_eq_of_sorted hperm hsorted,
        hperm.length_eq, List.length_map]
  | @block before after m horderly hmissing hblocks hapart htaken =>
      obtain ⟨e, hholds, hconvert⟩ := convert_of_found horderly hmissing
      rw [hconvert, hblocks, Extraction.foldlM_addMath_error hholds hapart htaken]
      rfl
  | @image before after i horderly hmissing himages hapart htaken =>
      obtain ⟨e, hholds, hconvert⟩ := convert_of_found horderly hmissing
      have hmath : (Extraction.places (f.formulas table) []).Nodup := by
        rw [Extraction.places, List.nodup_append] at hapart
        simpa [Extraction.places] using hapart.1
      obtain ⟨e', hblocks, hholds'⟩ := Extraction.foldlM_addMath hholds hmath
      rw [hconvert, hblocks, himages]
      exact Extraction.foldlM_addImage_error hholds' hapart htaken

/-- Findings that are not all found are refused with what is missing, when the offsets tell in which
    order. -/
theorem refused_of_missing (hoffsets : (table.entries.values.map Placeholder.offset).Nodup)
    (horderly : Orderly table f.pending) (hmissing : missing table f.pending ≠ []) :
    f.Refused table (.unresolved (missing table f.pending).length table.size
      ((((missing table f.pending).map Prod.snd).mergeSort fun a b => a.offset ≤ b.offset).map
        Placeholder.latex)) := by
  have hnd : (((missing table f.pending).map Prod.snd).map Placeholder.offset).Nodup := by
    refine hoffsets.sublist (List.Sublist.map _ ?_)
    exact List.Sublist.map Prod.snd List.filter_sublist
  have hsort := List.mergeSort_perm ((missing table f.pending).map Prod.snd)
    fun a b => a.offset ≤ b.offset
  have hleft : ((missing table f.pending).map Prod.snd).mergeSort
      (fun a b => a.offset ≤ b.offset) ≠ [] := by
    intro hnil
    rw [hnil, List.nil_perm, List.map_eq_nil_iff] at hsort
    exact hmissing hsort
  have hlength := hsort.length_eq
  rw [List.length_map] at hlength
  rw [← hlength]
  exact .unresolved horderly hleft hsort (pairwise_lt_mergeSort hnd)

/-- Findings are sound, or they are refused for a reason. -/
theorem sound_or_refused (table : PlaceholderTable) (f : Findings) :
    f.Sound table ∨ ∃ err, f.convert table = .error err ∧
      ((table.entries.values.map Placeholder.offset).Nodup → f.Refused table err) := by
  have hrefused : ∀ {err}, f.Refused table err → ∃ err, f.convert table = .error err ∧
      ((table.entries.values.map Placeholder.offset).Nodup → f.Refused table err) :=
    fun h => ⟨_, convert_of_refused h, fun _ => h⟩
  rcases orderly_or_offends table f.pending with
    horderly | ⟨before, x, after, hfound, horderly, hmem, hwhy⟩
  · by_cases hmissing : missing table f.pending = []
    · -- all formulas are back, so blocks and then images decide
      rcases Extraction.nodup_or_taken _ MathEntry.range horderly.apart f.blocks with
        hmath | ⟨before, m, after, hblocks, hapart, htaken⟩
      · rw [← List.map_append] at hmath
        rcases Extraction.nodup_or_taken _ ImageEntry.range hmath f.images with
          hapart | ⟨before, i, after, himages, hapart, htaken⟩
        · exact Or.inl ⟨horderly.once, hmissing, hapart⟩
        · exact Or.inr (hrefused (.image horderly hmissing himages hapart htaken))
      · rw [← List.map_append] at hapart htaken
        exact Or.inr (hrefused (.block horderly hmissing hblocks
          (by simpa [Extraction.places] using hapart)
          (by simpa [Extraction.places] using htaken)))
    · exact Or.inr ⟨_, convert_of_missing horderly hmissing,
        fun hoffsets => refused_of_missing hoffsets horderly hmissing⟩
  · by_cases hagain : x.2 ∈ before.map Prod.snd
    · exact Or.inr (hrefused (.duplicated hfound horderly hmem hagain))
    · exact Or.inr (hrefused (.taken hfound horderly hmem hagain (hwhy.resolve_left hagain)))

/-- Findings that are converted are sound. -/
theorem sound_of_convert {e : Extraction} (h : f.convert table = .ok e) : f.Sound table := by
  rcases sound_or_refused table f with hsound | ⟨err, herr, -⟩
  · exact hsound
  · rw [herr] at h
    cases h

/-- What is converted holds what the findings stand for. -/
theorem holds_of_convert {e : Extraction} (h : f.convert table = .ok e) :
    e.Holds (f.formulas table) f.images := by
  obtain ⟨e', hconvert, hholds⟩ := convert_of_sound (sound_of_convert h)
  rw [h] at hconvert
  cases hconvert
  exact hholds

/-- Findings fail with an error exactly when they are refused with it. -/
theorem convert_eq_error_iff (hoffsets : (table.entries.values.map Placeholder.offset).Nodup)
    {err : ConsistencyError} : f.convert table = .error err ↔ f.Refused table err := by
  constructor
  · intro h
    rcases sound_or_refused table f with hsound | ⟨err', herr, hrefused⟩
    · obtain ⟨e, hconvert, -⟩ := convert_of_sound hsound
      rw [hconvert] at h
      cases h
    · rw [h] at herr
      cases herr
      exact hrefused hoffsets
  · exact convert_of_refused

end Findings
end Formulary.Markup
