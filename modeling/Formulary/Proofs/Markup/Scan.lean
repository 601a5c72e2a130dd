import Formulary.Proofs.Markup.Search

/-!
# Scans — the searches of a text, one after another

Cutting a text into segments is a run of searches, each from the end of the span that the one before
found, until a search finds nothing or runs out of steps. A limit changes nothing but where this run
breaks off, and without a limit the searches find the occurrences that are to be taken.

* `Scan`, `scanFrom` — the spans that are found, and whether the last search ran out of steps.
* `segmentsOf` — the segments of a text by the spans that were found in it.
* `segmentsFrom_eq` — the segments of a text are those of its scan.
* `exhausted_scanFrom_none` — without a limit no search runs out of steps.
* `found_of_not_exhausted` — a scan in which no search runs out of steps is the one without a limit.
* `scanFrom_takenFrom` — what a scan without a limit finds.
-/

namespace Formulary.Markup

/-- The segment of a span holds its characters, also when it is plain text. -/
theorem Span.chars_segment (span : Span) (start : Nat) :
    (span.segment start).chars = span.chars := by
  obtain ⟨kind, content, rest⟩ := span
  rw [Span.segment]
  by_cases h : kind = .block ∧ content.isEmpty
  · obtain ⟨rfl, hempty⟩ := h
    rw [List.isEmpty_iff] at hempty
    subst hempty
    rfl
  · rw [if_neg h]
    rfl

theorem start_segment (span : Span) (place : Nat) : (span.segment place).start = place := by
  rw [Span.segment]
  by_cases h : span.kind = .block ∧ span.content.isEmpty
  · rw [if_pos h]
  · rw [if_neg h]

/-- The segment of a span ends as many bytes behind its place as the span has. -/
theorem stop_segment (span : Span) (place : Nat) :
    (span.segment place).stop = place + Text.byteSize span.chars := by
  rw [Segment.stop, Span.chars_segment, start_segment]

/-- What the searches of a text find: the spans, each behind the characters passed over, and whether
    the last search ran out of steps. -/
structure Scan where
  found : List (List Char × Span)
  exhausted : Bool

/-- The searches of the text behind the character `before`. -/
def scanFrom (limit : StepLimit) (before : Option Char) (cs : List Char) : Scan :=
  match _h : findSpan limit before [] cs with
  | .span passed span =>
    let later := scanFrom limit span.chars.getLast? span.rest
    ⟨(passed, span) :: later.found, later.exhausted⟩
  | .nothing => ⟨[], false⟩
  | .exhausted => ⟨[], true⟩
termination_by cs.length
decreasing_by exact length_rest_findSpan _h

/-- The segments of the text from byte `start` on, by the spans that were found in it. -/
def segmentsOf (start : Nat) (cs : List Char) : List (List Char × Span) → List Segment
  | [] => plainSegment start cs
  | (passed, span) :: later =>
    let segment := span.segment (start + Text.byteSize passed)
    plainSegment start passed ++ segment :: segmentsOf segment.stop span.rest later

variable {limit : StepLimit} {before : Option Char} {cs passed : List Char} {span : Span}

/-- A search that finds a span is followed by those of the text behind it. -/
theorem scanFrom_of_span (h : findSpan limit before [] cs = .span passed span) :
    scanFrom limit before cs
      = ⟨(passed, span) :: (scanFrom limit span.chars.getLast? span.rest).found,
          (scanFrom limit span.chars.getLast? span.rest).exhausted⟩ := by
  rw [scanFrom]
  split
  · rename_i hfound
    obtain ⟨rfl, rfl⟩ := Found.span.inj (hfound.symm.trans h)
    rfl
  · rename_i hfound
    exact Found.noConfusion (hfound.symm.trans h)
  · rename_i hfound
    exact Found.noConfusion (hfound.symm.trans h)

/-- A search that finds no span is the last one, whether it found nothing or ran out of steps. -/
theorem found_of_not_span (h : ∀ passed span, findSpan limit before [] cs ≠ .span passed span) :
    (scanFrom limit before cs).found = [] := by
  rw [scanFrom]
  split
  · rename_i hfound
    exact absurd hfound (h _ _)
  · rfl
  · rfl

theorem found_of_nothing (h : findSpan limit before [] cs = .nothing) :
    (scanFrom limit before cs).found = [] :=
  found_of_not_span fun _ _ hspan => Found.noConfusion (h.symm.trans hspan)

theorem found_of_exhausted (h : findSpan limit before [] cs = .exhausted) :
    (scanFrom limit before cs).found = [] :=
  found_of_not_span fun _ _ hspan => Found.noConfusion (h.symm.trans hspan)

/-- The segments of a text are those of the spans that its searches find. -/
theorem segmentsFrom_eq (limit : StepLimit) (start : Nat) (before : Option Char) (cs : List Char) :
    segmentsFrom limit start before cs = segmentsOf start cs (scanFrom limit before cs).found := by
  fun_induction segmentsFrom limit start before cs with
  | case1 start before cs passed span hfound segment ih =>
      have hchars : segment.chars = span.chars := Span.chars_segment _ _
      rw [hchars] at ih ⊢
      rw [scanFrom_of_span hfound, segmentsOf, ih]
  | case2 start before cs hfound => rw [found_of_nothing hfound, segmentsOf]
  | case3 start before cs hfound => rw [found_of_exhausted hfound, segmentsOf]

/-- Without a limit no search runs out of steps. -/
theorem exhausted_scanFrom_none (before : Option Char) (cs : List Char) :
    (scanFrom none before cs).exhausted = false := by
  fun_induction scanFrom none before cs with
  | case1 before cs passed span hfound later ih => exact ih
  | case2 => rfl
  | case3 before cs hfound => exact absurd hfound (findSpan_none_ne_exhausted _ _ _)

/-- When no search runs out of steps, all spans are found. -/
theorem found_of_not_exhausted (h : (scanFrom limit before cs).exhausted = false) :
    (scanFrom limit before cs).found = (scanFrom none before cs).found := by
  fun_induction scanFrom limit before cs with
  | case1 before cs passed span hfound later ih =>
      rw [scanFrom_of_span (findSpan_none_eq hfound Found.noConfusion)]
      exact congrArg ((passed, span) :: ·) (ih h)
  | case2 before cs hfound =>
      exact (found_of_nothing (findSpan_none_eq hfound Found.noConfusion)).symm
  | case3 => exact Bool.noConfusion h

/-! ## What a scan finds -/

/-- What searches find when they find some occurrences. -/
def foundOf (t : List Char) (start : Nat) : List Occurrence → List (List Char × Span)
  | [] => []
  | o :: later => (t.extract start o.opening, o.span t) :: foundOf t o.stop later

/-- The searches of a text find the occurrences that are to be taken. -/
theorem scanFrom_takenFrom (t : List Char) (start : Nat) :
    ∃ occurrences, TakenFrom t start occurrences ∧
      (scanFrom none (charBefore t start) (t.drop start)).found = foundOf t start occurrences := by
  generalize hcs : t.drop start = cs
  induction hn : cs.length using Nat.strongRecOn generalizing start cs with
  | ind n ih =>
      subst hn
      have hlooked := findSpan_looked_start t start
      rw [hcs] at hlooked
      generalize hfound : findSpan none (charBefore t start) [] cs = found at hlooked
      cases hlooked with
      | @span o ahead leftmost taken =>
          have hlength : (t.drop o.stop).length < cs.length := length_rest_findSpan hfound
          obtain ⟨later, htaken, hlater⟩ := ih _ hlength o.stop _ rfl rfl
          refine ⟨o :: later, .next ahead leftmost taken htaken, ?_⟩
          rw [scanFrom_of_span hfound, ← taken.occurs.charBefore_stop, foundOf, ← hlater]
          rfl
      | nothing hnone => exact ⟨[], .done hnone, found_of_nothing hfound⟩

end Formulary.Markup
