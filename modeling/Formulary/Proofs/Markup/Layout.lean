import Formulary.Proofs.Markup.Scan

/-!
# Layouts — the segments of a text by the occurrences in it

A layout writes down the segments that belong to a list of occurrences: each occurrence gives the segment
of its shape, and what lies between two of them is plain text. When no search runs out of steps the
segments of a text are the layout of the occurrences that are to be taken, and there is one such list.

* `layout` — the segments of some occurrences.
* `segmentsOf_foundOf` — the segments of the occurrences that a scan finds.
* `segments_layout` — the segments of a text, under every limit that is enough.
-/

namespace Formulary.Markup

variable {t : List Char} {o : Occurrence} {a b start : Nat}

/-! ## Layouts -/

/-- The text between two positions as plain text, unless there is none. -/
def plainBetween (t : List Char) (a b : Nat) : List Segment :=
  if a < b then [⟨.plain, offset t a, t.extract a b⟩] else []

/-- The segment of an occurrence; one without content is plain text. -/
def Occurrence.segment (t : List Char) (o : Occurrence) : Segment :=
  if o.content t = [] then ⟨.plain, offset t o.opening, t.extract o.opening o.stop⟩
  else ⟨o.kind, offset t o.opening, o.content t⟩

/-- The segments from position `start` on, by the occurrences there. -/
def layout (t : List Char) (start : Nat) : List Occurrence → List Segment
  | [] => plainBetween t start t.length
  | o :: later => plainBetween t start o.opening ++ o.segment t :: layout t o.stop later

/-- Plain text between two positions is cut as the layout has it. -/
theorem plainSegment_extract (hab : a ≤ b) (hb : b ≤ t.length) :
    plainSegment (offset t a) (t.extract a b) = plainBetween t a b := by
  have hlength : (t.extract a b).length = b - a := by
    rw [List.length_take, List.length_drop]
    omega
  rw [plainSegment, plainBetween]
  by_cases h : a < b
  · have hne : (t.extract a b).isEmpty = false := by
      rw [List.isEmpty_eq_false_iff, ← List.length_pos_iff, hlength]
      omega
    rw [if_pos h, hne]
    rfl
  · have hab' : a = b := by omega
    rw [if_neg h, hab', extract_self]
    rfl

/-- Only a block can be without content. -/
theorem Occurs.content_eq_nil (h : Occurs t o) (hcontent : o.content t = []) : o.kind = .block := by
  have hlength := congrArg List.length hcontent
  rw [Occurrence.content, List.length_take, List.length_drop, List.length_nil] at hlength
  have hclosing := h.opening_lt.2
  have hroom := h.encloses.room
  have hleast : o.kind.least = 0 := by omega
  cases hkind : o.kind with
  | block => rfl
  | _ =>
      rw [hkind] at hleast
      cases hleast

/-- The segment of an occurrence is that of its span. -/
theorem Occurs.segment (h : Occurs t o) : (o.span t).segment (offset t o.opening) = o.segment t := by
  rw [Span.segment, Occurrence.segment]
  by_cases hcontent : o.content t = []
  · have hkind := h.content_eq_nil hcontent
    have hchars := h.chars
    rw [Span.chars] at hchars
    simp only [Occurrence.span, hkind, hcontent] at hchars
    simp only [Occurrence.span, hkind, hcontent, List.isEmpty_nil, and_self, if_true, ← hchars]
    rfl
  · have hblock : ¬ ((o.span t).kind = .block ∧ (o.span t).content.isEmpty = true) := by
      rintro ⟨-, hempty⟩
      exact hcontent (List.isEmpty_iff.mp hempty)
    rw [if_neg hblock, if_neg hcontent]
    rfl

/-- The segments of the occurrences that are taken are their layout. -/
theorem segmentsOf_foundOf {occurrences : List Occurrence} (h : TakenFrom t start occurrences)
    (hstart : start ≤ t.length) :
    segmentsOf (offset t start) (t.drop start) (foundOf t start occurrences)
      = layout t start occurrences := by
  induction h with
  | @done start hnone =>
      have hdrop : t.drop start = t.extract start t.length := by
        rw [List.extract, List.take_of_length_le (by rw [List.length_drop])]
      rw [foundOf, segmentsOf, hdrop, plainSegment_extract hstart (Nat.le_refl _), layout]
  | @next start o later ahead leftmost taken rest ih =>
      have hopening : o.opening ≤ t.length := taken.occurs.opening_le_stop.trans taken.occurs.stop_le
      have hstop : offset t o.opening + Text.byteSize (o.span t).chars = offset t o.stop := by
        rw [taken.occurs.chars, offset_add taken.occurs.opening_le_stop]
      rw [foundOf, segmentsOf, layout, offset_add ahead, plainSegment_extract ahead hopening,
        stop_segment, hstop, taken.occurs.segment]
      exact congrArg _ (congrArg _ (ih taken.occurs.stop_le))

/-! ## The segments of a text -/

/-- What is taken occurs in the text. -/
theorem TakenFrom.occurs {occurrences : List Occurrence} (h : TakenFrom t start occurrences)
    (ho : o ∈ occurrences) : Occurs t o := by
  induction h with
  | done => cases ho
  | next ahead leftmost taken rest ih =>
      rcases List.mem_cons.mp ho with rfl | hlater
      · exact taken.occurs
      · exact ih hlater

theorem latex?_plainBetween (t : List Char) (a b : Nat) :
    (plainBetween t a b).filterMap Segment.latex? = [] := by
  rw [plainBetween]
  by_cases h : a < b
  · rw [if_pos h]
    rfl
  · rw [if_neg h]
    rfl

/-- The formula of an occurrence, unless it is without content. -/
def Occurrence.latex? (t : List Char) (o : Occurrence) : Option String :=
  if o.content t = [] then none else some (String.ofList (Text.trimChars (o.content t)))

/-- The formula of a segment is that of its occurrence. -/
theorem Occurs.latex?_segment (h : Occurs t o) : (o.segment t).latex? = o.latex? t := by
  rw [Occurrence.segment, Occurrence.latex?]
  by_cases hcontent : o.content t = []
  · rw [if_pos hcontent, if_pos hcontent]
    rfl
  · rw [if_neg hcontent, if_neg hcontent]
    have hopens := h.opens
    cases hkind : o.kind with
    | plain =>
        rw [hkind] at hopens
        exact hopens.elim
    | _ => rfl

/-- The formulas of a layout are those of its occurrences; plain text has none. -/
theorem latex?_layout {occurrences : List Occurrence} (h : ∀ o ∈ occurrences, Occurs t o) :
    (layout t start occurrences).filterMap Segment.latex?
      = occurrences.filterMap (Occurrence.latex? t) := by
  induction occurrences generalizing start with
  | nil => exact latex?_plainBetween t start t.length
  | cons o later ih =>
      rw [layout, List.filterMap_append, latex?_plainBetween, List.nil_append, List.filterMap_cons,
        List.filterMap_cons, (h o List.mem_cons_self).latex?_segment,
        ih fun other hother => h other (List.mem_cons_of_mem o hother)]

/-- There is one list of the occurrences of a text that are to be taken. Under every limit that lets no
    search run out of steps, and so without a limit, the segments of the text are its layout and their formulas
    are those of the list. The limit of `segments` is `searchLimit`. -/
theorem segments_layout (text : String) :
    let t := text.toList
    ∃ occurrences, (∀ other, TakenFrom t 0 other ↔ other = occurrences) ∧
      (scanFrom none none t).exhausted = false ∧
      ∀ limit, (scanFrom limit none t).exhausted = false →
        segmentsWithin limit t = layout t 0 occurrences ∧
        (segmentsWithin limit t).filterMap Segment.latex?
          = occurrences.filterMap (Occurrence.latex? t) := by
  intro t
  obtain ⟨occurrences, htaken, hfound⟩ := scanFrom_takenFrom t 0
  refine ⟨occurrences, ?_, exhausted_scanFrom_none none t, ?_⟩
  · intro other
    constructor
    · intro hother
      exact hother.unique htaken
    · rintro rfl
      exact htaken
  · intro limit h
    have hsegments : segmentsWithin limit t = layout t 0 occurrences := by
      have hlayout := segmentsOf_foundOf htaken (Nat.zero_le _)
      rw [← hfound] at hlayout
      rw [segmentsWithin, segmentsFrom_eq, found_of_not_exhausted h]
      exact hlayout
    refine ⟨hsegments, ?_⟩
    rw [hsegments]
    exact latex?_layout fun o ho => htaken.occurs ho

/-- A text with all three shapes, a block without content, and signs that open or close nothing. -/
def mixedText : String := "a$b$ $$$$ $`c$d`$ $e$$ x$$ $"

/-- The limit of the library is enough for it, as is none. -/
theorem segments_layout_mixed :
    (scanFrom (some searchLimit) none mixedText.toList).exhausted = false ∧
      ∃ occurrences, (∀ other, TakenFrom mixedText.toList 0 other ↔ other = occurrences) ∧
        segments mixedText = layout mixedText.toList 0 occurrences ∧
        segmentsWithin none mixedText.toList = layout mixedText.toList 0 occurrences ∧
        (segments mixedText).filterMap Segment.latex?
          = occurrences.filterMap (Occurrence.latex? mixedText.toList) := by
  have h : (scanFrom (some searchLimit) none mixedText.toList).exhausted = false := by
    decide +kernel
  obtain ⟨occurrences, hunique, hnone, hlayout⟩ := segments_layout mixedText
  obtain ⟨hsegments, hformulas⟩ := hlayout (some searchLimit) h
  exact ⟨h, occurrences, hunique, hsegments, (hlayout none hnone).1, hformulas⟩

end Formulary.Markup
