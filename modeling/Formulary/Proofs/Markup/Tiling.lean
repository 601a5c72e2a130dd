import Formulary.Proofs.Markup.Scan

/-!
# Tilings — the segments of a text cover it piece by piece

The segments follow one another without a gap from the first byte of a text to its last, each is the
slice of its range, and no character is cut in two. This does not hang on the searches: a search that
fails ends the cutting, and then all that is left is one plain piece behind the spans found so far.

* `Tiles` — segments that cover a text.
* `MayCut` — what the cutting of a text may give when any search may fail.
* `Covers` — pieces that follow one another, by their characters.
* `segments_tile` — whatever search fails, the segments cover the text, and they are those of the scan
  without a limit up to the last span found.
-/

namespace Formulary.Markup

/-! ## Tilings -/

/-- Segments cover a text: none is empty, they follow one another from byte 0 to the end of the text,
    their bounds lie between characters, and each is the slice of its range. -/
structure Tiles (text : String) (segments : List Segment) : Prop where
  filled : ∀ s ∈ segments, s.start < s.stop
  first : ∀ s ∈ segments.head?, s.start = 0
  adjacent : segments.IsChain fun a b => a.stop = b.start
  last : (segments.getLast?.map Segment.stop).getD 0 = text.utf8ByteSize
  bounds : ∀ s ∈ segments, String.Pos.Raw.IsValid text ⟨s.start⟩ ∧ String.Pos.Raw.IsValid text ⟨s.stop⟩
  slice : ∀ s ∈ segments, String.Pos.Raw.extract text ⟨s.start⟩ ⟨s.stop⟩ = s.raw
  joined : String.join (segments.map Segment.raw) = text

/-- Segments that follow one another from byte `start` on and hold the characters `cs`. -/
inductive Covers : Nat → List Char → List Segment → Prop
  | nil (start : Nat) : Covers start [] []
  | cons {s : Segment} {rest : List Char} {later : List Segment} (filled : s.chars ≠ [])
      (h : Covers s.stop rest later) : Covers s.start (s.chars ++ rest) (s :: later)

variable {start : Nat} {cs : List Char} {pieces : List Segment} {s : Segment}

/-- The bytes of characters are those of the text that they make. -/
theorem byteSize_eq_utf8Len (cs : List Char) : Text.byteSize cs = String.utf8Len cs := by
  induction cs with
  | nil => rfl
  | cons c rest ih => rw [Text.byteSize_cons, String.utf8Len_cons, ih, Nat.add_comm]

theorem byteSize_toList (text : String) : Text.byteSize text.toList = text.utf8ByteSize := by
  rw [byteSize_eq_utf8Len, ← String.utf8ByteSize_ofList, String.ofList_toList]

/-- A segment that is not empty ends behind its start. -/
theorem Segment.start_lt_stop (h : s.chars ≠ []) : s.start < s.stop := by
  have hlength := List.length_pos_iff.mpr h
  have hbytes := Text.length_le_byteSize s.chars
  rw [Segment.stop]
  omega

/-- A segment stands behind some characters and before others. -/
theorem Covers.split (h : Covers start cs pieces) (hs : s ∈ pieces) :
    ∃ front back, cs = front ++ s.chars ++ back ∧ s.start = start + Text.byteSize front ∧
      s.chars ≠ [] := by
  induction h with
  | nil => cases hs
  | @cons first rest later hfilled hcovers ih =>
      rcases List.mem_cons.mp hs with rfl | hlater
      · exact ⟨[], rest, rfl, rfl, hfilled⟩
      · obtain ⟨front, back, hrest, hstart, hne⟩ := ih hlater
        refine ⟨first.chars ++ front, back, ?_, ?_, hne⟩
        · rw [hrest, List.append_assoc, List.append_assoc, List.append_assoc]
        · rw [hstart, Text.byteSize_append, Segment.stop, Nat.add_assoc]

/-- The first segment starts where the text does. -/
theorem Covers.head?_start (h : Covers start cs pieces) : ∀ s ∈ pieces.head?, s.start = start := by
  intro s hs
  cases h with
  | nil => cases hs
  | cons => rw [Option.mem_some.mp hs]

theorem Covers.head?_chars (h : Covers start cs pieces) :
    ∀ s ∈ pieces.head?, s.chars.head? = cs.head? := by
  intro s hs
  cases h with
  | nil => cases hs
  | @cons first rest later hfilled hcovers =>
      cases hs
      exact (List.head?_append_of_ne_nil _ hfilled).symm

/-- Each segment ends where the next one starts. -/
theorem Covers.adjacent (h : Covers start cs pieces) :
    pieces.IsChain fun a b => a.stop = b.start := by
  induction h with
  | nil => exact List.IsChain.nil
  | cons hfilled hcovers ih =>
      refine List.isChain_cons.mpr ⟨?_, ih⟩
      intro next hnext
      exact (hcovers.head?_start next hnext).symm

/-- Segments stand in the order of their starts. -/
theorem Covers.pairwise_start (h : Covers start cs pieces) :
    pieces.Pairwise fun a b => a.start ≤ b.start := by
  induction h with
  | nil => exact List.Pairwise.nil
  | @cons first rest later hfilled hcovers ih =>
      refine List.pairwise_cons.mpr ⟨?_, ih⟩
      intro s hs
      obtain ⟨front, back, -, hstart, -⟩ := hcovers.split hs
      rw [hstart, Segment.stop, Nat.add_assoc]
      exact Nat.le_add_right _ _

/-- The last segment ends where the text does. -/
theorem Covers.last (h : Covers start cs pieces) :
    (pieces.getLast?.map Segment.stop).getD start = start + Text.byteSize cs := by
  induction h with
  | nil => rfl
  | @cons first rest later hfilled hcovers ih =>
      rw [Text.byteSize_append, ← Nat.add_assoc, ← Segment.stop, ← ih, List.getLast?_cons]
      cases later.getLast? with
      | none => rfl
      | some last => rfl

/-- The characters of all segments are those of the text. -/
theorem Covers.flatMap_chars (h : Covers start cs pieces) : pieces.flatMap Segment.chars = cs := by
  induction h with
  | nil => rfl
  | cons hfilled hcovers ih => rw [List.flatMap_cons, ih]

/-- Segments that hold the characters of a text cover it. -/
theorem Covers.tiles {text : String} (h : Covers 0 text.toList pieces) : Tiles text pieces := by
  have hsplit : ∀ s ∈ pieces, ∃ front back, text = String.ofList (front ++ s.chars ++ back) ∧
      s.start = String.utf8Len front ∧ s.stop = String.utf8Len front + String.utf8Len s.chars := by
    intro s hs
    obtain ⟨front, back, htext, hstart, -⟩ := h.split hs
    refine ⟨front, back, ?_, ?_, ?_⟩
    · rw [← htext, String.ofList_toList]
    · rw [hstart, Nat.zero_add, byteSize_eq_utf8Len]
    · rw [Segment.stop, hstart, Nat.zero_add, byteSize_eq_utf8Len, byteSize_eq_utf8Len]
  constructor
  · intro s hs
    obtain ⟨_, _, _, _, hfilled⟩ := h.split hs
    exact Segment.start_lt_stop hfilled
  · exact h.head?_start
  · exact h.adjacent
  · rw [h.last, Nat.zero_add, byteSize_toList]
  · intro s hs
    obtain ⟨front, back, htext, hstart, hstop⟩ := hsplit s hs
    rw [String.Pos.Raw.isValid_iff_exists_append, String.Pos.Raw.isValid_iff_exists_append]
    constructor
    · refine ⟨String.ofList front, String.ofList (s.chars ++ back), ?_, ?_⟩
      · rw [← String.ofList_append, ← List.append_assoc, htext]
      · rw [hstart, ← String.utf8ByteSize_ofList]
        rfl
    · refine ⟨String.ofList (front ++ s.chars), String.ofList back, ?_, ?_⟩
      · rw [← String.ofList_append, htext]
      · rw [hstop, ← String.utf8Len_append, ← String.utf8ByteSize_ofList]
        rfl
  · intro s hs
    obtain ⟨front, back, htext, hstart, hstop⟩ := hsplit s hs
    rw [htext, hstart, hstop]
    exact String.extract_of_valid front s.chars back
  · rw [← String.toList_inj, String.toList_join, List.flatMap_map]
    refine Eq.trans ?_ h.flatMap_chars
    refine List.flatMap_congr ?_
    intro s _
    exact String.toList_ofList

/-! ## Cuttings -/

/-- What the cutting of the text from byte `start` on may give when any search may fail and `n` searches
    find a span: a search that fails leaves all as plain text, as one that finds nothing does. -/
inductive MayCut : Nat → Nat → Option Char → List Char → List Segment → Prop
  | ended {start : Nat} {before : Option Char} {cs : List Char} :
      MayCut 0 start before cs (plainSegment start cs)
  | found {n start : Nat} {before : Option Char} {cs passed : List Char} {span : Span}
      {later : List Segment} (h : findSpan none before [] cs = .span passed span)
      (rest : MayCut n (span.segment (start + Text.byteSize passed)).stop span.chars.getLast?
        span.rest later) :
      MayCut (n + 1) start before cs
        (plainSegment start passed ++ span.segment (start + Text.byteSize passed) :: later)

/-- The segments of some spans that were found, and of the text in front of them. -/
def completed (start : Nat) : List (List Char × Span) → List Segment
  | [] => []
  | (passed, span) :: later =>
    let segment := span.segment (start + Text.byteSize passed)
    plainSegment start passed ++ segment :: completed segment.stop later

/-- Segments are those that a scan without a limit gives up to its `n`-th span, and at most one plain
    segment behind them. -/
def BreaksOff (text : String) (n : Nat) (pieces : List Segment) : Prop :=
  ∃ rest, pieces = completed 0 ((scanFrom none none text.toList).found.take n) ++ rest ∧
    completed 0 ((scanFrom none none text.toList).found.take n) <+: segmentsWithin none text.toList ∧
    rest.length ≤ 1 ∧ ∀ s ∈ rest, s.kind = .plain

variable {before : Option Char} {passed : List Char} {n : Nat}

/-- Plain text in front of what is covered is covered by one more segment. -/
theorem Covers.append_plain (h : Covers (start + Text.byteSize passed) cs pieces) :
    Covers start (passed ++ cs) (plainSegment start passed ++ pieces) := by
  cases passed with
  | nil => exact h
  | cons c rest =>
      have hchars : Segment.chars ⟨.plain, start, c :: rest⟩ = c :: rest := List.append_nil _
      have hstop : Covers (Segment.stop ⟨.plain, start, c :: rest⟩) cs pieces := by
        rw [Segment.stop, hchars]
        exact h
      have hcovers := Covers.cons (by rw [hchars]; exact List.cons_ne_nil c rest) hstop
      rwa [hchars] at hcovers

theorem covers_plainSegment (start : Nat) (cs : List Char) : Covers start cs (plainSegment start cs) := by
  have hcovers : Covers start (cs ++ []) (plainSegment start cs ++ []) :=
    (Covers.nil (start + Text.byteSize cs)).append_plain
  rwa [List.append_nil, List.append_nil] at hcovers

/-- Whatever search fails, the segments cover the text. -/
theorem MayCut.covers (h : MayCut n start before cs pieces) : Covers start cs pieces := by
  induction h with
  | ended => exact covers_plainSegment _ _
  | found hfound hrest ih =>
      obtain ⟨hcs, hne⟩ := findSpan_append hfound
      have hcons := Covers.cons (by rw [Span.chars_segment]; exact hne) ih
      rw [Span.chars_segment, start_segment] at hcons
      rw [hcs]
      exact hcons.append_plain

/-- Whatever search fails, the segments are those of the first spans of the scan. -/
theorem MayCut.eq_segmentsOf (h : MayCut n start before cs pieces) :
    pieces = segmentsOf start cs ((scanFrom none before cs).found.take n) := by
  induction h with
  | ended => rfl
  | found hfound hrest ih => rw [scanFrom_of_span hfound, List.take_succ_cons, segmentsOf, ← ih]

/-- Behind the segments of the spans that were found there is at most one, of plain text. -/
theorem segmentsOf_eq_append (start : Nat) (cs : List Char) (found : List (List Char × Span)) :
    ∃ rest, segmentsOf start cs found = completed start found ++ rest ∧ rest.length ≤ 1 ∧
      ∀ s ∈ rest, s.kind = .plain := by
  induction found generalizing start cs with
  | nil =>
      refine ⟨plainSegment start cs, rfl, ?_, ?_⟩
      · rw [plainSegment]
        split <;> simp
      · rw [plainSegment]
        split <;> simp
  | cons entry later ih =>
      obtain ⟨rest, hrest, hlength, hplain⟩ :=
        ih (entry.2.segment (start + Text.byteSize entry.1)).stop entry.2.rest
      refine ⟨rest, ?_, hlength, hplain⟩
      rw [segmentsOf, completed, hrest, List.append_assoc, List.cons_append]

/-- The segments up to some span are the first ones, whatever is found behind it. -/
theorem completed_isPrefix (start : Nat) (cs : List Char) {a b : List (List Char × Span)}
    (h : a <+: b) : completed start a <+: segmentsOf start cs b := by
  induction a generalizing start cs b with
  | nil => exact List.nil_prefix
  | cons entry later ih =>
      obtain ⟨tail, rfl⟩ := h
      rw [List.cons_append, completed, segmentsOf]
      refine (List.prefix_append_right_inj _).mpr (List.cons_prefix_cons.mpr ⟨rfl, ?_⟩)
      exact ih _ _ (List.prefix_append later tail)

/-- Cutting within a limit is one of the ways in which searches may fail. -/
theorem mayCut_segmentsFrom (limit : StepLimit) (start : Nat) (before : Option Char)
    (cs : List Char) :
    MayCut (scanFrom limit before cs).found.length start before cs
      (segmentsFrom limit start before cs) := by
  fun_induction segmentsFrom limit start before cs with
  | case1 start before cs passed span hfound segment ih =>
      have hchars : segment.chars = span.chars := Span.chars_segment _ _
      rw [hchars] at ih ⊢
      rw [scanFrom_of_span hfound]
      exact .found (findSpan_none_eq hfound Found.noConfusion) ih
  | case2 start before cs hfound =>
      rw [found_of_nothing hfound]
      exact .ended
  | case3 start before cs hfound =>
      rw [found_of_exhausted hfound]
      exact .ended

/-- A cutting that breaks off does so behind whole segments, with at most one plain segment for the rest. -/
theorem MayCut.breaksOff {text : String} (h : MayCut n 0 none text.toList pieces) :
    BreaksOff text n pieces := by
  obtain ⟨rest, happend, hlength, hplain⟩ :=
    segmentsOf_eq_append 0 text.toList ((scanFrom none none text.toList).found.take n)
  refine ⟨rest, h.eq_segmentsOf.trans happend, ?_, hlength, hplain⟩
  rw [segmentsWithin, segmentsFrom_eq]
  exact completed_isPrefix 0 text.toList (List.take_prefix n _)

/-- The segments of a text cover it. So they do whatever search fails, and then they are those of the
    scan without a limit up to the last span found, and one plain segment with all the rest. -/
theorem segments_tile (text : String) :
    Tiles text (segments text) ∧
      (∀ limit, MayCut (scanFrom limit none text.toList).found.length 0 none text.toList
        (segmentsWithin limit text.toList)) ∧
      ∀ n cut, MayCut n 0 none text.toList cut → Tiles text cut ∧ BreaksOff text n cut := by
  have hmay := fun limit => mayCut_segmentsFrom limit 0 none text.toList
  refine ⟨(hmay (some searchLimit)).covers.tiles, hmay, ?_⟩
  intro n cut hcut
  exact ⟨hcut.covers.tiles, hcut.breaksOff⟩

/-- A search that fails behind the first of two spans leaves the second in plain text. -/
theorem segments_tile_broken_off :
    MayCut 1 0 none "$a$ $b$".toList [⟨.inline, 0, ['a']⟩, ⟨.plain, 3, [' ', '$', 'b', '$']⟩] ∧
      Tiles "$a$ $b$" [⟨.inline, 0, ['a']⟩, ⟨.plain, 3, [' ', '$', 'b', '$']⟩] ∧
      BreaksOff "$a$ $b$" 1 [⟨.inline, 0, ['a']⟩, ⟨.plain, 3, [' ', '$', 'b', '$']⟩] := by
  have hfound : findSpan none none [] "$a$ $b$".toList
      = .span [] ⟨.inline, ['a'], [' ', '$', 'b', '$']⟩ := by decide
  have hmay : MayCut 1 0 none _ _ := .found hfound .ended
  exact ⟨hmay, (segments_tile "$a$ $b$").2.2 1 _ hmay⟩

end Formulary.Markup
