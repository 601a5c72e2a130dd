import Formulary.Proofs.Markup.Fragments
import Formulary.Proofs.Markup.Minting
import Formulary.Proofs.Markup.Tiling

/-!
# Pieces — cutting a text undoes writing it

A text can be written piece by piece, each between the signs of its kind. When no piece holds the signs
that close it, and plain text without signs at its edges parts the inline formulas from all else, the
text has no other spans than those written, and cutting it gives the pieces back.

* `Piece`, `written` — pieces, and the text that they make.
* `Legible` — pieces that can be told apart again.
* `closeBlock_append`, `closeQuoted_append`, `closeInline_append` — a content is read up to its end.
* `findSpan_piece` — behind plain text a search finds what is written there.
* `map_piece_scan`, `map_piece_segments` — all searches of a written text.
* `pieces_spec` — the segments of a written text, under every limit that is enough.
-/

namespace Formulary.Markup

/-! ## Written texts -/

/-- A piece of a text: its kind and what stands between its signs. -/
structure Piece where
  kind : SegmentKind
  content : List Char
deriving DecidableEq, Repr

namespace Piece

/-- The piece as it is written, signs included. -/
def chars (p : Piece) : List Char := p.kind.opener ++ p.content ++ p.kind.closer

/-- The piece as text. -/
def raw (p : Piece) : String := String.ofList p.chars

end Piece

/-- The piece that a segment is. -/
def Segment.piece (s : Segment) : Piece := ⟨s.kind, s.content⟩

/-- Pieces written one after the other. -/
def written (pieces : List Piece) : List Char := pieces.flatMap Piece.chars

/-- What may stand between the signs of a kind. -/
def MayHold (content : List Char) : SegmentKind → Prop
  | .plain => '$' ∉ content
  | .inline => '$' ∉ content ∧ '\n' ∉ content ∧ content.head? ≠ some '`' ∧ content.getLast? ≠ some '`'
  | .quoted => '\n' ∉ content ∧ ¬ ['`', '$'] <:+: content
  | .block => ¬ ['$', '$'] <:+: content ∧ content.getLast? ≠ some '$'

/-- Which pieces may follow one another: plain text does not follow plain text, and only plain text with
    no backtick at its edge stands beside an inline formula. -/
structure Adjoins (a b : Piece) : Prop where
  apart : a.kind = .plain → b.kind ≠ .plain
  behind : a.kind.hasToken = true → b.kind = .plain ∧ b.content.head? ≠ some '`'
  before : b.kind.hasToken = true → a.kind = .plain ∧ a.content.getLast? ≠ some '`'

/-- Pieces that can be told apart again once they are written. -/
structure Legible (pieces : List Piece) : Prop where
  filled : ∀ p ∈ pieces, p.content ≠ []
  holds : ∀ p ∈ pieces, MayHold p.content p.kind
  adjoins : pieces.IsChain Adjoins

instance (content : List Char) (kind : SegmentKind) : Decidable (MayHold content kind) :=
  match kind with
  | .plain => inferInstanceAs (Decidable ('$' ∉ content))
  | .inline => inferInstanceAs (Decidable ('$' ∉ content ∧ '\n' ∉ content ∧
      content.head? ≠ some '`' ∧ content.getLast? ≠ some '`'))
  | .quoted => inferInstanceAs (Decidable ('\n' ∉ content ∧ ¬ ['`', '$'] <:+: content))
  | .block => inferInstanceAs (Decidable (¬ ['$', '$'] <:+: content ∧ content.getLast? ≠ some '$'))

instance (a b : Piece) : Decidable (Adjoins a b) :=
  decidable_of_iff ((a.kind = .plain → b.kind ≠ .plain) ∧
      (a.kind.hasToken = true → b.kind = .plain ∧ b.content.head? ≠ some '`') ∧
      (b.kind.hasToken = true → a.kind = .plain ∧ a.content.getLast? ≠ some '`'))
    ⟨fun h => ⟨h.1, h.2.1, h.2.2⟩, fun h => ⟨h.apart, h.behind, h.before⟩⟩

instance (pieces : List Piece) : Decidable (Legible pieces) :=
  decidable_of_iff ((∀ p ∈ pieces, p.content ≠ []) ∧ (∀ p ∈ pieces, MayHold p.content p.kind) ∧
      pieces.IsChain Adjoins)
    ⟨fun h => ⟨h.1, h.2.1, h.2.2⟩, fun h => ⟨h.filled, h.holds, h.adjoins⟩⟩

variable {content acc back passed : List Char} {before : Option Char} {n : Nat} {p : Piece}
  {pieces : List Piece}

/-! ## Contents -/

/-- A sign in front of what starts with the other one makes the pair, also where the content ends. -/
theorem pair_in_concat {a b : Char} {rest tail : List Char} (h : rest ++ a :: back = b :: tail) :
    [a, b] <:+: a :: (rest ++ [a]) := by
  cases rest with
  | nil =>
      obtain ⟨rfl, -⟩ := List.cons_eq_cons.mp h
      exact List.infix_refl _
  | cons c rest =>
      obtain ⟨rfl, -⟩ := List.cons_eq_cons.mp h
      exact ⟨[], rest ++ [a], rfl⟩

theorem not_infix_tail {a b c : Char} {rest : List Char} (h : ¬ [a, b] <:+: c :: rest ++ [a]) :
    ¬ [a, b] <:+: rest ++ [a] :=
  fun hrest => h (hrest.trans (List.suffix_cons c _).isInfix)

/-- A pair of signs that a content does not hold does not come about at its end, unless the content
    ends with the first sign and that is the second one, too. -/
theorem not_infix_concat {a b : Char} (h : ¬ [a, b] <:+: content)
    (hlast : a = b → content.getLast? ≠ some a) : ¬ [a, b] <:+: content ++ [a] := by
  rintro ⟨front, rest, happend⟩
  rcases List.eq_nil_or_concat rest with rfl | ⟨rest, c, rfl⟩
  · have hconcat : (front ++ [a]) ++ [b] = content ++ [a] := by
      rw [← happend]
      simp
    obtain ⟨rfl, hb⟩ := List.append_inj' hconcat rfl
    rw [List.singleton_inj] at hb
    exact hlast hb.symm List.getLast?_concat
  · rw [List.concat_eq_append, ← List.append_assoc] at happend
    obtain ⟨hcontent, -⟩ := List.append_inj' happend rfl
    exact h ⟨front, rest, hcontent⟩

/-- The content of a block is read up to its end. -/
theorem closeBlock_append (h : ¬ ['$', '$'] <:+: content ++ ['$']) :
    closeBlock n acc (content ++ '$' :: '$' :: back) = .ok (acc.reverse ++ content, back) := by
  induction content generalizing n acc with
  | nil => rw [List.nil_append, closeBlock, List.append_nil]
  | cons c rest ih =>
      rw [List.cons_append, closeBlock]
      · rw [ih (not_infix_tail h), List.reverse_cons, List.append_assoc]
        rfl
      · rintro after rfl hafter
        exact h (pair_in_concat hafter)

theorem closeQuoted_cons {c d : Char} {after : List Char} (hline : c ≠ '\n')
    (hsigns : ¬ (c = '`' ∧ d = '$')) :
    closeQuoted n acc (c :: d :: after) = closeQuoted (n + 1) (c :: acc) (d :: after) := by
  rw [closeQuoted, if_neg hline, if_neg]
  rintro ⟨hc, hd, -⟩
  exact hsigns ⟨hc, hd⟩

/-- The content of a quoted formula is read up to its end. -/
theorem closeQuoted_append (h : ¬ ['`', '$'] <:+: content ++ ['`']) (hline : '\n' ∉ content)
    (hne : acc.reverse ++ content ≠ []) (hback : clear back.head? = true) :
    closeQuoted n acc (content ++ '`' :: '$' :: back) = .ok (acc.reverse ++ content, back) := by
  induction content generalizing n acc with
  | nil =>
      have hacc : acc ≠ [] := by simpa using hne
      rw [List.nil_append, closeQuoted, if_neg (by decide), List.append_nil]
      simp [hacc, hback]
  | cons c rest ih =>
      obtain ⟨hc, hrest⟩ := List.ne_and_not_mem_of_not_mem_cons hline
      have happend : acc.reverse ++ c :: rest = (c :: acc).reverse ++ rest := by simp
      obtain ⟨d, after, hafter⟩ : ∃ d after, rest ++ '`' :: '$' :: back = d :: after :=
        List.exists_cons_of_ne_nil (by simp)
      have hsigns : ¬ (c = '`' ∧ d = '$') := by
        rintro ⟨rfl, rfl⟩
        exact h (pair_in_concat hafter)
      rw [happend] at hne ⊢
      rw [List.cons_append, hafter, closeQuoted_cons (Ne.symm hc) hsigns, ← hafter,
        ih (not_infix_tail h) hrest hne]

/-- The content of an inline formula is read up to its end. -/
theorem closeInline_append (hsign : '$' ∉ content) (hline : '\n' ∉ content)
    (hne : acc.reverse ++ content ≠ []) (hlast : clear (acc.reverse ++ content).getLast? = true)
    (hback : clear back.head? = true) :
    closeInline n acc (content ++ '$' :: back) = .ok (acc.reverse ++ content, back) := by
  induction content generalizing n acc with
  | nil =>
      have hacc : acc ≠ [] := by simpa using hne
      rw [List.append_nil, List.getLast?_reverse] at hlast
      rw [List.nil_append, closeInline, if_neg (by decide), List.append_nil]
      simp [hacc, hlast, hback]
  | cons c rest ih =>
      obtain ⟨hc, hrest⟩ := List.ne_and_not_mem_of_not_mem_cons hline
      obtain ⟨hdollar, hdollars⟩ := List.ne_and_not_mem_of_not_mem_cons hsign
      have happend : acc.reverse ++ c :: rest = (c :: acc).reverse ++ rest := by simp
      rw [happend] at hne hlast ⊢
      rw [List.cons_append, closeInline, if_neg (Ne.symm hc), if_neg, ih hdollars hrest hne hlast]
      rintro ⟨rfl, -⟩
      exact hdollar rfl

/-! ## Spans -/

theorem clear_of_ne {c : Option Char} (htick : c ≠ some '`') (hdollar : c ≠ some '$') :
    clear c = true := by
  cases c with
  | none => rfl
  | some c =>
      rw [ne_eq, Option.some.injEq] at htick hdollar
      simp [clear, isSign, htick, hdollar]

theorem head?_ne_of_not_mem {c : Char} (h : c ∉ content) : content.head? ≠ some c :=
  fun hc => h (List.mem_of_mem_head? hc)

theorem getLast?_ne_of_not_mem {c : Char} (h : c ∉ content) : content.getLast? ≠ some c :=
  fun hc => h (List.mem_of_getLast? hc)

/-- Where a piece stands that is no plain text, the attempts find it. -/
theorem spanAt_piece (hfilled : p.content ≠ []) (hholds : MayHold p.content p.kind)
    (hkind : p.kind ≠ .plain) (hfree : p.kind.hasToken = true → clear before = true)
    (hback : p.kind.hasToken = true → clear back.head? = true) :
    (spanAt before (p.chars ++ back)).2 = some ⟨p.kind, p.content, back⟩ := by
  obtain ⟨kind, content⟩ := p
  rw [Piece.chars, List.append_assoc, List.append_assoc]
  cases kind with
  | plain => exact absurd rfl hkind
  | block =>
      obtain ⟨hpair, hlast⟩ := hholds
      show (spanAt before ('$' :: '$' :: (content ++ '$' :: '$' :: back))).2 = _
      rw [spanAt_of_blockOpen, closeBlock_append (not_infix_concat hpair fun _ => hlast)]
      rfl
  | quoted =>
      obtain ⟨hline, hpair⟩ := hholds
      show (spanAt before ('$' :: '`' :: (content ++ '`' :: '$' :: back))).2 = _
      have hend := not_infix_concat hpair fun h => absurd h (by decide)
      have hread : closeQuoted 0 [] (content ++ '`' :: '$' :: back) = .ok (content, back) :=
        closeQuoted_append hend hline hfilled (hback rfl)
      rw [spanAt_of_quotedOpen (hfree rfl), hread]
      rfl
  | inline =>
      obtain ⟨hdollar, hline, hhead, hlast⟩ := hholds
      obtain ⟨c, rest, rfl⟩ := List.exists_cons_of_ne_nil hfilled
      have hfirst := clear_of_ne hhead (head?_ne_of_not_mem hdollar)
      have hclear := clear_of_ne hlast (getLast?_ne_of_not_mem hdollar)
      show (spanAt before ('$' :: c :: (rest ++ '$' :: back))).2 = _
      have hsign : isSign c = false := by
        simpa [clear] using hfirst
      have hread : closeInline 0 [] (c :: rest ++ '$' :: back) = .ok (c :: rest, back) :=
        closeInline_append hdollar hline hfilled hclear (hback rfl)
      rw [spanAt_of_inlineOpen (hfree rfl) hsign, ← List.cons_append, hread]
      rfl

/-- A search passes over characters that are no dollar signs. -/
theorem findSpan_passed (h : '$' ∉ passed) (before : Option Char) (acc cs : List Char) :
    findSpan none before acc (passed ++ cs)
      = findSpan none (passed.getLast?.or before) (passed.reverse ++ acc) cs := by
  induction passed generalizing before acc with
  | nil => rfl
  | cons c rest ih =>
      obtain ⟨hc, hrest⟩ := List.ne_and_not_mem_of_not_mem_cons h
      rw [List.cons_append, findSpan_none_of_none (spanAt_of_ne _ (Ne.symm hc) _), ih hrest,
        List.getLast?_cons, List.reverse_cons, List.append_assoc, Option.some_or]
      cases rest.getLast? with
      | none => rfl
      | some d => rfl

theorem findSpan_of_not_mem (h : '$' ∉ passed) (before : Option Char) :
    findSpan none before [] passed = .nothing := by
  have hpassed := findSpan_passed h before [] []
  rw [List.append_nil] at hpassed
  rw [hpassed, findSpan]

/-- Behind plain text a search finds the piece that is written there. -/
theorem findSpan_piece (hpassed : '$' ∉ passed) (hfilled : p.content ≠ [])
    (hholds : MayHold p.content p.kind) (hkind : p.kind ≠ .plain)
    (hfree : p.kind.hasToken = true → clear (passed.getLast?.or before) = true)
    (hback : p.kind.hasToken = true → clear back.head? = true) :
    findSpan none before [] (passed ++ (p.chars ++ back))
      = .span passed ⟨p.kind, p.content, back⟩ := by
  have hspan := spanAt_piece hfilled hholds hkind hfree hback
  obtain ⟨rest, hrest⟩ : ∃ rest, p.chars ++ back = '$' :: rest := by
    obtain ⟨kind, content⟩ := p
    cases kind with
    | plain => exact absurd rfl hkind
    | block => exact ⟨_, rfl⟩
    | quoted => exact ⟨_, rfl⟩
    | inline => exact ⟨_, rfl⟩
  rw [hrest] at hspan ⊢
  rw [findSpan_passed hpassed, findSpan_none_of_some hspan, List.append_nil, List.reverse_reverse]

/-! ## The pieces of a text -/

theorem Piece.chars_of_plain (h : p.kind = .plain) : p.chars = p.content := by
  rw [Piece.chars, h]
  exact List.append_nil _

theorem map_piece_plainSegment {start : Nat} (h : content ≠ []) :
    (plainSegment start content).map Segment.piece = [⟨.plain, content⟩] := by
  rw [plainSegment, if_neg (by simpa using h)]
  rfl

/-- The segment of a span that is not empty is a piece of its kind. -/
theorem piece_segment {kind : SegmentKind} {place : Nat} (h : content ≠ []) :
    ((⟨kind, content, back⟩ : Span).segment place).piece = ⟨kind, content⟩ := by
  rw [Span.segment, if_neg]
  · rfl
  · rintro ⟨-, hempty⟩
    exact h (List.isEmpty_iff.mp hempty)

/-- Plain text in front of an inline formula ends with no sign, whatever stands in front of it. -/
theorem Adjoins.clear_getLast? {q : Piece} (h : Adjoins p q) (hfilled : p.content ≠ [])
    (hdollar : '$' ∉ p.content) (htoken : q.kind.hasToken = true) :
    clear (p.content.getLast?.or before) = true := by
  obtain ⟨-, htick⟩ := h.before htoken
  have hclear := clear_of_ne htick (getLast?_ne_of_not_mem hdollar)
  obtain ⟨c, hc⟩ := Option.isSome_iff_exists.mp (List.getLast?_isSome.mpr hfilled)
  rwa [hc, Option.some_or, ← hc]

theorem Legible.tail (h : Legible (p :: pieces)) : Legible pieces where
  filled q hq := h.filled q (List.mem_cons_of_mem p hq)
  holds q hq := h.holds q (List.mem_cons_of_mem p hq)
  adjoins := (List.isChain_cons.mp h.adjoins).2

/-- What is written behind an inline formula starts with no sign. -/
theorem Legible.clear_head? (h : Legible (p :: pieces)) (htoken : p.kind.hasToken = true) :
    clear (written pieces).head? = true := by
  cases pieces with
  | nil => rfl
  | cons q later =>
      obtain ⟨hplain, htick⟩ := ((List.isChain_cons.mp h.adjoins).1 q rfl).behind htoken
      have hfilled := h.tail.filled q List.mem_cons_self
      have hdollar := h.tail.holds q List.mem_cons_self
      rw [hplain] at hdollar
      rw [written, List.flatMap_cons, Piece.chars_of_plain hplain,
        List.head?_append_of_ne_nil _ hfilled]
      exact clear_of_ne htick (head?_ne_of_not_mem hdollar)

/-- The searches of a written text find the pieces that are no plain text. The induction is on the
    pieces; `passed` is the plain piece in front of them when that was the last one. -/
theorem map_piece_scan {start : Nat} (h : Legible pieces) (hpassed : '$' ∉ passed)
    (hplain : passed ≠ [] → ∀ p ∈ pieces.head?, p.kind ≠ .plain)
    (hfree : ∀ p ∈ pieces.head?, p.kind.hasToken = true → clear (passed.getLast?.or before) = true) :
    (segmentsOf start (passed ++ written pieces)
        (scanFrom none before (passed ++ written pieces)).found).map Segment.piece
      = (plainSegment start passed).map Segment.piece ++ pieces := by
  induction pieces generalizing start passed before with
  | nil =>
      rw [written, List.flatMap_nil, List.append_nil, List.append_nil,
        found_of_nothing (findSpan_of_not_mem hpassed before), segmentsOf]
  | cons p later ih =>
      have hfilled := h.filled p List.mem_cons_self
      have hholds := h.holds p List.mem_cons_self
      obtain ⟨hnext, -⟩ := List.isChain_cons.mp h.adjoins
      by_cases hkind : p.kind = .plain
      · -- plain text is passed over, and nothing was before
        have hnil : passed = [] := by
          by_contra hne
          exact hplain hne p rfl hkind
        have hpiece : (plainSegment start p.content).map Segment.piece = [p] := by
          rw [map_piece_plainSegment hfilled, ← hkind]
        rw [hkind] at hholds
        subst hnil
        rw [written, List.flatMap_cons, Piece.chars_of_plain hkind, ← written, List.nil_append,
          ih h.tail hholds ?_ ?_, hpiece]
        · rfl
        · intro _ q hq
          exact (hnext q hq).apart hkind
        · intro q hq htoken
          exact (hnext q hq).clear_getLast? hfilled hholds htoken
      · -- the search ends at the piece, and behind it no plain text has been passed over yet
        have hfound : findSpan none before [] (passed ++ (p.chars ++ written later))
            = .span passed ⟨p.kind, p.content, written later⟩ :=
          findSpan_piece hpassed hfilled hholds hkind (hfree p rfl) h.clear_head?
        have hlater : ∀ start before, (segmentsOf start ([] ++ written later)
            (scanFrom none before ([] ++ written later)).found).map Segment.piece = later := by
          intro start before
          refine ih h.tail List.not_mem_nil (fun hne => absurd rfl hne) ?_
          intro q hq htoken
          exact absurd ((hnext q hq).before htoken).1 hkind
        rw [written, List.flatMap_cons, ← written, scanFrom_of_span hfound, segmentsOf,
          List.map_append, List.map_cons, piece_segment hfilled]
        exact congrArg _ (congrArg _ (hlater _ _))

/-- When no search runs out of steps, the segments of a written text are its pieces. -/
theorem map_piece_segments {limit : StepLimit} (h : Legible pieces)
    (hlimit : (scanFrom limit none (written pieces)).exhausted = false) :
    (segmentsWithin limit (written pieces)).map Segment.piece = pieces := by
  have hscan : (segmentsOf 0 ([] ++ written pieces)
      (scanFrom none none ([] ++ written pieces)).found).map Segment.piece = pieces :=
    map_piece_scan h List.not_mem_nil (fun hne => absurd rfl hne) fun _ _ _ => rfl
  rw [segmentsWithin, segmentsFrom_eq, found_of_not_exhausted hlimit]
  exact hscan

theorem map_piece_spanSegments (segments : List Segment) :
    (spanSegments segments).map Segment.piece
      = (segments.map Segment.piece).filter fun p => p.kind.hasToken := by
  rw [List.filter_map, spanSegments]
  refine congrArg _ (List.filter_congr ?_)
  intro s _
  show (s.kind == .quoted || s.kind == .inline) = s.kind.hasToken
  cases s.kind <;> rfl

/-- **Cutting undoes writing.** When pieces that can be told apart are written, then under every limit that
    lets no search run out of steps the segments of the text are the pieces, and reformatting them counts the
    blocks. If the identifiers are distinct, their table lists the trimmed contents of the inline formulas in
    the order in which they were written. With the limit `searchLimit` these are `segments` and `reformat`. -/
theorem pieces_spec (ids : Nat → Uuid) (pieces : List Piece) (h : Legible pieces) (limit : StepLimit)
    (hlimit : (scanFrom limit none (written pieces)).exhausted = false) :
    let text := String.ofList (written pieces)
    let segments := segmentsWithin limit text.toList
    let reformatted := reformatSegments ids segments
    segments.map Segment.piece = pieces ∧
      segments.map (fun s => (s.kind, s.raw)) = pieces.map (fun p => (p.kind, p.raw)) ∧
      reformatted.blocks = pieces.countP (fun p => p.kind == .block) ∧
      (MintsApart ids segments →
        reformatted.placeholders.remainingSources
          = (pieces.filter fun p => p.kind.hasToken).map
              fun p => String.ofList (Text.trimChars p.content)) := by
  intro text segments reformatted
  have hcovers : Covers 0 text.toList segments := (mayCut_segmentsFrom limit 0 none text.toList).covers
  have hpieces : segments.map Segment.piece = pieces := by
    have hsegments : segments = segmentsWithin limit (written pieces) := by
      show segmentsWithin limit text.toList = _
      rw [String.toList_ofList]
    rw [hsegments]
    exact map_piece_segments h hlimit
  refine ⟨hpieces, ?_, ?_, ?_⟩
  · rw [← hpieces, List.map_map]
    rfl
  · rw [← hpieces, List.countP_map, List.countP_eq_length_filter]
    rfl
  · intro hids
    show (placeholdersOf ids segments).remainingSources = _
    rw [remainingSources_placeholdersOf hids hcovers.pairwise_start, ← hpieces,
      ← map_piece_spanSegments, List.map_map]
    rfl

/-- Blocks that touch, and contents with dollar signs and backticks of their own. -/
def touchingPieces : List Piece :=
  [⟨.block, ['$', 'x']⟩, ⟨.block, ['y']⟩, ⟨.plain, [' ']⟩, ⟨.inline, ['a', '`', 'b', ' ']⟩,
    ⟨.plain, [',', ' ']⟩, ⟨.quoted, ['$', 'c', '`']⟩, ⟨.plain, [' ', '`']⟩, ⟨.block, ['`', '\n']⟩]

/-- They come back under the limit of the library, and without a limit. -/
theorem pieces_spec_touching :
    (Legible touchingPieces ∧
      (scanFrom (some searchLimit) none (written touchingPieces)).exhausted = false ∧
      MintsApart Uuid.numbered (segments (String.ofList (written touchingPieces)))) ∧
    written touchingPieces = "$$$x$$$$y$$ $a`b $, $`$c``$ `$$`\n$$".toList ∧
    (segments (String.ofList (written touchingPieces))).map Segment.piece = touchingPieces ∧
    (segmentsWithin none (String.ofList (written touchingPieces)).toList).map Segment.piece
      = touchingPieces ∧
    (reformat Uuid.numbered (String.ofList (written touchingPieces))).blocks = 3 ∧
    (reformat Uuid.numbered (String.ofList (written touchingPieces))).placeholders.remainingSources
      = ["a`b", "$c`"] := by
  have hlegible : Legible touchingPieces := by decide
  have hlimit : (scanFrom (some searchLimit) none (written touchingPieces)).exhausted = false := by
    decide +kernel
  obtain ⟨hpieces, -, hblocks, hsources⟩ :=
    pieces_spec Uuid.numbered touchingPieces hlegible (some searchLimit) hlimit
  obtain ⟨hwithout, -⟩ :=
    pieces_spec Uuid.numbered touchingPieces hlegible none (exhausted_scanFrom_none _ _)
  have hids : MintsApart Uuid.numbered (segments (String.ofList (written touchingPieces))) := by
    have htwo : (spanSegments (segments (String.ofList (written touchingPieces)))).length = 2 := by
      decide +kernel
    have hapart : Uuid.numbered 0 ≠ Uuid.numbered 1 := by decide +kernel
    intro i j hi hj hids
    rw [htwo] at hi hj
    by_contra hne
    obtain ⟨rfl, rfl⟩ | ⟨rfl, rfl⟩ : (i = 0 ∧ j = 1) ∨ (i = 1 ∧ j = 0) := by omega
    · exact hapart hids
    · exact hapart hids.symm
  refine ⟨⟨hlegible, hlimit, hids⟩, by decide +kernel, hpieces, hwithout, hblocks,
    (hsources hids).trans ?_⟩
  decide +kernel

end Formulary.Markup
