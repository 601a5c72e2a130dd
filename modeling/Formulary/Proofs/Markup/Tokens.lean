import Formulary.Proofs.Markup.Fragments
import Formulary.Proofs.Markup.Tiling

/-!
# Tokens — identifiers stand alone between backticks

An inline formula opens behind a character that is no sign and closes in front of one, so plain text
stands on both sides of it, and what touches it is neither a backtick nor a dollar sign. The token that
takes its place is a backtick, an identifier and a backtick, and neither backtick joins another one.

* `Isolated`, `isolated_segments` — segments that follow one another, whatever search fails.
* `RunAt` — a run of backticks that goes on neither way.
* `length_toChars`, `tick_not_mem_toChars` — the characters of an identifier.
* `neighbours_of_hasToken` — what stands beside a segment with a token.
* `tokens_spec` — the tokens of a text.
-/

namespace Formulary.Markup

/-! ## Neighbours -/

/-- Of two segments that follow one another, one with a token touches plain text at a character that is
    no sign. -/
structure Isolated (a b : Segment) : Prop where
  behind : a.kind.hasToken = true → b.kind = .plain ∧ clear b.chars.head? = true
  before : b.kind.hasToken = true → a.kind = .plain ∧ clear a.chars.getLast? = true

variable {t cs passed : List Char} {before : Option Char} {span : Span} {n start i : Nat}
  {pieces : List Segment}

theorem charBefore_eq_getLast? (h : i ≤ t.length) : charBefore t i = (t.take i).getLast? := by
  rw [charBefore, List.getLast?_eq_getElem?, List.length_take, Nat.min_eq_left h]
  by_cases hi : i = 0
  · rw [if_pos hi, hi, List.take_zero]
    rfl
  · rw [if_neg hi, List.getElem?_take_of_lt (by omega)]

/-- The signs of a span that an identifier stands for touch no sign outside of it. -/
theorem clear_of_findSpan (h : findSpan none before [] cs = .span passed span)
    (htoken : span.kind.hasToken = true) :
    clear (passed.getLast?.or before) = true ∧ clear span.rest.head? = true := by
  obtain ⟨o, hahead, htaken, hpassed, rfl⟩ := findSpan_taken h
  generalize ht : before.toList ++ cs = t at hahead htaken hpassed
  obtain ⟨hopens, hcloses⟩ :
      FreeAt t o.opening ∧ ¬ SignAt t o.stop := by
    have hopens := htaken.occurs.opens
    have hcloses := htaken.occurs.encloses.closes
    obtain ⟨kind, opening, closing⟩ := o
    cases kind with
    | plain => cases htoken
    | block => cases htoken
    | quoted => exact ⟨hopens.1, hcloses.2.2⟩
    | inline => exact ⟨hopens.1, hcloses.2.2⟩
  have hfront : t.take o.opening = before.toList ++ passed := by
    have happend := extract_append (t := t) (Nat.zero_le _) hahead
    rw [← hpassed] at happend
    have hbefore : t.extract 0 before.toList.length = before.toList := by
      rw [List.extract, List.drop_zero, Nat.sub_zero, ← ht, List.take_left]
    rw [hbefore] at happend
    exact happend.symm
  have hlength : o.opening ≤ t.length := htaken.occurs.opening_le_stop.trans htaken.occurs.stop_le
  constructor
  · have hfree := clear_charBefore_iff.mpr hopens
    rw [charBefore_eq_getLast? hlength, hfront, List.getLast?_append] at hfree
    cases before with
    | none => exact hfree
    | some c => exact hfree
  · rw [Occurrence.span, List.head?_drop]
    exact clear_iff.mpr hcloses

/-- A span ends with a dollar sign. -/
theorem getLast?_of_findSpan (h : findSpan none before [] cs = .span passed span) :
    span.chars.getLast? = some '$' := by
  obtain ⟨o, -, htaken, -, rfl⟩ := findSpan_taken h
  have hopens := htaken.occurs.opens
  obtain ⟨kind, opening, closing⟩ := o
  rw [Span.chars, List.getLast?_append]
  cases kind with
  | plain => exact hopens.elim
  | block => rfl
  | quoted => rfl
  | inline => rfl

theorem hasToken_segment (h : (span.segment start).kind.hasToken = true) :
    span.kind.hasToken = true := by
  rw [Span.segment] at h
  by_cases hempty : span.kind = .block ∧ span.content.isEmpty
  · rw [if_pos hempty] at h
    cases h
  · rwa [if_neg hempty] at h

/-- A segment that does not start with a sign is plain text. -/
theorem kind_of_clear {s : Segment} (h : clear s.chars.head? = true) : s.kind = .plain := by
  refine kind_of_head? ?_
  intro hdollar
  rw [hdollar] at h
  cases h

/-- Whatever search fails, a segment with a token has plain text around it. The induction is on the
    spans that were found; behind the sign that ends a span no identifier can open. -/
theorem MayCut.isolated (h : MayCut n start before cs pieces) :
    pieces.IsChain Isolated ∧
      ∀ s ∈ pieces.head?, s.kind.hasToken = true → clear before = true := by
  induction h with
  | @ended start before cs =>
      rw [plainSegment]
      cases cs with
      | nil =>
          refine ⟨List.IsChain.nil, ?_⟩
          intro s hs
          cases hs
      | cons c rest =>
          refine ⟨List.IsChain.singleton _, ?_⟩
          rintro s hs htoken
          cases hs
          cases htoken
  | @found n start before cs passed span later hfound hrest ih =>
      obtain ⟨hchain, hhead⟩ := ih
      rw [getLast?_of_findSpan hfound] at hhead
      have hspan : ((span.segment (start + Text.byteSize passed)) :: later).IsChain Isolated := by
        refine List.isChain_cons.mpr ⟨?_, hchain⟩
        intro next hnext
        refine ⟨?_, ?_⟩
        · intro htoken
          obtain ⟨-, hclear⟩ := clear_of_findSpan hfound (hasToken_segment htoken)
          rw [← hrest.covers.head?_chars next hnext] at hclear
          exact ⟨kind_of_clear hclear, hclear⟩
        · intro htoken
          exact absurd (hhead next hnext htoken) (by decide)
      have hfree : (span.segment (start + Text.byteSize passed)).kind.hasToken = true →
          clear (passed.getLast?.or before) = true :=
        fun htoken => (clear_of_findSpan hfound (hasToken_segment htoken)).1
      cases passed with
      | nil =>
          refine ⟨hspan, ?_⟩
          intro s hs htoken
          cases hs
          exact hfree htoken
      | cons c rest =>
          have hplain : plainSegment start (c :: rest) = [⟨.plain, start, c :: rest⟩] := rfl
          rw [hplain, List.singleton_append]
          refine ⟨List.isChain_cons.mpr ⟨?_, hspan⟩, ?_⟩
          · intro next hnext
            cases hnext
            refine ⟨fun htoken => Bool.noConfusion htoken, ?_⟩
            intro htoken
            have hlast := hfree htoken
            rw [List.getLast?_cons, Option.some_or, ← List.getLast?_cons] at hlast
            refine ⟨rfl, ?_⟩
            rw [Segment.chars]
            simpa [SegmentKind.opener, SegmentKind.closer] using hlast
          · intro s hs htoken
            cases hs
            cases htoken

theorem isolated_segments (text : String) : (segments text).IsChain Isolated :=
  (mayCut_segmentsFrom (some searchLimit) 0 none text.toList).isolated.1

/-! ## Runs -/

/-- Exactly `n` backticks stand at a position: they are a run that goes on neither way. -/
structure RunAt (t : List Char) (i n : Nat) : Prop where
  ticks : t.extract i (i + n) = List.replicate n '`'
  starts : charBefore t i ≠ some '`'
  ends : t[i + n]? ≠ some '`'

variable {front back : List Char}

theorem runAt_append (hfront : front.getLast? ≠ some '`') (hback : back.head? ≠ some '`') :
    RunAt (front ++ (List.replicate n '`' ++ back)) front.length n := by
  refine ⟨?_, ?_, ?_⟩
  · rw [List.extract, List.drop_left, Nat.add_sub_cancel_left, List.take_left']
    exact List.length_replicate
  · have hlength : front.length ≤ (front ++ (List.replicate n '`' ++ back)).length := by
      rw [List.length_append]
      exact Nat.le_add_right _ _
    rwa [charBefore_eq_getLast? hlength, List.take_left]
  · have hskip : (front ++ (List.replicate n '`' ++ back)).drop (front.length + n) = back := by
      rw [← List.drop_drop, List.drop_left, List.drop_left']
      exact List.length_replicate
    rwa [← List.head?_drop, hskip]

/-! ## Identifiers -/

theorem length_toChars (id : Uuid) : id.toChars.length = 36 := by
  simp [Uuid.toChars, Uuid.digits]

/-- An identifier is written in digits and hyphens. -/
theorem mem_toChars {id : Uuid} {c : Char} (h : c ∈ id.toChars) : c ∈ id.digits ∨ c = '-' := by
  have hpart : ∀ a b, c ∈ (id.digits.drop a).take b → c ∈ id.digits :=
    fun a b hc => List.mem_of_mem_drop (List.mem_of_mem_take hc)
  simp only [Uuid.toChars, List.mem_append, List.mem_cons] at h
  rcases h with (((h | h | h) | h | h) | h | h) | h | h
  · exact Or.inl (List.mem_of_mem_take h)
  · exact Or.inr h
  · exact Or.inl (hpart 8 4 h)
  · exact Or.inr h
  · exact Or.inl (hpart 12 4 h)
  · exact Or.inr h
  · exact Or.inl (hpart 16 4 h)
  · exact Or.inr h
  · exact Or.inl (List.mem_of_mem_drop h)

theorem tick_not_mem_toChars (id : Uuid) : '`' ∉ id.toChars := by
  have hdigit : ∀ n : Fin 16, Text.hexDigit n.val ≠ '`' := by decide
  intro htick
  rcases mem_toChars htick with hdigits | hhyphen
  · obtain ⟨i, -, hi⟩ := List.mem_map.mp hdigits
    exact hdigit ⟨_, Nat.mod_lt _ (by decide)⟩ hi
  · exact absurd hhyphen (by decide)

/-! ## The tokens of a text -/

variable {ids : Nat → Uuid} {id : Uuid} {s : Segment} {before rest : List Segment}
  {earlier later : List (List Char)} {fragment : List Char}

/-- A token between characters that are no backticks: both of its backticks stand alone. -/
theorem runAt_token (hfront : front.getLast? ≠ some '`') (hback : back.head? ≠ some '`') :
    RunAt (front ++ (tokenFragment id ++ back)) front.length 1 ∧
      RunAt (front ++ (tokenFragment id ++ back)) (front.length + 37) 1 := by
  have hlength := length_toChars id
  have hinside := tick_not_mem_toChars id
  have hne : id.toChars ≠ [] := by
    intro hnil
    rw [hnil] at hlength
    cases hlength
  constructor
  · have hnext : (id.toChars ++ '`' :: back).head? ≠ some '`' := by
      intro htick
      rw [List.head?_append_of_ne_nil _ hne] at htick
      exact hinside (List.mem_of_mem_head? htick)
    have hrun := runAt_append (n := 1) hfront hnext
    rw [tokenFragment]
    simpa using hrun
  · have hlast : ((front ++ ['`']) ++ id.toChars).getLast? ≠ some '`' := by
      intro htick
      rw [List.getLast?_append_of_ne_nil _ hne] at htick
      exact hinside (List.mem_of_getLast? htick)
    have hrun := runAt_append (n := 1) hlast hback
    rw [tokenFragment]
    simpa [hlength, Nat.add_assoc] using hrun

theorem ne_tick_of_clear {c : Option Char} (h : clear c = true) : c ≠ some '`' := by
  rintro rfl
  cases h

/-- Fragments end as the last of them does. -/
theorem getLast?_flatten {last : List Char} (h : earlier.getLast? = some last) (hne : last ≠ []) :
    earlier.flatten.getLast? = last.getLast? := by
  obtain ⟨front, rfl⟩ := List.getLast?_eq_some_iff.mp h
  rw [List.flatten_append, List.flatten_singleton, List.getLast?_append_of_ne_nil _ hne]

theorem head?_flatten {next : List Char} (h : later.head? = some next) (hne : next ≠ []) :
    later.flatten.head? = next.head? := by
  obtain ⟨back, rfl⟩ := List.head?_eq_some_iff.mp h
  rw [List.flatten_cons, List.head?_append_of_ne_nil _ hne]

/-- Plain text stands on both sides of a segment with a token, or the text ends there. -/
theorem neighbours_of_hasToken {text : String}
    (hsplit : segments text = before ++ s :: rest) (htoken : s.kind.hasToken = true) :
    (∀ p ∈ before.getLast?, p.kind = .plain ∧ clear p.chars.getLast? = true ∧ p.chars ≠ []) ∧
      ∀ q ∈ rest.head?, q.kind = .plain ∧ clear q.chars.head? = true ∧ q.chars ≠ [] := by
  have hfilled : ∀ p ∈ segments text, p.chars ≠ [] := by
    intro p hp
    obtain ⟨_, _, -, -, hne⟩ :=
      (mayCut_segmentsFrom (some searchLimit) 0 none text.toList).covers.split hp
    exact hne
  have hchain := isolated_segments text
  rw [hsplit] at hfilled hchain
  rw [List.isChain_append, List.isChain_cons] at hchain
  obtain ⟨-, ⟨hnext, -⟩, hlast⟩ := hchain
  constructor
  · intro p hp
    obtain ⟨hkind, hclear⟩ := (hlast p hp s rfl).before htoken
    exact ⟨hkind, hclear, hfilled p (List.mem_append_left _ (List.mem_of_mem_getLast? hp))⟩
  · intro q hq
    obtain ⟨hkind, hclear⟩ := (hnext q hq).behind htoken
    have hmem := List.mem_cons_of_mem s (List.mem_of_mem_head? hq)
    exact ⟨hkind, hclear, hfilled q (List.mem_append_right before hmem)⟩

/-- Behind plain text without a sign at its end, or at the start, the fragments end with no backtick. -/
theorem Around.getLast?_ne_tick (h : Around ids before s rest earlier fragment later)
    (hbefore : ∀ p ∈ before.getLast?,
      p.kind = .plain ∧ clear p.chars.getLast? = true ∧ p.chars ≠ []) :
    earlier.flatten.getLast? ≠ some '`' := by
  cases hlast : before.getLast? with
  | none =>
      have hlength := h.length
      rw [List.getLast?_eq_none_iff.mp hlast] at hlength
      rw [List.length_eq_zero_iff.mp hlength]
      exact (Option.some_ne_none '`').symm
  | some p =>
      obtain ⟨hkind, hclear, hne⟩ := hbefore p hlast
      rw [getLast?_flatten (h.last p hlast hkind) hne]
      exact ne_tick_of_clear hclear

theorem Around.head?_ne_tick (h : Around ids before s rest earlier fragment later)
    (hbehind : ∀ q ∈ rest.head?, q.kind = .plain ∧ clear q.chars.head? = true ∧ q.chars ≠ []) :
    later.flatten.head? ≠ some '`' := by
  cases hnext : rest.head? with
  | none =>
      rw [h.done (List.head?_eq_none_iff.mp hnext)]
      exact (Option.some_ne_none '`').symm
  | some q =>
      obtain ⟨hkind, hclear, hne⟩ := hbehind q hnext
      rw [head?_flatten (h.next q hnext hkind) hne]
      exact ne_tick_of_clear hclear

/-- **Identifiers stand alone, whatever the text.** The fragment of an inline formula is a backtick, the
    36 characters of its identifier and a backtick. The segments in front of it and behind it are plain
    text, which stays as it is, or the text ends there. In the reformatted text each of the two
    backticks is a run of its own. -/
theorem tokens_spec (ids : Nat → Uuid) (text : String) (before rest : List Segment) (s : Segment)
    (hsplit : segments text = before ++ s :: rest) (htoken : s.kind.hasToken = true) :
    let id := ids (spanSegments before).length
    let r := reformat ids text
    ∃ earlier later,
      r.fragments = earlier ++ ('`' :: (id.toChars ++ ['`'])) :: later ∧
      id.toChars.length = 36 ∧
      earlier.length = before.length ∧ (rest = [] → later = []) ∧
      (∀ p ∈ before.getLast?, p.kind = .plain ∧ earlier.getLast? = some p.chars) ∧
      (∀ q ∈ rest.head?, q.kind = .plain ∧ later.head? = some q.chars) ∧
      RunAt r.text.toList earlier.flatten.length 1 ∧
      RunAt r.text.toList (earlier.flatten.length + 37) 1 := by
  intro id r
  obtain ⟨earlier, fragment, later, hfragments, haround⟩ := exists_around ids hsplit
  have hfragment : fragment = tokenFragment id :=
    haround.fragment.trans (fragmentOf_of_hasToken htoken)
  have hchars : r.text.toList = earlier.flatten ++ (fragment ++ later.flatten) :=
    text_of_fragments hfragments
  obtain ⟨hbefore, hbehind⟩ := neighbours_of_hasToken hsplit htoken
  have hfront := haround.getLast?_ne_tick hbefore
  have hback := haround.head?_ne_tick hbehind
  rw [hfragment] at hfragments hchars
  obtain ⟨hopens, hcloses⟩ :
      RunAt (earlier.flatten ++ (tokenFragment id ++ later.flatten)) earlier.flatten.length 1 ∧
        RunAt (earlier.flatten ++ (tokenFragment id ++ later.flatten)) (earlier.flatten.length + 37) 1 :=
    runAt_token hfront hback
  rw [← hchars] at hopens hcloses
  refine ⟨earlier, later, hfragments, length_toChars id, haround.length, haround.done, ?_, ?_,
    hopens, hcloses⟩
  · intro p hp
    obtain ⟨hkind, -, -⟩ := hbefore p hp
    exact ⟨hkind, haround.last p hp hkind⟩
  · intro q hq
    obtain ⟨hkind, -, -⟩ := hbehind q hq
    exact ⟨hkind, haround.next q hq hkind⟩

/-- Two formulas between an empty block and a block. -/
def tokensBetweenBlocks : String := "$$$$\n$a$, $`b$c`$ $$d$$"

/-- The second formula gets the second identifier, and the blanks around it stay. -/
theorem tokens_spec_between_blocks :
    let before : List Segment := [⟨.plain, 0, ['$', '$', '$', '$']⟩, ⟨.plain, 4, ['\n']⟩,
      ⟨.inline, 5, ['a']⟩, ⟨.plain, 8, [',', ' ']⟩]
    let s : Segment := ⟨.quoted, 10, ['b', '$', 'c']⟩
    let rest : List Segment := [⟨.plain, 17, [' ']⟩, ⟨.block, 18, ['d']⟩]
    let r := reformat Uuid.numbered tokensBetweenBlocks
    (segments tokensBetweenBlocks = before ++ s :: rest ∧ s.kind.hasToken = true) ∧
    r.text = "$$$$\n`00000000-0000-4000-8000-000000000000`" ++
      ", `00000000-0000-4000-8000-000000000001` \n```math\nd\n```" ∧
    ∃ earlier later, r.fragments = earlier ++
        ('`' :: ((Uuid.numbered 1).toChars ++ ['`'])) :: later ∧
      earlier.getLast? = some [',', ' '] ∧ later.head? = some [' '] ∧
      RunAt r.text.toList earlier.flatten.length 1 ∧
      RunAt r.text.toList (earlier.flatten.length + 37) 1 := by
  intro before s rest r
  have hsplit : segments tokensBetweenBlocks = before ++ s :: rest := by
    decide +kernel
  obtain ⟨earlier, later, hfragments, -, -, -, hlast, hnext, hopens, hcloses⟩ :=
    tokens_spec Uuid.numbered tokensBetweenBlocks before rest s hsplit rfl
  exact ⟨⟨hsplit, rfl⟩, by decide +kernel, earlier, later, hfragments, (hlast _ rfl).2,
    (hnext _ rfl).2, hopens, hcloses⟩

end Formulary.Markup
