import Formulary.Text.Bytes
import Formulary.Text.Whitespace
import Formulary.Entry.MathStyle

/-!
# Segments — the math spans of a text

A text is cut into segments from left to right. Three shapes of math are known, tried in this
order at every position:

* a *block*: two dollar signs, any characters, the nearest two dollar signs;
* a *quoted* span: a dollar sign and a backtick, at least one character, the nearest backtick and
  dollar sign that close it, all on one line;
* an *inline* span: a dollar sign, at least one character, the nearest dollar sign that closes it,
  all on one line.

A quoted or inline span opens only where neither a backtick nor a dollar sign stands before it, and
closes only where none stands behind it; an inline span also has none just inside its signs. All
else is plain text, and so is a block without content.

Looking for the next span takes steps: one for each character passed over and one for each
character read by an attempt. A search that needs more than `searchLimit` steps ends the cutting,
and what is left is plain text.

* `Segment` — a piece of text, its kind and its place.
* `Search.find` — the next span, with the steps it takes.
* `segmentsWithin`, `segments` — the segments of a text.
-/

namespace Formulary.Markup

/-- The kinds of segments. -/
inductive SegmentKind where
  | plain
  | block
  | quoted
  | inline
deriving DecidableEq, Repr, Inhabited

namespace SegmentKind

/-- The name of a kind. -/
def name : SegmentKind → String
  | plain => "plain_text"
  | block => "block_math"
  | quoted => "quoted_inline_math"
  | inline => "inline_math"

/-- The style that math of a kind is set in; plain text has none. -/
def style? : SegmentKind → Option MathStyle
  | plain => none
  | block => some .display
  | quoted | inline => some .inline

/-- The signs in front of the content. -/
def opener : SegmentKind → List Char
  | plain => []
  | block => ['$', '$']
  | quoted => ['$', '`']
  | inline => ['$']

/-- The signs behind the content. -/
def closer : SegmentKind → List Char
  | plain => []
  | block => ['$', '$']
  | quoted => ['`', '$']
  | inline => ['$']

end SegmentKind

/-- A piece of a text: its kind, the byte offset where it starts, and what stands between its
signs. -/
structure Segment where
  kind : SegmentKind
  start : Nat
  content : List Char
deriving DecidableEq, Repr, Inhabited

namespace Segment

/-- The characters of the piece, signs included. -/
def chars (s : Segment) : List Char := s.kind.opener ++ s.content ++ s.kind.closer

/-- The piece as text. -/
def raw (s : Segment) : String := String.ofList s.chars

/-- The byte offset behind the piece. -/
def stop (s : Segment) : Nat := s.start + Text.byteSize s.chars

/-- The math source: the content without the blanks around it. Plain text has none. -/
def latex? (s : Segment) : Option String :=
  match s.kind with
  | .plain => none
  | _ => some (String.ofList (Text.trimChars s.content))

/-- The style of the piece. -/
def style? (s : Segment) : Option MathStyle := s.kind.style?

end Segment

/-- Whether a character is a backtick or a dollar sign. -/
def isSign (c : Char) : Bool := c == '`' || c == '$'

/-- Whether no sign stands at the place of an optional character. -/
def clear (c : Option Char) : Bool := !c.any isSign

/-- What an attempt at a span gives: the content and what follows the span, or the number of
characters it read in vain. -/
abbrev Attempt := Except Nat (List Char × List Char)

/-- Reads block content up to two dollar signs; `acc` holds what was read, last first, and `n` is
its length. -/
def closeBlock (n : Nat) (acc : List Char) : List Char → Attempt
  | [] => .error n
  | '$' :: '$' :: rest => .ok (acc.reverse, rest)
  | c :: rest => closeBlock (n + 1) (c :: acc) rest

/-- Reads quoted content up to a backtick and a dollar sign that no sign follows. -/
def closeQuoted (n : Nat) (acc : List Char) : List Char → Attempt
  | [] => .error n
  | c :: rest =>
    if c = '\n' then .error n
    else
      match rest with
      | d :: after =>
        if c = '`' ∧ d = '$' ∧ !acc.isEmpty ∧ clear after.head? then .ok (acc.reverse, after)
        else closeQuoted (n + 1) (c :: acc) rest
      | [] => .error (n + 1)

/-- Reads inline content up to a dollar sign that no sign precedes or follows. -/
def closeInline (n : Nat) (acc : List Char) : List Char → Attempt
  | [] => .error n
  | c :: rest =>
    if c = '\n' then .error n
    else if c = '$' ∧ !acc.isEmpty ∧ clear acc.head? ∧ clear rest.head? then .ok (acc.reverse, rest)
    else closeInline (n + 1) (c :: acc) rest

/-- A span found: its kind, its content, and what follows it. -/
structure Span where
  kind : SegmentKind
  content : List Char
  rest : List Char
deriving DecidableEq, Repr

/-- Tries the three shapes at a position in their order; `before` is the character in front of it.
The number counts the characters read by the attempts. -/
def spanAt (before : Option Char) (cs : List Char) : Nat × Option Span :=
  let block : Attempt :=
    match cs with
    | '$' :: '$' :: rest => closeBlock 0 [] rest
    | _ => .error 0
  match block with
  | .ok (content, rest) => (content.length, some ⟨.block, content, rest⟩)
  | .error n =>
    if !clear before then (n, none)
    else
      match cs with
      | '$' :: '`' :: rest =>
        match closeQuoted 0 [] rest with
        | .ok (content, rest) => (n + content.length, some ⟨.quoted, content, rest⟩)
        | .error m => (n + m, none)
      | '$' :: c :: rest =>
        if isSign c then (n, none)
        else
          match closeInline 0 [] (c :: rest) with
          | .ok (content, rest) => (n + content.length, some ⟨.inline, content, rest⟩)
          | .error m => (n + m, none)
      | _ => (n, none)

/-- The steps that a search may take; `none` sets no limit. -/
abbrev StepLimit := Option Nat

/-- The limit left after `n` steps, or nothing when there are not so many left. -/
def StepLimit.spend (limit : StepLimit) (n : Nat) : Option StepLimit :=
  match limit with
  | none => some none
  | some left => if n ≤ left then some (some (left - n)) else none

/-- How a search ends. -/
inductive Found where
  /-- A span, behind the characters passed over. -/
  | span (passed : List Char) (span : Span)
  /-- The text holds no further span. -/
  | nothing
  /-- The steps ran out. -/
  | exhausted
deriving DecidableEq, Repr

/-- Looks for the next span. `before` is the character in front of the position, and `passed` holds
the characters passed over, last first. -/
def findSpan (limit : StepLimit) (before : Option Char) (passed : List Char) :
    List Char → Found
  | [] => .nothing
  | c :: rest =>
    let (steps, found) := spanAt before (c :: rest)
    match limit.spend steps, found with
    | none, _ => .exhausted
    | some _, some span => .span passed.reverse span
    | some limit, none =>
      match limit.spend 1 with
      | none => .exhausted
      | some limit => findSpan limit (some c) (c :: passed) rest

/-! ## A span is shorter than the text it was found in -/

theorem length_rest_closeBlock {n : Nat} {acc cs content rest : List Char}
    (h : closeBlock n acc cs = .ok (content, rest)) : rest.length < cs.length := by
  fun_induction closeBlock n acc cs with
  | case1 => simp at h
  | case2 n acc rest' =>
    simp only [Except.ok.injEq, Prod.mk.injEq] at h
    simp only [← h.2, List.length_cons]
    omega
  | case3 n acc c tail _ ih =>
    have := ih h
    simp only [List.length_cons]
    omega

theorem length_rest_closeQuoted {n : Nat} {acc cs content rest : List Char}
    (h : closeQuoted n acc cs = .ok (content, rest)) : rest.length < cs.length := by
  fun_induction closeQuoted n acc cs with
  | case1 => simp at h
  | case2 => simp at h
  | case3 n acc c _ d after _ =>
    simp only [Except.ok.injEq, Prod.mk.injEq] at h
    simp only [← h.2, List.length_cons]
    omega
  | case4 n acc c _ d after _ ih =>
    have := ih h
    simp only [List.length_cons] at *
    omega
  | case5 => simp at h

theorem length_rest_closeInline {n : Nat} {acc cs content rest : List Char}
    (h : closeInline n acc cs = .ok (content, rest)) : rest.length < cs.length := by
  fun_induction closeInline n acc cs with
  | case1 => simp at h
  | case2 => simp at h
  | case3 n acc tail _ =>
    simp only [Except.ok.injEq, Prod.mk.injEq] at h
    simp [← h.2]
  | case4 n acc c tail _ _ ih =>
    have := ih h
    simp only [List.length_cons] at *
    omega

/-- What follows a span is shorter than the text that the span was found in, whichever shape it has. -/
theorem length_rest_spanAt {before : Option Char} {cs : List Char} {n : Nat} {span : Span}
    (h : spanAt before cs = (n, some span)) : span.rest.length < cs.length := by
  simp only [spanAt] at h
  split at h
  · rename_i content rest hb
    simp only [Prod.mk.injEq, Option.some.injEq] at h
    split at hb
    · have := length_rest_closeBlock hb
      simp only [← h.2, List.length_cons]
      omega
    · simp at hb
  · split at h
    · simp at h
    · split at h
      · split at h
        · rename_i hq
          have := length_rest_closeQuoted hq
          simp only [Prod.mk.injEq, Option.some.injEq] at h
          simp only [← h.2, List.length_cons]
          omega
        · simp at h
      · split at h
        · simp at h
        · split at h
          · rename_i hi
            have := length_rest_closeInline hi
            simp only [Prod.mk.injEq, Option.some.injEq] at h
            simp only [← h.2, List.length_cons] at *
            omega
          · simp at h
      · simp at h

/-- So is what a search leaves behind its span, so that cutting a text comes to an end. -/
theorem length_rest_findSpan {limit : StepLimit} {before : Option Char} {passed cs out : List Char}
    {span : Span} (h : findSpan limit before passed cs = .span out span) :
    span.rest.length < cs.length := by
  fun_induction findSpan limit before passed cs with
  | case1 => simp at h
  | case2 => simp at h
  | case3 =>
    rename_i hs
    simp only [Found.span.injEq] at h
    rw [← h.2]
    exact length_rest_spanAt hs
  | case4 => simp at h
  | case5 =>
    rename_i ih
    have := ih h
    simp only [List.length_cons]
    omega

/-! ## The segments of a text -/

/-- A plain segment, unless it is empty. -/
def plainSegment (start : Nat) (content : List Char) : List Segment :=
  if content.isEmpty then [] else [⟨.plain, start, content⟩]

/-- The segment of a span: a block without content is plain text. -/
def Span.segment (span : Span) (start : Nat) : Segment :=
  if span.kind = .block ∧ span.content.isEmpty then ⟨.plain, start, ['$', '$', '$', '$']⟩
  else ⟨span.kind, start, span.content⟩

/-- The segments of the text from byte `start` on, where `before` is the character in front of it.
Each search for a span starts with the full limit. -/
def segmentsFrom (limit : StepLimit) (start : Nat) (before : Option Char) (cs : List Char) :
    List Segment :=
  match _h : findSpan limit before [] cs with
  | .span passed span =>
    let segment := span.segment (start + Text.byteSize passed)
    plainSegment start passed ++
      segment :: segmentsFrom limit segment.stop segment.chars.getLast? span.rest
  | .nothing | .exhausted => plainSegment start cs
termination_by cs.length
decreasing_by exact length_rest_findSpan _h

/-- The segments of a text when each search may take `limit` steps. -/
def segmentsWithin (limit : StepLimit) (text : List Char) : List Segment :=
  segmentsFrom limit 0 none text

/-- The steps that one search may take. -/
def searchLimit : Nat := 1000000

/-- The segments of a text, from left to right. -/
def segments (text : String) : List Segment := segmentsWithin (some searchLimit) text.toList

end Formulary.Markup
