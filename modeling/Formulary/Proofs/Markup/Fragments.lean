import Formulary.Markup.Reformat
import Mathlib

/-!
# Fragments — what becomes of each segment

A reformatted text has one fragment for each segment. The fragment of a segment hangs on three things
beside it: how many identifiers were minted before it, whether the text in front of it starts a line,
and what follows it.

* `startsLine` — a text behind which a line starts.
* `fragmentOf`, `fragmentOf_plain`, `fragmentOf_of_hasToken` — the fragment of one segment.
* `fragmentsFrom_cons`, `fragmentsFrom_append` — the fragments one after the other.
* `Around`, `exists_around` — the fragment of a segment of a text, between those of the others.
-/

namespace Formulary.Markup

/-- Kinds of segments that an identifier stands for. -/
def SegmentKind.hasToken : SegmentKind → Bool
  | .quoted | .inline => true
  | .plain | .block => false

/-- Whether a line starts behind a text: it is empty, or it ends with a newline. -/
def startsLine (front : List Char) : Bool := front.getLast?.all (· == '\n')

/-- The fragment of a segment that others follow, when `n` identifiers have been minted before it and
    `atStart` says whether it starts a line. -/
def fragmentOf (ids : Nat → Uuid) (n : Nat) (atStart : Bool) (s : Segment) (rest : List Segment) :
    List Char :=
  match s.kind with
  | .plain => s.chars
  | .block => blockFragment s.source (!atStart) (needsBreak rest)
  | .quoted | .inline => tokenFragment (ids n)

variable {ids : Nat → Uuid} {n : Nat} {front : List Char} {s : Segment} {before rest : List Segment}

/-- Plain text is its own fragment. -/
theorem fragmentOf_plain {atStart : Bool} (h : s.kind = .plain) :
    fragmentOf ids n atStart s rest = s.chars := by
  rw [fragmentOf, h]

/-- The fragment of an inline formula holds its identifier. -/
theorem fragmentOf_of_hasToken {atStart : Bool} (h : s.kind.hasToken = true) :
    fragmentOf ids n atStart s rest = tokenFragment (ids n) := by
  rw [fragmentOf]
  cases hkind : s.kind with
  | plain => rw [hkind] at h; cases h
  | block => rw [hkind] at h; cases h
  | quoted => rfl
  | inline => rfl

/-- All segments but plain text start with a dollar sign. -/
theorem kind_of_head? (h : s.chars.head? ≠ some '$') : s.kind = .plain := by
  obtain ⟨kind, start, content⟩ := s
  cases kind with
  | plain => rfl
  | block => exact absurd rfl h
  | quoted => exact absurd rfl h
  | inline => exact absurd rfl h

/-- Whether a line starts behind two pieces is up to the second one, unless that is empty. -/
theorem startsLine_append (front fragment : List Char) :
    startsLine (front ++ fragment) = lineStartAfter (startsLine front) fragment := by
  rw [startsLine, List.getLast?_append, lineStartAfter]
  cases fragment.getLast? with
  | none => rfl
  | some c => rfl

theorem spanSegments_cons (s : Segment) (rest : List Segment) :
    (spanSegments (s :: rest)).length
      = (if s.kind.hasToken then 1 else 0) + (spanSegments rest).length := by
  rw [spanSegments, List.filter_cons]
  cases s.kind with
  | plain => exact (Nat.zero_add _).symm
  | block => exact (Nat.zero_add _).symm
  | quoted => exact Nat.add_comm _ 1
  | inline => exact Nat.add_comm _ 1

/-- A token ends with a backtick, so no line starts behind it. -/
theorem lineStartAfter_tokenFragment (atStart : Bool) (id : Uuid) :
    lineStartAfter atStart (tokenFragment id) = false := by
  have hlast : (tokenFragment id).getLast? = some '`' := by
    rw [tokenFragment, ← List.cons_append, List.getLast?_concat]
  rw [lineStartAfter, hlast]
  rfl

/-- The first fragment, and those behind it. -/
theorem fragmentsFrom_cons (ids : Nat → Uuid) (n : Nat) (front : List Char) (s : Segment)
    (rest : List Segment) :
    fragmentsFrom ids n (startsLine front) (s :: rest)
      = fragmentOf ids n (startsLine front) s rest ::
        fragmentsFrom ids (n + if s.kind.hasToken then 1 else 0)
          (startsLine (front ++ fragmentOf ids n (startsLine front) s rest)) rest := by
  rw [startsLine_append, fragmentsFrom, fragmentOf]
  cases s.kind with
  | plain => rfl
  | block => rfl
  | quoted =>
      simp only [lineStartAfter_tokenFragment]
      rfl
  | inline =>
      simp only [lineStartAfter_tokenFragment]
      rfl

/-- The fragments of some segments, and of those behind them. The induction is on the segments in
    front; the text grows by their fragments, and the count by the identifiers minted for them. -/
theorem fragmentsFrom_append (ids : Nat → Uuid) (n : Nat) (front : List Char)
    (before rest : List Segment) :
    ∃ earlier, earlier.length = before.length ∧
      (∀ p ∈ before.getLast?, p.kind = .plain → earlier.getLast? = some p.chars) ∧
      fragmentsFrom ids n (startsLine front) (before ++ rest)
        = earlier ++ fragmentsFrom ids (n + (spanSegments before).length)
            (startsLine (front ++ earlier.flatten)) rest := by
  induction before generalizing n front with
  | nil =>
      refine ⟨[], rfl, ?_, ?_⟩
      · intro p hp
        cases hp
      · rw [List.flatten_nil, List.append_nil]
        rfl
  | cons first before ih =>
      obtain ⟨earlier, hlength, hlast, hfragments⟩ :=
        ih (n + if first.kind.hasToken then 1 else 0)
          (front ++ fragmentOf ids n (startsLine front) first (before ++ rest))
      refine ⟨fragmentOf ids n (startsLine front) first (before ++ rest) :: earlier, ?_, ?_, ?_⟩
      · rw [List.length_cons, List.length_cons, hlength]
      · intro p hp hplain
        rw [List.getLast?_cons] at hp ⊢
        cases hbefore : before.getLast? with
        | none =>
            -- the first segment is the last one
            obtain rfl : before = [] := List.getLast?_eq_none_iff.mp hbefore
            obtain rfl : earlier = [] := List.length_eq_zero_iff.mp hlength
            cases hp
            exact congrArg some (fragmentOf_plain hplain)
        | some last =>
            rw [hbefore] at hp hlast
            rw [hlast p hp hplain]
            rfl
      · rw [List.cons_append, fragmentsFrom_cons, hfragments, List.cons_append, spanSegments_cons,
          List.flatten_cons, List.append_assoc, Nat.add_assoc]

/-- The fragment of a segment between those of the segments in front of it and behind it. -/
structure Around (ids : Nat → Uuid) (before : List Segment) (s : Segment) (rest : List Segment)
    (earlier : List (List Char)) (fragment : List Char) (later : List (List Char)) : Prop where
  length : earlier.length = before.length
  fragment : fragment = fragmentOf ids (spanSegments before).length (startsLine earlier.flatten) s rest
  /-- Plain text stays as it is, in front and behind. -/
  last : ∀ p ∈ before.getLast?, p.kind = .plain → earlier.getLast? = some p.chars
  next : ∀ q ∈ rest.head?, q.kind = .plain → later.head? = some q.chars
  done : rest = [] → later = []

/-- Every segment of a text has its fragment, which knows what stands around it. -/
theorem exists_around (ids : Nat → Uuid) {text : String}
    (hsplit : segments text = before ++ s :: rest) :
    ∃ earlier fragment later, (reformat ids text).fragments = earlier ++ fragment :: later ∧
      Around ids before s rest earlier fragment later := by
  obtain ⟨earlier, hlength, hlast, hfragments⟩ := fragmentsFrom_append ids 0 [] before (s :: rest)
  rw [fragmentsFrom_cons, Nat.zero_add, List.nil_append] at hfragments
  have htext : (reformat ids text).fragments
      = fragmentsFrom ids 0 (startsLine []) (before ++ s :: rest) := by
    rw [reformat, hsplit]
    rfl
  rw [hfragments] at htext
  refine ⟨earlier, _, _, htext, hlength, rfl, hlast, ?_, ?_⟩
  · intro q hq hplain
    cases rest with
    | nil => cases hq
    | cons next rest =>
        cases hq
        rw [fragmentsFrom_cons, List.head?_cons, fragmentOf_plain hplain]
  · rintro rfl
    rfl

theorem text_of_fragments {earlier later : List (List Char)} {fragment : List Char} {text : String}
    (h : (reformat ids text).fragments = earlier ++ fragment :: later) :
    (reformat ids text).text.toList = earlier.flatten ++ (fragment ++ later.flatten) := by
  rw [Reformatted.text, String.toList_ofList, h, List.flatten_append, List.flatten_cons]

end Formulary.Markup
