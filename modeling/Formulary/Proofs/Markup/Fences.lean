import Formulary.Proofs.Markup.Fragments

/-!
# Fences — a block comes back from between its fences

A block of a text is written between two fences on lines of their own. The fence is longer than every
run of backticks in the block, so no line of the block can be taken for its end, and a reader that
goes on from the opening line to the first line with a run as long as the fence gets the block back,
whatever it holds and whatever stands around it.

* `replicate_infix_iff` — the longest run of backticks is what its name says.
* `linesOf`, `readFenced` — the lines of a text, and what stands between fences.
* `fenced`, `readFenced_fenced` — a content between fences, and how it is read back.
* `Fences` — fences around a content, somewhere in a text.
* `fences_spec` — the fences of every block of a text.
-/

namespace Formulary.Markup

/-! ## Runs of backticks -/

/-- What does not hold a separator stands in front of it or behind it. -/
theorem infix_append_cons_iff {α : Type} {part front back : List α} {a : α} (h : a ∉ part) :
    part <:+: front ++ a :: back ↔ part <:+: front ∨ part <:+: back := by
  -- a piece of the part that starts at the separator is empty
  have hempty : ∀ piece, a ∉ piece → piece <+: a :: back → piece = [] := by
    intro piece hpiece hstarts
    rcases List.prefix_cons_iff.mp hstarts with hnil | ⟨tail, rfl, -⟩
    · exact hnil
    · exact absurd List.mem_cons_self hpiece
  rw [List.infix_append_iff, List.infix_cons_iff]
  constructor
  · rintro (hfront | (hstarts | hback) | ⟨left, right, rfl, hleft, hright⟩)
    · exact Or.inl hfront
    · rw [hempty part h hstarts]
      exact Or.inl (List.nil_infix)
    · exact Or.inr hback
    · rw [hempty right (fun hmem => h (List.mem_append_right left hmem)) hright, List.append_nil]
      exact Or.inl hleft.isInfix
  · rintro (hfront | hback)
    · exact Or.inl hfront
    · exact Or.inr (Or.inl (Or.inr hback))

theorem replicate_infix_replicate_iff {α : Type} {a : α} {m n : Nat} :
    List.replicate m a <:+: List.replicate n a ↔ m ≤ n := by
  rw [List.infix_replicate_iff, List.length_replicate]
  exact and_iff_left rfl

/-- The run being read stands in front of what is left. -/
theorem le_longestRun_iff {n run longest : Nat} {cs : List Char} :
    n ≤ longestRun run longest cs ↔
      n ≤ longest ∨ List.replicate n '`' <:+: List.replicate run '`' ++ cs := by
  fun_induction longestRun run longest cs with
  | case1 run longest =>
      rw [List.append_nil, replicate_infix_replicate_iff, le_max_iff]
      exact or_comm
  | case2 run longest rest ih =>
      rw [ih, List.replicate_succ', List.append_assoc]
      rfl
  | case3 run longest c rest hc ih =>
      have hmem : c ∉ List.replicate n '`' := fun h => hc (List.eq_of_mem_replicate h)
      rw [ih, infix_append_cons_iff hmem, replicate_infix_replicate_iff, le_max_iff,
        List.replicate_zero, List.nil_append, or_comm (a := n ≤ run), or_assoc]

/-- So many backticks in a row are in a text exactly when its longest run has as many. -/
theorem replicate_infix_iff {n : Nat} {cs : List Char} :
    List.replicate n '`' <:+: cs ↔ n ≤ longestRun 0 0 cs := by
  rw [le_longestRun_iff, List.replicate_zero, List.nil_append, Nat.le_zero]
  constructor
  · exact Or.inr
  · rintro (rfl | h)
    · exact List.nil_infix
    · exact h

/-! ## Lines -/

/-- Puts a character in front of the first of some lines. -/
def extendLine (c : Char) : List (List Char) → List (List Char)
  | [] => [[c]]
  | line :: later => (c :: line) :: later

/-- The lines of a text, each with the character that ends it. -/
def linesOf (ends : Char → Bool) : List Char → List (List Char)
  | [] => []
  | c :: rest => if ends c then [c] :: linesOf ends rest else extendLine c (linesOf ends rest)

/-- Lines end with a newline. -/
def isNewline (c : Char) : Bool := c == '\n'

/-- Lines end with a newline or a carriage return. -/
def isLineEnd (c : Char) : Bool := c == '\n' || c == '\r'

variable {ends : Char → Bool} {c : Char} {cs back : List Char}

theorem linesOf_of_end (h : ends c = true) (rest : List Char) :
    linesOf ends (c :: rest) = [c] :: linesOf ends rest := by
  rw [linesOf, if_pos h]

theorem linesOf_of_not_end (h : ends c = false) (rest : List Char) :
    linesOf ends (c :: rest) = extendLine c (linesOf ends rest) := by
  rw [linesOf, h]
  rfl

theorem flatten_extendLine (c : Char) (lines : List (List Char)) :
    (extendLine c lines).flatten = c :: lines.flatten := by
  cases lines with
  | nil => rfl
  | cons line later => rfl

/-- The lines one after the other are the text. -/
theorem flatten_linesOf (ends : Char → Bool) (cs : List Char) : (linesOf ends cs).flatten = cs := by
  induction cs with
  | nil => rfl
  | cons c rest ih =>
      cases hc : ends c with
      | true => rw [linesOf_of_end hc, List.flatten_cons, ih, List.singleton_append]
      | false => rw [linesOf_of_not_end hc, flatten_extendLine, ih]

theorem linesOf_ne_nil (ends : Char → Bool) (h : cs ≠ []) : linesOf ends cs ≠ [] := by
  intro hnil
  have hflatten := flatten_linesOf ends cs
  rw [hnil] at hflatten
  exact h hflatten.symm

theorem extendLine_append {lines : List (List Char)} (h : lines ≠ []) (later : List (List Char)) :
    extendLine c (lines ++ later) = extendLine c lines ++ later := by
  cases lines with
  | nil => exact absurd rfl h
  | cons line rest => rfl

/-- A line ends where it says. -/
theorem linesOf_append_end (h : ends c = true) (front back : List Char) :
    linesOf ends (front ++ c :: back) = linesOf ends (front ++ [c]) ++ linesOf ends back := by
  induction front with
  | nil =>
      rw [List.nil_append, List.nil_append, linesOf_of_end h, linesOf_of_end h]
      rfl
  | cons d front ih =>
      rw [List.cons_append, List.cons_append]
      cases hd : ends d with
      | true => rw [linesOf_of_end hd, linesOf_of_end hd, ih, List.cons_append]
      | false =>
          rw [linesOf_of_not_end hd, linesOf_of_not_end hd, ih,
            extendLine_append (linesOf_ne_nil ends (List.concat_ne_nil c front))]

/-- A line that ends nowhere in between is one line. -/
theorem linesOf_concat {line : List Char} (hline : ∀ d ∈ line, ends d = false)
    (h : ends c = true) : linesOf ends (line ++ [c]) = [line ++ [c]] := by
  induction line with
  | nil => exact linesOf_of_end h []
  | cons d line ih =>
      rw [List.cons_append, linesOf_of_not_end (hline d List.mem_cons_self),
        ih fun e he => hline e (List.mem_cons_of_mem d he)]
      rfl

/-- The first line goes on behind a front that holds no end of a line. -/
theorem exists_linesOf_append {line : List Char} (hne : line ≠ [])
    (hline : ∀ d ∈ line, ends d = false) (back : List Char) :
    ∃ rest later, linesOf ends (line ++ back) = (line ++ rest) :: later := by
  induction line with
  | nil => exact absurd rfl hne
  | cons d line ih =>
      rw [List.cons_append, linesOf_of_not_end (hline d List.mem_cons_self)]
      by_cases hnil : line = []
      · subst hnil
        cases hback : linesOf ends back with
        | nil => exact ⟨[], [], by rw [List.nil_append, hback]; rfl⟩
        | cons first later => exact ⟨first, later, by rw [List.nil_append, hback]; rfl⟩
      · obtain ⟨rest, later, hlines⟩ := ih hnil fun e he => hline e (List.mem_cons_of_mem d he)
        exact ⟨rest, later, by rw [hlines]; rfl⟩

/-! ## Reading between fences -/

/-- The language of formulas, behind the opening fence. -/
def language : List Char := ['m', 'a', 't', 'h']

/-- A content between two fences, in the language of formulas. -/
def fenced (n : Nat) (content : List Char) : List Char :=
  List.replicate n '`' ++ (language ++ '\n' :: (content ++ '\n' :: List.replicate n '`'))

/-- Reads what stands between fences: the opening fence is the run of backticks in front, and behind
    its line everything belongs to the content up to the first line with a run as long. The newline
    in front of that line does not. -/
def readFenced (ends : Char → Bool) (cs : List Char) : List Char :=
  let fence := cs.takeWhile (· == '`')
  ((linesOf ends cs).tail.takeWhile fun line => !decide (fence <:+: line)).flatten.dropLast

theorem blockFragment_eq (content : List Char) (breakBefore breakAfter : Bool) :
    blockFragment content breakBefore breakAfter
      = (if breakBefore then ['\n'] else []) ++ (fenced (fenceLength content) content ++
          (if breakAfter then ['\n'] else [])) := by
  rw [blockFragment, fenced]
  simp only [List.append_assoc, List.cons_append]
  rfl

theorem takeWhile_fenced (n : Nat) (content back : List Char) :
    (fenced n content ++ back).takeWhile (· == '`') = List.replicate n '`' := by
  have hticks : ∀ c ∈ List.replicate n '`', (c == '`') = true := by
    intro c hc
    rw [List.eq_of_mem_replicate hc]
    rfl
  rw [fenced, List.append_assoc, List.takeWhile_append_of_pos hticks]
  exact List.append_nil _

/-- The lines of a fenced content are the opening line, the lines of the content, and those from the
    closing fence on. -/
theorem linesOf_fenced (hends : ends '\n' = true)
    (hopening : ∀ c ∈ '`' :: language, ends c = false) (n : Nat) (content back : List Char) :
    linesOf ends (fenced n content ++ back)
      = (List.replicate n '`' ++ language ++ ['\n']) ::
          (linesOf ends (content ++ ['\n']) ++ linesOf ends (List.replicate n '`' ++ back)) := by
  have hline : ∀ c ∈ List.replicate n '`' ++ language, ends c = false := by
    intro c hc
    rcases List.mem_append.mp hc with htick | hinfo
    · rw [List.eq_of_mem_replicate htick]
      exact hopening '`' List.mem_cons_self
    · exact hopening c (List.mem_cons_of_mem '`' hinfo)
  have hsplit : fenced n content ++ back = (List.replicate n '`' ++ language) ++
      '\n' :: (content ++ '\n' :: (List.replicate n '`' ++ back)) := by
    rw [fenced]
    simp only [List.append_assoc, List.cons_append]
  rw [hsplit, linesOf_append_end hends, linesOf_concat hline hends, linesOf_append_end hends]
  rfl

/-- No line of a content with its last newline has a run that the content has not. -/
theorem not_infix_line {n : Nat} {content line : List Char}
    (h : ¬ List.replicate n '`' <:+: content) (hn : 0 < n)
    (hline : line ∈ linesOf ends (content ++ ['\n'])) : ¬ List.replicate n '`' <:+: line := by
  intro hrun
  have hinfix : line <:+: content ++ ['\n'] := by
    have hflatten := List.infix_of_mem_flatten hline
    rwa [flatten_linesOf] at hflatten
  have hnewline : '\n' ∉ List.replicate n '`' := fun hmem =>
    absurd (List.eq_of_mem_replicate hmem) (by decide)
  rcases (infix_append_cons_iff hnewline).mp (hrun.trans hinfix) with hcontent | hnil
  · exact h hcontent
  · rw [List.infix_nil, List.replicate_eq_nil_iff] at hnil
    omega

/-- What stands between fences that are longer than every run in it is read back. -/
theorem readFenced_fenced (hends : ends '\n' = true)
    (hopening : ∀ c ∈ '`' :: language, ends c = false) {n : Nat} (hn : 0 < n)
    {content : List Char} (h : ¬ List.replicate n '`' <:+: content) (back : List Char) :
    readFenced ends (fenced n content ++ back) = content := by
  have hne : List.replicate n '`' ≠ [] := by
    rw [ne_eq, List.replicate_eq_nil_iff]
    omega
  have hticks : ∀ c ∈ List.replicate n '`', ends c = false := by
    intro c hc
    rw [List.eq_of_mem_replicate hc]
    exact hopening '`' List.mem_cons_self
  obtain ⟨rest, later, hclosing⟩ := exists_linesOf_append hne hticks back
  -- the lines of the content are read, the line of the closing fence is not
  have hcontent : ∀ line ∈ linesOf ends (content ++ ['\n']),
      (!decide (List.replicate n '`' <:+: line)) = true := by
    intro line hline
    simpa using not_infix_line h hn hline
  have hstop : (!decide (List.replicate n '`' <:+: List.replicate n '`' ++ rest)) = false := by
    simpa using (List.prefix_append (List.replicate n '`') rest).isInfix
  rw [readFenced, takeWhile_fenced, linesOf_fenced hends hopening, hclosing, List.tail_cons]
  rw [List.takeWhile_append_of_pos hcontent, List.takeWhile_cons_of_neg (by rw [hstop]; decide),
    List.append_nil, flatten_linesOf, List.dropLast_concat]

/-! ## The fences of a text -/

/-- A content stands in a text between two fences of `n` backticks: `front` is the text in front of
    the opening fence and `back` the text behind the closing one. -/
structure Fences (front content : List Char) (n : Nat) (back : List Char) : Prop where
  /-- The opening fence starts the text or a line. -/
  opens : front = [] ∨ front.getLast? = some '\n'
  /-- Behind the closing fence the text ends, or a line. -/
  closes : back = [] ∨ ∃ c, back.head? = some c ∧ isLineEnd c = true
  least : 3 ≤ n
  /-- The fence is longer than every run of backticks in the content. -/
  longer : ∀ m, List.replicate m '`' <:+: content → m < n
  /-- Whichever way lines end, the content is read back from the opening fence on. -/
  reads : ∀ ends ∈ [isNewline, isLineEnd], readFenced ends (fenced n content ++ back) = content

variable {front content : List Char} {s : Segment}

theorem lt_fenceLength {m : Nat} (h : List.replicate m '`' <:+: content) : m < fenceLength content :=
  Nat.lt_succ_of_le ((replicate_infix_iff.mp h).trans (Nat.le_max_left _ _))

theorem fences_of_breaks (hopens : startsLine front = true)
    (hcloses : back = [] ∨ ∃ c, back.head? = some c ∧ isLineEnd c = true) :
    Fences front content (fenceLength content) back := by
  have hrun : ¬ List.replicate (fenceLength content) '`' <:+: content := fun h =>
    Nat.lt_irrefl _ (lt_fenceLength h)
  refine ⟨?_, hcloses, ?_, fun m => lt_fenceLength, ?_⟩
  · rw [startsLine] at hopens
    cases hlast : front.getLast? with
    | none => exact Or.inl (List.getLast?_eq_none_iff.mp hlast)
    | some c =>
        rw [hlast] at hopens
        exact Or.inr (congrArg some (eq_of_beq hopens))
  · exact Nat.succ_le_succ (Nat.le_max_right _ _)
  · intro ends hends
    have hpos : 0 < fenceLength content := Nat.succ_pos _
    rcases List.mem_cons.mp hends with rfl | hends
    · exact readFenced_fenced rfl (by simp [language, isNewline]) hpos hrun back
    · obtain rfl := List.mem_singleton.mp hends
      exact readFenced_fenced rfl (by simp [language, isLineEnd]) hpos hrun back

/-- Only plain text starts with the end of a line. -/
theorem kind_of_isLineEnd (hc : c ∈ s.chars.head?) (h : isLineEnd c = true) : s.kind = .plain := by
  refine kind_of_head? ?_
  intro hdollar
  obtain rfl : c = '$' := Option.some.inj (hc.symm.trans hdollar)
  exact absurd h (by decide)

/-- A text that needs no break behind a block ends there, or its next fragment ends the line. -/
theorem lineEnd_of_needsBreak {rest : List Segment} {later : List (List Char)}
    (h : needsBreak rest = false) (hdone : rest = [] → later = [])
    (hnext : ∀ q ∈ rest.head?, q.kind = .plain → later.head? = some q.chars) :
    later.flatten = [] ∨ ∃ c, later.flatten.head? = some c ∧ isLineEnd c = true := by
  cases rest with
  | nil =>
      rw [hdone rfl]
      exact Or.inl rfl
  | cons q rest =>
      rw [needsBreak, Bool.not_eq_false', Option.any_eq_true] at h
      obtain ⟨c, hc, hend⟩ := h
      obtain ⟨fragments, rfl⟩ := List.head?_eq_some_iff.mp (hnext q rfl (kind_of_isLineEnd hc hend))
      refine Or.inr ⟨c, ?_, hend⟩
      rw [List.flatten_cons, List.head?_append, hc]
      rfl

/-- **The fences of a block are safe, whatever the text.** Each block has a fragment of its own: its
    content between two fences, and newlines in front and behind where the text has none. In the
    reformatted text the opening fence starts a line and the closing one ends it, both are longer than
    every run of backticks in the content, and what a reader gets from the opening line up to the next
    line with a run as long is exactly the formula of the block. -/
theorem fences_spec (ids : Nat → Uuid) (text : String) (before rest : List Segment) (s : Segment)
    (hsplit : segments text = before ++ s :: rest) (hblock : s.kind = .block) :
    ∃ earlier later lead trail n,
      (reformat ids text).fragments = earlier ++ (lead ++ (fenced n s.source ++ trail)) :: later ∧
      earlier.length = before.length ∧ (lead = [] ∨ lead = ['\n']) ∧ (trail = [] ∨ trail = ['\n']) ∧
      (reformat ids text).text.toList
        = (earlier.flatten ++ lead) ++ (fenced n s.source ++ (trail ++ later.flatten)) ∧
      s.latex? = some (String.ofList s.source) ∧
      Fences (earlier.flatten ++ lead) s.source n (trail ++ later.flatten) := by
  obtain ⟨earlier, fragment, later, hfragments, haround⟩ := exists_around ids hsplit
  have hfragment := haround.fragment
  rw [fragmentOf, hblock] at hfragment
  simp only [blockFragment_eq] at hfragment
  have htext := text_of_fragments hfragments
  rw [hfragment] at hfragments htext
  refine ⟨earlier, later, _, _, _, hfragments, haround.length, ?_, ?_, ?_, ?_, ?_⟩
  · split <;> simp
  · split <;> simp
  · rw [htext]
    simp only [List.append_assoc]
  · rw [Segment.latex?, hblock]
    rfl
  · refine fences_of_breaks ?_ ?_
    · cases hstart : startsLine earlier.flatten with
      | true =>
          show startsLine (earlier.flatten ++ []) = true
          rw [List.append_nil, hstart]
      | false =>
          show startsLine (earlier.flatten ++ ['\n']) = true
          rw [startsLine_append]
          rfl
    · cases hbreak : needsBreak rest with
      | true => exact Or.inr ⟨'\n', rfl, rfl⟩
      | false => exact lineEnd_of_needsBreak hbreak haround.done haround.next

/-- Two blocks that touch, the first with a fence of its own in it, between carriage returns. -/
def touchingBlocks : String := "a\r$$x\n```\n$y$$$$z$$\rb"

/-- The first block gets a longer fence, a line of its own in front and one newline to the second. -/
theorem fences_spec_touching :
    let s : Segment := ⟨.block, 2, ['x', '\n', '`', '`', '`', '\n', '$', 'y']⟩
    let rest : List Segment := [⟨.block, 14, ['z']⟩, ⟨.plain, 19, ['\r', 'b']⟩]
    (segments touchingBlocks = [⟨.plain, 0, ['a', '\r']⟩] ++ s :: rest ∧ s.kind = .block) ∧
    (reformat Uuid.numbered touchingBlocks).text
      = "a\r\n````math\nx\n```\n$y\n````\n```math\nz\n```\rb" ∧
    ∃ front n back, (reformat Uuid.numbered touchingBlocks).text.toList
        = front ++ (fenced n s.source ++ back) ∧ Fences front s.source n back := by
  intro s rest
  have hsplit : segments touchingBlocks = [⟨.plain, 0, ['a', '\r']⟩] ++ s :: rest := by
    decide +kernel
  obtain ⟨earlier, later, lead, trail, n, -, -, -, -, htext, -, hfences⟩ :=
    fences_spec Uuid.numbered touchingBlocks [⟨.plain, 0, ['a', '\r']⟩] rest s hsplit rfl
  exact ⟨⟨hsplit, rfl⟩, by decide +kernel, _, n, _, htext, hfences⟩

end Formulary.Markup
