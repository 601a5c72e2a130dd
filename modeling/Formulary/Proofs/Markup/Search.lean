import Formulary.Proofs.Markup.Attempt

/-!
# Searches — a search finds the leftmost occurrence

The attempts at a position find the shape that occurs there, and a search without a limit goes on from
position to position until one does. A search with a limit ends in the same way, or it runs out of steps.

* `Occurrence.span` — an occurrence as a span.
* `spanAt_tried` — the attempts at a position.
* `findSpan_none_ne_exhausted` — without a limit no steps run out.
* `findSpan_looked`, `findSpan_taken`, `findSpan_append` — a search.
* `findSpan_eq_or` — a search with a limit.
-/

namespace Formulary.Markup

variable {t rest : List Char} {c : Char} {kind : SegmentKind} {o : Occurrence} {i k : Nat}

/-! ## Spans -/

/-- The characters of a span, signs included. -/
def Span.chars (span : Span) : List Char := span.kind.opener ++ span.content ++ span.kind.closer

/-- The span of an occurrence. -/
def Occurrence.span (t : List Char) (o : Occurrence) : Span :=
  ⟨o.kind, o.content t, t.drop o.stop⟩

/-- An occurrence consists of its opening signs, its content and its closing signs. -/
theorem Occurs.chars (h : Occurs t o) : (o.span t).chars = t.extract o.opening o.stop := by
  have hfirst : o.opening ≤ o.first := Nat.le_add_right _ _
  have hstop : o.closing ≤ o.stop := Nat.le_add_right _ _
  rw [← extract_append (hfirst.trans h.first_le) hstop, ← extract_append hfirst h.first_le,
    Occurrence.first, Occurrence.stop, extract_of_opens h.opens, extract_of_closes h.encloses.closes]
  rfl

/-- The character in front of what follows an occurrence is its last one. -/
theorem Occurs.charBefore_stop (h : Occurs t o) : charBefore t o.stop = (o.span t).chars.getLast? := by
  obtain ⟨kind, opening, closing⟩ := o
  have hcloses := h.encloses.closes
  rw [Span.chars, List.getLast?_append]
  cases kind with
  | plain => exact h.opens.elim
  | block => exact charBefore_succ hcloses.2
  | quoted => exact charBefore_succ hcloses.2.1
  | inline => exact charBefore_succ hcloses.2.1

/-! ## The shapes at a position -/

/-- What an attempt gives is a span of its shape. -/
def Attempt.span? (kind : SegmentKind) (a : Attempt) : Option Span :=
  a.toOption.map fun found => ⟨kind, found.1, found.2⟩

theorem spanAt_nil (b : Option Char) : (spanAt b []).2 = none := by
  cases hb : clear b <;> simp [spanAt, hb]

/-- Behind two dollar signs only a block is tried. -/
theorem spanAt_of_blockOpen (b : Option Char) (rest : List Char) :
    (spanAt b ('$' :: '$' :: rest)).2 = Attempt.span? .block (closeBlock 0 [] rest) := by
  cases h : closeBlock 0 [] rest <;> simp [spanAt, h, Attempt.span?, Except.toOption, isSign]

/-- Behind a dollar sign and a backtick only a quoted formula is tried. -/
theorem spanAt_of_quotedOpen {b : Option Char} (hb : clear b = true) (rest : List Char) :
    (spanAt b ('$' :: '`' :: rest)).2 = Attempt.span? .quoted (closeQuoted 0 [] rest) := by
  cases h : closeQuoted 0 [] rest <;> simp [spanAt, h, hb, Attempt.span?, Except.toOption]

/-- Behind a dollar sign alone only an inline formula is tried. -/
theorem spanAt_of_inlineOpen {b : Option Char} (hb : clear b = true) (hc : isSign c = false)
    (rest : List Char) :
    (spanAt b ('$' :: c :: rest)).2 = Attempt.span? .inline (closeInline 0 [] (c :: rest)) := by
  have hne : c ≠ '`' ∧ c ≠ '$' := by simpa [isSign] using hc
  cases h : closeInline 0 [] (c :: rest) <;>
    simp [spanAt, h, hb, hc, hne, Attempt.span?, Except.toOption]

/-- Behind a sign nothing but a block is tried. -/
theorem spanAt_of_not_clear {b : Option Char} (hb : clear b = false) (hc : c ≠ '$')
    (rest : List Char) : (spanAt b ('$' :: c :: rest)).2 = none := by
  simp [spanAt, hb, hc]

/-- Where no dollar sign stands nothing is tried. -/
theorem spanAt_of_ne (b : Option Char) (hc : c ≠ '$') (rest : List Char) :
    (spanAt b (c :: rest)).2 = none := by
  cases hb : clear b <;> simp [spanAt, hb, hc]

theorem spanAt_dollar (b : Option Char) : (spanAt b ['$']).2 = none := by
  cases hb : clear b <;> simp [spanAt, hb]

/-- What the attempts at a position say of it. -/
inductive Tried (t : List Char) (i : Nat) : Option Span → Prop
  | found {o : Occurrence} (opening : o.opening = i) (taken : Taken t o) :
      Tried t i (some (o.span t))
  | vain (h : ∀ o, Occurs t o → o.opening ≠ i) : Tried t i none

/-- Only the shape whose signs open at a position has to be tried there. -/
theorem tried_of_answers {a : Attempt} (hopens : Opens t i kind)
    (h : Answers t kind (i + kind.opener.length) a) : Tried t i (Attempt.span? kind a) := by
  cases h with
  | @closed close henc =>
      refine Tried.found (o := ⟨kind, i, close⟩) rfl ⟨⟨hopens, henc⟩, ?_⟩
      rintro ⟨other, opening, _⟩ hother hopening
      cases hopening
      rw [hother.opens.unique hopens]
  | unclosed hnone =>
      refine .vain ?_
      rintro ⟨other, opening, close⟩ ho hopening
      cases hopening
      cases ho.opens.unique hopens
      exact hnone close ho.encloses

theorem vain_of_ne (h : t[i]? ≠ some '$') : Tried t i none := by
  refine .vain ?_
  rintro o ho rfl
  exact h (getElem?_of_opens ho.opens)

/-- A dollar sign and the character behind it decide which shape has to be tried. -/
theorem spanAt_tried_of_dollar {d : Char} (hc : t[i]? = some '$') (hd : t[i + 1]? = some d)
    (hrest : d :: rest = t.drop (i + 1)) :
    Tried t i (spanAt (charBefore t i) ('$' :: d :: rest)).2 := by
  have hafter := drop_succ_of_drop hrest
  by_cases hblock : d = '$'
  · subst hblock
    rw [spanAt_of_blockOpen, hafter]
    exact tried_of_answers ⟨hc, hd⟩ closeBlock_answers_first
  · by_cases hfree : clear (charBefore t i) = true
    · have hfreeAt := clear_charBefore_iff.mp hfree
      by_cases hquoted : d = '`'
      · subst hquoted
        rw [spanAt_of_quotedOpen hfree, hafter]
        exact tried_of_answers ⟨hfreeAt, hc, hd⟩ closeQuoted_answers_first
      · have hsign : ¬ SignAt t (i + 1) := by
          rw [SignAt, hd]
          simp [hblock, hquoted]
        rw [spanAt_of_inlineOpen hfree (by simp [isSign, hblock, hquoted]), hrest]
        exact tried_of_answers ⟨hfreeAt, hc, hsign⟩ closeInline_answers_first
    · -- behind a sign only a block opens
      rw [spanAt_of_not_clear (by simpa using hfree) hblock]
      refine .vain ?_
      rintro ⟨kind, opening, closing⟩ ho rfl
      cases kind with
      | plain => exact ho.opens
      | block =>
          have hnext := ho.opens.2
          rw [hd, Option.some.injEq] at hnext
          exact hblock hnext
      | quoted => exact hfree (clear_charBefore_iff.mpr ho.opens.1)
      | inline => exact hfree (clear_charBefore_iff.mpr ho.opens.1)

/-- At each position the three attempts take what is to be taken there. -/
theorem spanAt_tried (t : List Char) (i : Nat) : Tried t i (spanAt (charBefore t i) (t.drop i)).2 := by
  generalize hcs : t.drop i = cs
  cases cs with
  | nil =>
      rw [spanAt_nil]
      refine vain_of_ne ?_
      rw [getElem?_of_drop_nil hcs.symm (Nat.le_refl _)]
      exact (Option.some_ne_none '$').symm
  | cons c rest =>
      have hc := getElem?_of_drop hcs.symm
      have hrest := drop_succ_of_drop hcs.symm
      by_cases hdollar : c = '$'
      · subst hdollar
        cases rest with
        | nil =>
            -- the last character of a text opens nothing that could close
            rw [spanAt_dollar]
            refine .vain ?_
            rintro o ho rfl
            have hlength := List.drop_eq_nil_iff.mp hrest.symm
            have hclosing := ho.opening_lt
            omega
        | cons d after => exact spanAt_tried_of_dollar hc (getElem?_of_drop hrest) hrest
      · rw [spanAt_of_ne _ hdollar]
        refine vain_of_ne ?_
        rw [hc, ne_eq, Option.some.injEq]
        exact hdollar

/-! ## Searches without a limit -/

/-- A search ends where an attempt succeeds. -/
theorem findSpan_none_of_some {before : Option Char} {passed : List Char} {c : Char}
    {rest : List Char} {span : Span} (h : (spanAt before (c :: rest)).2 = some span) :
    findSpan none before passed (c :: rest) = .span passed.reverse span := by
  rw [findSpan]
  simp only [StepLimit.spend, h]

/-- A search goes on by one character where all attempts fail. -/
theorem findSpan_none_of_none {before : Option Char} {passed : List Char} {c : Char}
    {rest : List Char} (h : (spanAt before (c :: rest)).2 = none) :
    findSpan none before passed (c :: rest) = findSpan none (some c) (c :: passed) rest := by
  rw [findSpan]
  simp only [StepLimit.spend, h]

/-- A search without a limit does not run out of steps. -/
theorem findSpan_none_ne_exhausted (before : Option Char) (passed cs : List Char) :
    findSpan none before passed cs ≠ .exhausted := by
  induction cs generalizing before passed with
  | nil =>
      rw [findSpan]
      exact Found.noConfusion
  | cons c rest ih =>
      cases hspan : (spanAt before (c :: rest)).2 with
      | some span =>
          rw [findSpan_none_of_some hspan]
          exact Found.noConfusion
      | none =>
          rw [findSpan_none_of_none hspan]
          exact ih _ _

/-- What a search from position `start` on gives when the characters from position `origin` on have
    been passed over. -/
inductive Looked (t : List Char) (origin start : Nat) : Found → Prop
  | span {o : Occurrence} (ahead : start ≤ o.opening)
      (leftmost : ∀ other, Occurs t other → start ≤ other.opening → o.opening ≤ other.opening)
      (taken : Taken t o) : Looked t origin start (.span (t.extract origin o.opening) (o.span t))
  | nothing (none_left : ∀ o, Occurs t o → o.opening < start) : Looked t origin start .nothing

/-- A position where nothing occurs can be passed over. -/
theorem Looked.of_vain {origin start : Nat} {found : Found} (h : Looked t origin (start + 1) found)
    (hvain : ∀ o, Occurs t o → o.opening ≠ start) : Looked t origin start found := by
  cases h with
  | span ahead leftmost taken =>
      refine .span (Nat.le_of_succ_le ahead) ?_ taken
      intro other hother hstart
      have hne := hvain other hother
      exact leftmost other hother (by omega)
  | nothing hnone =>
      refine .nothing ?_
      intro o ho
      have hne := hvain o ho
      have hlt := hnone o ho
      omega

/-- A search finds the leftmost occurrence from its start on. -/
theorem findSpan_looked (t : List Char) {origin start : Nat} {passed : List Char}
    (hfrom : origin ≤ start) (hpassed : passed.reverse = t.extract origin start) :
    Looked t origin start (findSpan none (charBefore t start) passed (t.drop start)) := by
  generalize hcs : t.drop start = cs
  induction cs generalizing start passed with
  | nil =>
      refine .nothing fun o ho => ?_
      have hlength := List.drop_eq_nil_iff.mp hcs
      have := ho.opening_lt
      omega
  | cons c rest ih =>
      have hc := getElem?_of_drop hcs.symm
      have hrest := drop_succ_of_drop hcs.symm
      have htried := spanAt_tried t start
      rw [hcs] at htried
      generalize hspan : (spanAt (charBefore t start) (c :: rest)).2 = span at htried
      cases htried with
      | @found o hopening htaken =>
          rw [findSpan_none_of_some hspan, hpassed, ← hopening]
          exact .span (Nat.le_refl _) (fun _ _ h => h) htaken
      | vain hvain =>
          rw [findSpan_none_of_none hspan, ← charBefore_succ hc]
          refine (ih (Nat.le_succ_of_le hfrom) ?_ hrest.symm).of_vain hvain
          rw [List.reverse_cons, hpassed, extract_succ hc hfrom]

theorem findSpan_looked_start (t : List Char) (start : Nat) :
    Looked t start start (findSpan none (charBefore t start) [] (t.drop start)) :=
  findSpan_looked t (Nat.le_refl start) extract_self.symm

/-- A search finds an occurrence in the text with the character in front of it. -/
theorem findSpan_taken {before : Option Char} {cs passed : List Char} {span : Span}
    (h : findSpan none before [] cs = .span passed span) :
    let t := before.toList ++ cs
    ∃ o, before.toList.length ≤ o.opening ∧ Taken t o ∧
      passed = t.extract before.toList.length o.opening ∧ span = o.span t := by
  intro t
  have hbefore : charBefore t before.toList.length = before := by
    cases before with
    | none => rfl
    | some c => rfl
  have hlooked := findSpan_looked_start t before.toList.length
  rw [hbefore, List.drop_left, h] at hlooked
  cases hlooked with
  | @span o ahead leftmost taken => exact ⟨o, ahead, taken, rfl, rfl⟩

/-- A search passes over characters, and its span is what comes then. -/
theorem findSpan_append {before : Option Char} {cs passed : List Char} {span : Span}
    (h : findSpan none before [] cs = .span passed span) :
    cs = passed ++ (span.chars ++ span.rest) ∧ span.chars ≠ [] := by
  obtain ⟨o, ahead, taken, rfl, rfl⟩ := findSpan_taken h
  constructor
  · rw [taken.occurs.chars, Occurrence.span, extract_append_drop taken.occurs.opening_le_stop,
      extract_append_drop ahead, List.drop_left]
  · rw [Span.chars, ne_eq, List.append_eq_nil_iff, List.append_eq_nil_iff]
    rintro ⟨⟨hopener, -⟩, -⟩
    have hopens := taken.occurs.opens
    obtain ⟨kind, opening, closing⟩ := o
    cases kind with
    | plain => exact hopens
    | _ => cases hopener

/-! ## Searches with a limit -/

/-- A search that does not run out of steps ends as it would without a limit. -/
theorem findSpan_eq_or (limit : StepLimit) (before : Option Char) (passed cs : List Char) :
    findSpan limit before passed cs = .exhausted ∨
      findSpan limit before passed cs = findSpan none before passed cs := by
  fun_induction findSpan limit before passed cs with
  | case1 => exact Or.inr rfl
  | case2 => exact Or.inl rfl
  | case3 limit before passed c rest steps _ span _ hspan =>
      exact Or.inr (findSpan_none_of_some (by rw [hspan])).symm
  | case4 => exact Or.inl rfl
  | case5 limit before passed c rest steps _ _ _ _ hspan ih =>
      rw [findSpan_none_of_none (by rw [hspan])]
      exact ih

/-- What a search with a limit finds is what it finds without one. -/
theorem findSpan_none_eq {limit : StepLimit} {before : Option Char} {passed cs : List Char}
    {found : Found} (h : findSpan limit before passed cs = found) (hfound : found ≠ .exhausted) :
    findSpan none before passed cs = found := by
  rcases findSpan_eq_or limit before passed cs with hlimit | hlimit
  · exact absurd (h.symm.trans hlimit) hfound
  · exact hlimit.symm.trans h

end Formulary.Markup
