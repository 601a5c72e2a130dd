import Formulary.Proofs.Markup.Shape

/-!
# Attempts — reading a content up to its end

Reading from left to right, an attempt at a shape stops at the nearest position that closes it, and gives
up where the text ends or, but for a block, where its line ends. What is read is told with the text as a
whole: it is the text from a position on.

* `Unclosed` — what has been read of a content when nothing has closed it so far.
* `Answers` — what an attempt says of a content.
* `closeBlock_answers`, `closeQuoted_answers`, `closeInline_answers` — the attempts.
-/

namespace Formulary.Markup

variable {t rest content acc : List Char} {c : Char} {kind : SegmentKind} {i j k first n : Nat}

/-! ## Signs -/

/-- Whether a place is clear of signs, in terms of the text. -/
theorem clear_iff : clear t[i]? = true ↔ ¬ SignAt t i := by
  rw [clear, SignAt]
  cases h : t[i]? with
  | none => simp
  | some c => simp [isSign]

/-- The same of the place in front of a position. -/
theorem clear_charBefore_iff : clear (charBefore t i) = true ↔ FreeAt t i := by
  rw [charBefore, FreeAt]
  by_cases h : i = 0
  · simp [h, clear]
  · rw [if_neg h, clear_iff]
    exact (or_iff_right h).symm

/-! ## Contents -/

/-- Nothing closes the content from `first` on before position `k`. -/
structure Unclosed (t : List Char) (kind : SegmentKind) (first k : Nat) : Prop where
  start : first ≤ k
  none_closes : ∀ m, first + kind.least ≤ m → m < k → ¬ Closes t m kind
  line : kind ≠ .block → ∀ m, first ≤ m → m < k → t[m]? ≠ some '\n'

theorem unclosed_first : Unclosed t kind first first :=
  ⟨Nat.le_refl first, fun _ _ _ => by omega, fun _ _ _ _ => by omega⟩

/-- A character that closes nothing belongs to the content. -/
theorem Unclosed.step (h : Unclosed t kind first k)
    (hopen : first + kind.least ≤ k → ¬ Closes t k kind)
    (hline : kind ≠ .block → t[k]? ≠ some '\n') : Unclosed t kind first (k + 1) := by
  refine ⟨Nat.le_succ_of_le h.start, ?_, ?_⟩
  · intro m hm hlt
    by_cases hk : m = k
    · exact hk ▸ hopen (hk ▸ hm)
    · exact h.none_closes m hm (by omega)
  · intro hkind m hm hlt
    by_cases hk : m = k
    · exact hk ▸ hline hkind
    · exact h.line hkind m hm (by omega)

/-- A content that has not been closed runs up to a position where it is. -/
theorem Unclosed.encloses (h : Unclosed t kind first k) (hroom : first + kind.least ≤ k)
    (hcloses : Closes t k kind) : Encloses t kind first k :=
  ⟨hroom, hcloses, h.none_closes, h.line⟩

/-- A content that is not closed before the end of the text has no end. -/
theorem Unclosed.not_encloses_of_end (h : Unclosed t kind first k) (hend : ∀ i, k ≤ i → t[i]? = none) :
    ¬ Encloses t kind first j := by
  intro henc
  by_cases hj : j < k
  · exact h.none_closes j henc.room hj henc.closes
  · rcases signAt_of_closes henc.closes with hsign | hsign
    · rw [hend j (by omega)] at hsign
      cases hsign
    · rw [hend j (by omega)] at hsign
      cases hsign

/-- Nor has a content that is not closed before the end of its line, unless it is that of a block. -/
theorem Unclosed.not_encloses_of_newline (h : Unclosed t kind first k) (hkind : kind ≠ .block)
    (hline : t[k]? = some '\n') : ¬ Encloses t kind first j := by
  intro henc
  by_cases hj : j < k
  · exact h.none_closes j henc.room hj henc.closes
  · by_cases hk : j = k
    · have hsign := signAt_of_closes henc.closes
      rw [hk, SignAt, hline] at hsign
      simp at hsign
    · exact henc.line hkind k h.start (by omega) hline

/-- What an attempt says of the content from `first` on. -/
inductive Answers (t : List Char) (kind : SegmentKind) (first : Nat) : Attempt → Prop
  | closed {close : Nat} (h : Encloses t kind first close) :
      Answers t kind first (.ok (t.extract first close, t.drop (close + kind.closer.length)))
  | unclosed {n : Nat} (h : ∀ close, ¬ Encloses t kind first close) : Answers t kind first (.error n)

/-- An attempt at a block answers for the text. The content that was read reaches from `first` to `k`. -/
theorem closeBlock_answers (h : Unclosed t .block first k) (hacc : acc.reverse = t.extract first k) :
    Answers t .block first (closeBlock n acc (t.drop k)) := by
  generalize hcs : t.drop k = cs
  fun_induction closeBlock n acc cs generalizing k with
  | case1 n acc =>
      refine .unclosed fun close => ?_
      exact h.not_encloses_of_end fun i hi => getElem?_of_drop_nil hcs.symm hi
  | case2 n acc rest =>
      have hrest := drop_succ_of_drop hcs.symm
      have henc : Encloses t .block first k :=
        h.encloses h.start ⟨getElem?_of_drop hcs.symm, getElem?_of_drop hrest⟩
      rw [hacc, drop_succ_of_drop hrest]
      exact .closed henc
  | case3 n acc c rest hsigns ih =>
      have hc := getElem?_of_drop hcs.symm
      have hrest := drop_succ_of_drop hcs.symm
      refine ih (h.step ?_ fun hkind => absurd rfl hkind) ?_ hrest.symm
      · rintro - ⟨hk, hnext⟩
        rw [hc, Option.some.injEq] at hk
        cases rest with
        | nil =>
            rw [getElem?_of_drop_nil hrest (Nat.le_refl _)] at hnext
            cases hnext
        | cons d after =>
            rw [getElem?_of_drop hrest, Option.some.injEq] at hnext
            exact hsigns after hk (by rw [hnext])
      · rw [List.reverse_cons, hacc, extract_succ hc h.start]

/-- Something of a content has been read when the position is behind its first one. -/
theorem not_isEmpty_iff (hacc : acc.reverse = t.extract first k) (hk : k ≤ t.length) :
    (!acc.isEmpty) = true ↔ first + 1 ≤ k := by
  have hlength : acc.length = k - first := by
    rw [← List.length_reverse, hacc, List.length_take, List.length_drop]
    omega
  rw [Bool.not_eq_true', List.isEmpty_eq_false_iff, ← List.length_pos_iff, hlength]
  omega

/-- What was read last stands in front of the position. -/
theorem head?_eq_of_reverse (hacc : acc.reverse = t.extract first k) (hroom : first + 1 ≤ k)
    (hk : k ≤ t.length) : acc.head? = t[k - 1]? := by
  have hlast : first + (k - first - 1) = k - 1 := by omega
  rw [← List.getLast?_reverse, hacc, List.getLast?_eq_getElem?, List.length_take, List.length_drop,
    Nat.min_eq_left (by omega), List.getElem?_take_of_lt (by omega), List.getElem?_drop, hlast]

theorem ne_newline (hc : t[k]? = some c) (hline : ¬ c = '\n') : t[k]? ≠ some '\n' := by
  rw [hc, ne_eq, Option.some.injEq]
  exact hline

/-- The test of a closing backtick and dollar sign. -/
theorem closes_quoted_iff {d : Char} {after : List Char} (hcs : c :: d :: after = t.drop k)
    (hacc : acc.reverse = t.extract first k) :
    (c = '`' ∧ d = '$' ∧ (!acc.isEmpty) = true ∧ clear after.head? = true)
      ↔ first + 1 ≤ k ∧ Closes t k .quoted := by
  have hc := getElem?_of_drop hcs
  have hnext := drop_succ_of_drop hcs
  have hk : k < t.length := (List.getElem?_eq_some_iff.mp hc).1
  rw [not_isEmpty_iff hacc (by omega), drop_succ_of_drop hnext, List.head?_drop, clear_iff, Closes,
    hc, getElem?_of_drop hnext, Option.some.injEq, Option.some.injEq]
  tauto

/-- The test of a closing dollar sign. -/
theorem closes_inline_iff (hcs : c :: rest = t.drop k) (hacc : acc.reverse = t.extract first k) :
    (c = '$' ∧ (!acc.isEmpty) = true ∧ clear acc.head? = true ∧ clear rest.head? = true)
      ↔ first + 1 ≤ k ∧ Closes t k .inline := by
  have hc := getElem?_of_drop hcs
  have hk : k < t.length := (List.getElem?_eq_some_iff.mp hc).1
  rw [not_isEmpty_iff hacc (by omega), drop_succ_of_drop hcs, List.head?_drop, clear_iff, Closes,
    hc, Option.some.injEq]
  by_cases hroom : first + 1 ≤ k
  · rw [head?_eq_of_reverse hacc hroom (by omega), clear_iff]
    tauto
  · simp only [hroom, false_and, and_false]

/-- An attempt at a quoted formula answers for the text. -/
theorem closeQuoted_answers (h : Unclosed t .quoted first k)
    (hacc : acc.reverse = t.extract first k) :
    Answers t .quoted first (closeQuoted n acc (t.drop k)) := by
  generalize hcs : t.drop k = cs
  fun_induction closeQuoted n acc cs generalizing k with
  | case1 n acc =>
      refine .unclosed fun close => ?_
      exact h.not_encloses_of_end fun i hi => getElem?_of_drop_nil hcs.symm hi
  | case2 n acc rest =>
      refine .unclosed fun close => ?_
      exact h.not_encloses_of_newline SegmentKind.noConfusion (getElem?_of_drop hcs.symm)
  | case3 n acc c hline d after hsigns =>
      obtain ⟨hroom, hcloses⟩ := (closes_quoted_iff hcs.symm hacc).mp hsigns
      rw [hacc, drop_succ_of_drop (drop_succ_of_drop hcs.symm)]
      exact .closed (h.encloses hroom hcloses)
  | case4 n acc c hline d after hsigns ih =>
      have hc := getElem?_of_drop hcs.symm
      refine ih (h.step ?_ ?_) ?_ (drop_succ_of_drop hcs.symm).symm
      · intro hroom hcloses
        exact hsigns ((closes_quoted_iff hcs.symm hacc).mpr ⟨hroom, hcloses⟩)
      · exact fun _ => ne_newline hc hline
      · rw [List.reverse_cons, hacc, extract_succ hc h.start]
  | case5 n acc c hline =>
      -- the last character of a text cannot close: a sign has to follow it
      have hc := getElem?_of_drop hcs.symm
      have hend := drop_succ_of_drop hcs.symm
      refine .unclosed fun close => ?_
      refine (h.step ?_ ?_).not_encloses_of_end fun i hi => getElem?_of_drop_nil hend hi
      · rintro - ⟨-, hnext, -⟩
        rw [getElem?_of_drop_nil hend (Nat.le_refl _)] at hnext
        cases hnext
      · exact fun _ => ne_newline hc hline

/-- An attempt at an inline formula answers for the text. -/
theorem closeInline_answers (h : Unclosed t .inline first k)
    (hacc : acc.reverse = t.extract first k) :
    Answers t .inline first (closeInline n acc (t.drop k)) := by
  generalize hcs : t.drop k = cs
  fun_induction closeInline n acc cs generalizing k with
  | case1 n acc =>
      refine .unclosed fun close => ?_
      exact h.not_encloses_of_end fun i hi => getElem?_of_drop_nil hcs.symm hi
  | case2 n acc rest =>
      refine .unclosed fun close => ?_
      exact h.not_encloses_of_newline SegmentKind.noConfusion (getElem?_of_drop hcs.symm)
  | case3 n acc c rest hline hsigns =>
      obtain ⟨hroom, hcloses⟩ := (closes_inline_iff hcs.symm hacc).mp hsigns
      rw [hacc, drop_succ_of_drop hcs.symm]
      exact .closed (h.encloses hroom hcloses)
  | case4 n acc c rest hline hsigns ih =>
      have hc := getElem?_of_drop hcs.symm
      refine ih (h.step ?_ ?_) ?_ (drop_succ_of_drop hcs.symm).symm
      · intro hroom hcloses
        exact hsigns ((closes_inline_iff hcs.symm hacc).mpr ⟨hroom, hcloses⟩)
      · exact fun _ => ne_newline hc hline
      · rw [List.reverse_cons, hacc, extract_succ hc h.start]

theorem closeBlock_answers_first : Answers t .block first (closeBlock 0 [] (t.drop first)) :=
  closeBlock_answers unclosed_first extract_self.symm

theorem closeQuoted_answers_first : Answers t .quoted first (closeQuoted 0 [] (t.drop first)) :=
  closeQuoted_answers unclosed_first extract_self.symm

theorem closeInline_answers_first : Answers t .inline first (closeInline 0 [] (t.drop first)) :=
  closeInline_answers unclosed_first extract_self.symm

end Formulary.Markup
