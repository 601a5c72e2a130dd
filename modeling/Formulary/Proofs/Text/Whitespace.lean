import Formulary.Text.Whitespace
import Mathlib

/-!
# White space — what trimming leaves, and words with single spaces between them

Trimming takes all blanks off both ends of a text and nothing else. So it leaves a part of the text
that is known by two things: there are only blanks around it, and it neither starts nor ends with one.
A text made of words with single spaces between them has no blank at its ends either, and never two
blanks side by side.

* `Trimmed` — characters with no blank at either end.
* `trimChars_append`, `exists_trimmed` — trimming, from what stands around the part that is left.
* `SingleSpaced` — characters with no blank at either end and no two of them side by side.
* `singleSpaced_normalize` — words joined by single spaces.
-/

namespace Formulary.Text

/-- Characters that neither start nor end with a blank. -/
structure Trimmed (cs : List Char) : Prop where
  head : ∀ c ∈ cs.head?, isBlank c = false
  last : ∀ c ∈ cs.getLast?, isBlank c = false

/-! ## Trimming -/

theorem trimLeft_append {before cs : List Char} (hbefore : ∀ c ∈ before, isBlank c = true)
    (hhead : ∀ c ∈ cs.head?, isBlank c = false) : trimLeft (before ++ cs) = cs := by
  rw [trimLeft, List.dropWhile_append_of_pos hbefore]
  cases cs with
  | nil => rfl
  | cons c rest => exact List.dropWhile_cons_of_neg (by simp [hhead c rfl])

/-- The characters that are taken off on the left are blanks, and none is left there. -/
theorem exists_trimLeft (cs : List Char) :
    ∃ before, cs = before ++ trimLeft cs ∧ (∀ c ∈ before, isBlank c = true) ∧
      ∀ c ∈ (trimLeft cs).head?, isBlank c = false := by
  refine ⟨cs.takeWhile isBlank, List.takeWhile_append_dropWhile.symm, ?_, ?_⟩
  · intro c hc
    exact List.mem_takeWhile_imp hc
  · intro c hc
    have hnot := List.head?_dropWhile_not isBlank cs
    rw [← trimLeft, Option.mem_def.mp hc] at hnot
    exact hnot

/-- The right end is the left end read backwards. -/
theorem trimRight_eq (cs : List Char) : trimRight cs = (trimLeft cs.reverse).reverse := rfl

theorem trimRight_append {cs after : List Char} (hafter : ∀ c ∈ after, isBlank c = true)
    (hlast : ∀ c ∈ cs.getLast?, isBlank c = false) : trimRight (cs ++ after) = cs := by
  rw [trimRight_eq, List.reverse_append, trimLeft_append, List.reverse_reverse]
  · exact fun c hc => hafter c (List.mem_reverse.mp hc)
  · rw [List.head?_reverse]
    exact hlast

theorem exists_trimRight (cs : List Char) :
    ∃ after, cs = trimRight cs ++ after ∧ (∀ c ∈ after, isBlank c = true) ∧
      ∀ c ∈ (trimRight cs).getLast?, isBlank c = false := by
  obtain ⟨before, hcs, hbefore, hhead⟩ := exists_trimLeft cs.reverse
  refine ⟨before.reverse, ?_, fun c hc => hbefore c (List.mem_reverse.mp hc), ?_⟩
  · rw [trimRight_eq, ← List.reverse_append, ← hcs, List.reverse_reverse]
  · rw [trimRight_eq, List.getLast?_reverse]
    exact hhead

/-- Trimming finds a part between blanks that has none at its ends. -/
theorem trimChars_append {before cs after : List Char} (hbefore : ∀ c ∈ before, isBlank c = true)
    (hafter : ∀ c ∈ after, isBlank c = true) (h : Trimmed cs) :
    trimChars (before ++ cs ++ after) = cs := by
  rw [trimChars, List.append_assoc]
  cases cs with
  | nil =>
      -- only blanks: all of them go on the left
      have hblank : ∀ c ∈ before ++ after, isBlank c = true :=
        fun c hc => (List.mem_append.mp hc).elim (hbefore c) (hafter c)
      have hall : trimLeft ((before ++ after) ++ []) = [] :=
        trimLeft_append hblank fun c hc => by cases hc
      rw [List.append_nil] at hall
      rw [List.nil_append, hall]
      rfl
  | cons c rest =>
      rw [trimLeft_append hbefore (by simpa using h.head c rfl), trimRight_append hafter h.last]

/-- Trimming leaves a part between blanks that has none at its ends. -/
theorem exists_trimmed (cs : List Char) :
    ∃ before after, cs = before ++ trimChars cs ++ after ∧ (∀ c ∈ before, isBlank c = true) ∧
      (∀ c ∈ after, isBlank c = true) ∧ Trimmed (trimChars cs) := by
  obtain ⟨before, hcs, hbefore, hhead⟩ := exists_trimLeft cs
  obtain ⟨after, hleft, hafter, hlast⟩ := exists_trimRight (trimLeft cs)
  refine ⟨before, after, ?_, hbefore, hafter, ?_, hlast⟩
  · rw [trimChars, List.append_assoc, ← hleft, ← hcs]
  · intro c hc
    refine hhead c ?_
    rw [hleft, List.head?_append, ← trimChars, Option.mem_def.mp hc]
    rfl

/-! ## Words -/

/-- Characters that neither start nor end with a blank and have no two blanks side by side. -/
structure SingleSpaced (cs : List Char) : Prop extends Trimmed cs where
  apart : cs.IsChain fun a b => isBlank a = false ∨ isBlank b = false

/-- A word is not empty and holds no blank. -/
def IsWord (word : List Char) : Prop := word ≠ [] ∧ ∀ c ∈ word, isBlank c = false

/-- What is read off a text are words, when the word begun before it holds no blank. -/
theorem isWord_of_mem_wordsFrom {cs word : List Char} (hword : ∀ c ∈ word, isBlank c = false) :
    ∀ w ∈ wordsFrom word cs, IsWord w := by
  -- a word that ends is the one that was begun, in the right order
  have hended : word.isEmpty = false → IsWord word.reverse := fun hne =>
    ⟨by simpa using hne, fun c hc => hword c (List.mem_reverse.mp hc)⟩
  induction cs generalizing word with
  | nil =>
      intro w hw
      rw [wordsFrom] at hw
      split at hw
      · cases hw
      · next hne =>
          rw [List.mem_singleton.mp hw]
          exact hended (Bool.not_eq_true _ ▸ hne)
  | cons c rest ih =>
      have hrest : ∀ w ∈ wordsFrom [] rest, IsWord w :=
        ih (fun c hc => by cases hc) (fun h => by cases h)
      intro w hw
      rw [wordsFrom] at hw
      split at hw
      · split at hw
        · exact hrest w hw
        · next hne =>
            rcases List.mem_cons.mp hw with rfl | hw
            · exact hended (Bool.not_eq_true _ ▸ hne)
            · exact hrest w hw
      · next hblank =>
          have hlonger : ∀ d ∈ c :: word, isBlank d = false := by
            intro d hd
            rcases List.mem_cons.mp hd with rfl | hd
            · exact Bool.not_eq_true _ ▸ hblank
            · exact hword d hd
          exact ih hlonger (fun _ => ⟨by simp, fun d hd => hlonger d (List.mem_reverse.mp hd)⟩) w hw

/-- A word alone is single spaced. -/
theorem IsWord.singleSpaced {word : List Char} (h : IsWord word) : SingleSpaced word where
  head c hc := h.2 c (List.mem_of_mem_head? hc)
  last c hc := h.2 c (List.mem_of_mem_getLast? hc)
  apart := (List.pairwise_of_forall_mem_list fun c hc _ _ => Or.inl (h.2 c hc)).isChain

/-- A word before single-spaced characters with a space between them. -/
theorem IsWord.append_space {word cs : List Char} (h : IsWord word) (hne : cs ≠ [])
    (hcs : SingleSpaced cs) : SingleSpaced (word ++ [' '] ++ cs) := by
  have hword := h.singleSpaced
  constructor
  · constructor
    · intro c hc
      rw [List.append_assoc, List.head?_append_of_ne_nil _ h.1] at hc
      exact hword.head c hc
    · intro c hc
      rw [List.getLast?_append_of_ne_nil _ hne] at hc
      exact hcs.last c hc
  · rw [List.append_assoc, List.isChain_append]
    refine ⟨hword.apart, ?_, fun c hc d _ => Or.inl (hword.last c hc)⟩
    exact List.isChain_cons.mpr ⟨fun d hd => Or.inr (hcs.head d hd), hcs.apart⟩

theorem intercalate_ne_nil {sep : List Char} {words : List (List Char)} (hne : words ≠ [])
    (h : ∀ w ∈ words, w ≠ []) : sep.intercalate words ≠ [] := by
  cases words with
  | nil => exact absurd rfl hne
  | cons w rest =>
      have hw := h w List.mem_cons_self
      cases rest with
      | nil => simpa using hw
      | cons v rest => simp [hw]

/-- Words with single spaces between them are single spaced. -/
theorem singleSpaced_intercalate {words : List (List Char)} (h : ∀ w ∈ words, IsWord w) :
    SingleSpaced ([' '].intercalate words) := by
  induction words with
  | nil => exact ⟨⟨by simp, by simp⟩, by simp⟩
  | cons w rest ih =>
      have hw := h w List.mem_cons_self
      have hrest : ∀ v ∈ rest, IsWord v := fun v hv => h v (List.mem_cons_of_mem _ hv)
      cases rest with
      | nil => simpa using hw.singleSpaced
      | cons v rest =>
          rw [List.intercalate_cons_cons]
          exact hw.append_space (intercalate_ne_nil (by simp) fun u hu => (hrest u hu).1) (ih hrest)

/-- A text whose words are joined by single spaces is single spaced. -/
theorem singleSpaced_normalize (s : String) : SingleSpaced (normalize s).toList := by
  have hchars : (normalize s).toList = [' '].intercalate (wordsFrom [] s.toList) := by
    rw [normalize, String.toList_intercalate, words, List.map_map]
    simp
  rw [hchars]
  exact singleSpaced_intercalate (isWord_of_mem_wordsFrom fun c hc => by cases hc)

end Formulary.Text
