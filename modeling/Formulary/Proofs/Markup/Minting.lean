import Formulary.Markup.Reformat
import Formulary.Proofs.Markup.Claim

/-!
# Minting — the table of the inline formulas of a text

Each inline formula of a text gets the next identifier of a supply. When the supply does not repeat
itself within the text, the table reads under each identifier the formula it was minted for.

* `MintsApart` — a supply that gives every inline formula of a text an identifier of its own.
* `get?_placeholdersOf`, `contains_placeholdersOf` — what the table of a text holds.
* `remainingSources_placeholdersOf` — the formulas of the table in their order.
-/

namespace Formulary.Markup

/-- The placeholder of a segment. -/
def Segment.placeholder (s : Segment) : Placeholder := ⟨String.ofList s.source, s.start⟩

/-- The identifiers that a supply gives the inline formulas among some segments are distinct. -/
def MintsApart (ids : Nat → Uuid) (segments : List Segment) : Prop :=
  ∀ i j, i < (spanSegments segments).length → j < (spanSegments segments).length →
    ids i = ids j → i = j

/-- The table of some inline formulas, minted one after the other. -/
def mintAll (ids : Nat → Uuid) (spans : List Segment) : PlaceholderTable :=
  spans.foldl (fun table s => (table.mint ids s.placeholder.latex s.placeholder.offset).2)
    PlaceholderTable.empty

variable {ids : Nat → Uuid}

theorem mintAll_concat (spans : List Segment) (s : Segment) :
    mintAll ids (spans ++ [s])
      = ((mintAll ids spans).mint ids s.placeholder.latex s.placeholder.offset).2 := by
  rw [mintAll, List.foldl_append]
  rfl

theorem minted_mintAll (spans : List Segment) : (mintAll ids spans).minted = spans.length := by
  induction spans using List.reverseRecOn with
  | nil => rfl
  | append_singleton spans s ih =>
      rw [mintAll_concat, List.length_append, List.length_singleton]
      exact congrArg (· + 1) ih

theorem get?_mintAll_concat (spans : List Segment) (s : Segment) (id : Uuid) :
    (mintAll ids (spans ++ [s])).get? id
      = if id = ids spans.length then some s.placeholder else (mintAll ids spans).get? id := by
  have hminted : (mintAll ids spans).minted = spans.length := minted_mintAll spans
  rw [mintAll_concat, ← hminted]
  exact Table.get?_set _ _ _ _

/-- Formulas with identifiers of their own are read back under them. The induction is on the formulas
    minted last first; a new identifier is none of those before it. -/
theorem get?_mintAll {spans : List Segment}
    (hids : ∀ i j, i < spans.length → j < spans.length → ids i = ids j → i = j) {id : Uuid}
    {p : Placeholder} :
    (mintAll ids spans).get? id = some p
      ↔ ∃ i s, spans[i]? = some s ∧ ids i = id ∧ s.placeholder = p := by
  induction spans using List.reverseRecOn with
  | nil =>
      constructor
      · intro h
        cases h
      · rintro ⟨i, s, hs, -⟩
        cases hs
  | append_singleton spans s ih =>
      rw [List.length_append, List.length_singleton] at hids
      have hspans := ih fun i j hi hj => hids i j (by omega) (by omega)
      rw [get?_mintAll_concat]
      by_cases hid : id = ids spans.length
      · -- the identifier that was minted last
        rw [if_pos hid]
        constructor
        · intro hp
          exact ⟨spans.length, s, by simp, hid.symm, Option.some.inj hp⟩
        · rintro ⟨i, s', hs', hi, rfl⟩
          have hlt : i < spans.length + 1 := by
            simpa using (List.getElem?_eq_some_iff.mp hs').1
          have hlast : i = spans.length :=
            hids i spans.length hlt (by omega) (hi.trans hid)
          rw [hlast, List.getElem?_append_right (Nat.le_refl _)] at hs'
          simpa using (congrArg (Option.map Segment.placeholder) hs')
      · -- an older one, which was not minted again
        rw [if_neg hid, hspans]
        constructor
        · rintro ⟨i, s', hs', hi, hp⟩
          have hlt := (List.getElem?_eq_some_iff.mp hs').1
          exact ⟨i, s', by rw [List.getElem?_append_left hlt]; exact hs', hi, hp⟩
        · rintro ⟨i, s', hs', hi, hp⟩
          have hlt : i < spans.length := by
            have hle : i < spans.length + 1 := by
              simpa using (List.getElem?_eq_some_iff.mp hs').1
            have hne : i ≠ spans.length := by
              rintro rfl
              exact hid hi.symm
            omega
          rw [List.getElem?_append_left hlt] at hs'
          exact ⟨i, s', hs', hi, hp⟩

/-- Formulas with identifiers of their own are listed in the order in which they were minted. -/
theorem values_mintAll {spans : List Segment}
    (hids : ∀ i j, i < spans.length → j < spans.length → ids i = ids j → i = j) :
    (mintAll ids spans).entries.values = spans.map Segment.placeholder := by
  induction spans using List.reverseRecOn with
  | nil => rfl
  | append_singleton spans s ih =>
      rw [List.length_append, List.length_singleton] at hids
      have hspans : ∀ i j, i < spans.length → j < spans.length → ids i = ids j → i = j :=
        fun i j hi hj => hids i j (by omega) (by omega)
      have hnew : (mintAll ids spans).entries.get? (ids spans.length) = none := by
        rw [Option.eq_none_iff_forall_ne_some]
        intro p hp
        obtain ⟨i, s', hs', hi, -⟩ := (get?_mintAll hspans).mp hp
        have hlt := (List.getElem?_eq_some_iff.mp hs').1
        have heq := hids i spans.length (by omega) (by omega) hi
        omega
      have hminted : (mintAll ids spans).minted = spans.length := minted_mintAll spans
      have hvalues := Table.values_set_new hnew s.placeholder
      rw [← hminted, ih hspans] at hvalues
      rw [mintAll_concat, List.map_append]
      exact hvalues

/-- The table of a text reads under each identifier the formula that it was minted for. -/
theorem get?_placeholdersOf {segments : List Segment} (hids : MintsApart ids segments) {id : Uuid}
    {p : Placeholder} :
    (placeholdersOf ids segments).get? id = some p
      ↔ ∃ i s, (spanSegments segments)[i]? = some s ∧ ids i = id ∧ s.placeholder = p :=
  get?_mintAll hids

/-- The table of a text holds the identifiers minted for it. -/
theorem contains_placeholdersOf {segments : List Segment} (hids : MintsApart ids segments)
    {id : Uuid} :
    (placeholdersOf ids segments).contains id = true
      ↔ ∃ i, i < (spanSegments segments).length ∧ ids i = id := by
  rw [PlaceholderTable.contains_iff]
  constructor
  · rintro ⟨p, hp⟩
    obtain ⟨i, s, hs, hi, -⟩ := (get?_placeholdersOf hids).mp hp
    exact ⟨i, (List.getElem?_eq_some_iff.mp hs).1, hi⟩
  · rintro ⟨i, hlt, hi⟩
    exact ⟨_, (get?_placeholdersOf hids).mpr ⟨i, _, List.getElem?_eq_getElem hlt, hi, rfl⟩⟩

/-- The table of a text lists its formulas as they stand in the text. -/
theorem remainingSources_placeholdersOf {segments : List Segment} (hids : MintsApart ids segments)
    (hsorted : segments.Pairwise fun a b => a.start ≤ b.start) :
    (placeholdersOf ids segments).remainingSources
      = (spanSegments segments).map fun s => String.ofList s.source := by
  have hvalues : (placeholdersOf ids segments).entries.values
      = (spanSegments segments).map Segment.placeholder := values_mintAll hids
  have hplaces : ((spanSegments segments).map Segment.placeholder).Pairwise
      fun a b => decide (a.offset ≤ b.offset) = true := by
    rw [List.pairwise_map]
    refine (hsorted.filter _).imp ?_
    intro a b hab
    exact decide_eq_true hab
  rw [PlaceholderTable.remainingSources, hvalues, List.mergeSort_of_pairwise hplaces, List.map_map]
  rfl

/-- An inline formula has a source, and its placeholder holds it. -/
theorem latex?_of_mem_spanSegments {segments : List Segment} {s : Segment}
    (h : s ∈ spanSegments segments) : s.latex? = some s.placeholder.latex := by
  obtain ⟨kind, start, content⟩ := s
  have hkind := (List.mem_filter.mp h).2
  cases kind with
  | quoted => rfl
  | inline => rfl
  | plain => exact Bool.noConfusion hkind
  | block => exact Bool.noConfusion hkind

end Formulary.Markup
