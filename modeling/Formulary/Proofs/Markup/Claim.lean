import Formulary.Proofs.Markup.Additions

/-!
# Claims — identifiers found in a tree take their formulas back

Identifiers are claimed in the order in which they are found. The first that was claimed before, or
whose place is taken, stops the claims; one that the table never held changes nothing. So a run of
claims is settled by what was found alone.

* `claims`, `missing` — the formulas that are claimed, and what nobody claims.
* `Orderly`, `Offends` — findings that are all claimed, and the finding that stops the claims.
* `Claimed` — what holds after some claims: the invariant that one more claim keeps.
* `Claimed.step_new`, `Claimed.step_foreign`, `Claimed.step_offends` — one claim.
* `Claimed.run`, `claim_of_orderly`, `claim_of_offends` — the two ways a run of claims ends.
-/

namespace Formulary.Markup

/-- The formula that a table holds for an identifier found at a range. -/
def claim? (table : PlaceholderTable) (f : SourceRange × Uuid) : Option MathEntry :=
  (table.get? f.2).map fun p => ⟨f.1, p.latex, .inline⟩

/-- The formulas that a table holds for the identifiers found. -/
def claims (table : PlaceholderTable) (found : List (SourceRange × Uuid)) : List MathEntry :=
  found.filterMap (claim? table)

/-- The entries of a table whose identifiers were not found. -/
def missing (table : PlaceholderTable) (found : List (SourceRange × Uuid)) :
    List (Uuid × Placeholder) :=
  table.entries.entries.filter fun e => !(found.map Prod.snd).contains e.1

/-- No identifier of the table is found twice, and no two of them at one place. -/
structure Orderly (table : PlaceholderTable) (found : List (SourceRange × Uuid)) : Prop where
  once : ((found.map Prod.snd).filter table.contains).Nodup
  apart : ((claims table found).map MathEntry.range).Nodup

/-- An identifier of the table is found again, or found at a place that is taken. -/
def Offends (table : PlaceholderTable) (before : List (SourceRange × Uuid))
    (f : SourceRange × Uuid) : Prop :=
  table.contains f.2 = true ∧
    (f.2 ∈ before.map Prod.snd ∨ f.1 ∈ (claims table before).map MathEntry.range)

namespace PlaceholderTable

variable {table : PlaceholderTable} {id : Uuid}

theorem contains_iff : table.contains id = true ↔ ∃ p, table.get? id = some p :=
  Option.isSome_iff_exists

theorem contains_eq_false_iff : table.contains id = false ↔ table.get? id = none :=
  Option.isSome_eq_false_iff.trans Option.isNone_iff_eq_none

end PlaceholderTable

variable {origin : PlaceholderTable} {found before : List (SourceRange × Uuid)}
  {f : SourceRange × Uuid}

theorem orderly_nil : Orderly origin [] := ⟨List.nodup_nil, List.nodup_nil⟩

theorem claims_append (a b : List (SourceRange × Uuid)) :
    claims origin (a ++ b) = claims origin a ++ claims origin b := List.filterMap_append

/-- A finding with an identifier of the table claims its formula. -/
theorem claims_concat_of_get? {p : Placeholder} (h : origin.get? f.2 = some p) :
    claims origin (before ++ [f]) = claims origin before ++ [⟨f.1, p.latex, .inline⟩] := by
  have hf : claim? origin f = some ⟨f.1, p.latex, .inline⟩ := by rw [claim?, h]; rfl
  rw [claims_append]
  simp only [claims, List.filterMap_cons, hf, List.filterMap_nil]

/-- A finding with any other identifier claims nothing. -/
theorem claims_concat_of_foreign (h : origin.contains f.2 = false) :
    claims origin (before ++ [f]) = claims origin before := by
  have hf : claim? origin f = none := by
    rw [claim?, PlaceholderTable.contains_eq_false_iff.mp h]
    rfl
  rw [claims_append]
  simp only [claims, List.filterMap_cons, hf, List.filterMap_nil, List.append_nil]

/-- Findings stay orderly exactly as long as none offends. -/
theorem orderly_concat_iff :
    Orderly origin (before ++ [f]) ↔ Orderly origin before ∧ ¬ Offends origin before f := by
  by_cases hmem : origin.contains f.2 = true
  · obtain ⟨p, hp⟩ := PlaceholderTable.contains_iff.mp hmem
    have hids : ((before ++ [f]).map Prod.snd).filter origin.contains
        = (before.map Prod.snd).filter origin.contains ++ [f.2] := by
      rw [List.map_append, List.filter_append]
      simp [hmem]
    constructor
    · intro h
      have honce := h.once
      have hapart := h.apart
      rw [hids, nodup_concat_iff] at honce
      rw [claims_concat_of_get? hp, List.map_append, List.map_singleton, nodup_concat_iff] at hapart
      refine ⟨⟨honce.2, hapart.2⟩, ?_⟩
      rintro ⟨-, hagain | htaken⟩
      · exact honce.1 (List.mem_filter.mpr ⟨hagain, hmem⟩)
      · exact hapart.1 htaken
    · rintro ⟨h, hno⟩
      constructor
      · rw [hids]
        refine nodup_concat_iff.mpr ⟨?_, h.once⟩
        intro hagain
        exact hno ⟨hmem, Or.inl (List.mem_filter.mp hagain).1⟩
      · rw [claims_concat_of_get? hp, List.map_append]
        refine nodup_concat_iff.mpr ⟨?_, h.apart⟩
        intro htaken
        exact hno ⟨hmem, Or.inr htaken⟩
  · rw [Bool.not_eq_true] at hmem
    have hno : ¬ Offends origin before f := by
      rintro ⟨h, -⟩
      rw [hmem] at h
      exact Bool.noConfusion h
    have hids : ((before ++ [f]).map Prod.snd).filter origin.contains
        = (before.map Prod.snd).filter origin.contains := by
      rw [List.map_append, List.filter_append]
      simp [hmem]
    constructor
    · rintro ⟨honce, hapart⟩
      rw [hids] at honce
      rw [claims_concat_of_foreign hmem] at hapart
      exact ⟨⟨honce, hapart⟩, hno⟩
    · rintro ⟨h, -⟩
      exact ⟨by rw [hids]; exact h.once, by rw [claims_concat_of_foreign hmem]; exact h.apart⟩

/-- Findings are orderly, or there is a first that offends. -/
theorem orderly_or_offends (origin : PlaceholderTable) (found : List (SourceRange × Uuid)) :
    Orderly origin found ∨ ∃ before f after, found = before ++ f :: after ∧
      Orderly origin before ∧ Offends origin before f := by
  induction found using List.reverseRecOn with
  | nil => exact Or.inl orderly_nil
  | append_singleton before f ih =>
      rcases ih with horderly | ⟨b, g, after, rfl, horderly, hoffends⟩
      · by_cases hf : Offends origin before f
        · exact Or.inr ⟨before, f, [], rfl, horderly, hf⟩
        · exact Or.inl (orderly_concat_iff.mpr ⟨horderly, hf⟩)
      · exact Or.inr ⟨b, g, after ++ [f], by simp, horderly, hoffends⟩

/-- The first of orderly findings are orderly. -/
theorem orderly_of_append {after : List (SourceRange × Uuid)}
    (h : Orderly origin (before ++ after)) : Orderly origin before := by
  constructor
  · have honce := h.once
    rw [List.map_append, List.filter_append] at honce
    exact (List.nodup_append.mp honce).1
  · have hapart := h.apart
    rw [claims_append, List.map_append] at hapart
    exact (List.nodup_append.mp hapart).1

/-! ## One claim -/

/-- After some identifiers were claimed: what is left of the table, which identifiers are consumed,
    and the formulas that the extraction holds. -/
structure Claimed (origin : PlaceholderTable) (done : List (SourceRange × Uuid))
    (table : PlaceholderTable) (consumed : List Uuid) (e : Extraction) : Prop where
  left : table.entries.entries = missing origin done
  consumed_iff : ∀ id, id ∈ consumed ↔ origin.contains id = true ∧ id ∈ done.map Prod.snd
  holds : e.Holds (claims origin done) []

variable {done : List (SourceRange × Uuid)} {table : PlaceholderTable} {consumed : List Uuid}
  {e : Extraction}

theorem claimed_nil (origin : PlaceholderTable) : Claimed origin [] origin [] {} where
  left := by
    refine (List.filter_eq_self.mpr ?_).symm
    intro e _
    rfl
  consumed_iff id := by simp
  holds := Extraction.holds_empty

/-- An identifier reads as before until it is claimed, and as nothing afterwards. -/
theorem Claimed.get?_eq (h : Claimed origin done table consumed e) (id : Uuid) :
    table.get? id = if id ∈ done.map Prod.snd then none else origin.get? id := by
  have hget : table.get? id = (missing origin done).lookup id := by
    rw [← h.left]
    rfl
  rw [hget, missing, lookup_filter (fun id => !(done.map Prod.snd).contains id)]
  by_cases hid : id ∈ done.map Prod.snd
  · simp [hid]
  · simp only [hid]
    simp [hid, PlaceholderTable.get?, Table.get?]

/-- One more finding takes its identifier off what is missing. -/
theorem missing_concat (done : List (SourceRange × Uuid)) (f : SourceRange × Uuid) :
    missing origin (done ++ [f]) = (missing origin done).filter fun e => e.1 != f.2 := by
  rw [missing, missing, List.filter_filter]
  refine List.filter_congr ?_
  intro e _
  rw [List.map_append, List.map_singleton, Bool.eq_iff_iff]
  simp [and_comm]

/-- An identifier that the table never held takes nothing off. -/
theorem missing_concat_of_foreign (h : origin.contains f.2 = false) :
    missing origin (done ++ [f]) = missing origin done := by
  rw [missing_concat]
  refine List.filter_eq_self.mpr ?_
  intro e he
  -- what is missing is in the table, and the new identifier is not
  have hne : e.1 ≠ f.2 := by
    intro heq
    have hget : origin.get? e.1 = some e.2 :=
      origin.entries.get?_eq_some_iff.mpr (List.mem_filter.mp he).1
    rw [heq, PlaceholderTable.contains_eq_false_iff.mp h] at hget
    cases hget
  simpa using hne

/-- Claims take the ranges of their formulas, and no other places. -/
theorem mem_places_claims {r : SourceRange} :
    r ∈ Extraction.places (claims origin done) [] ↔ r ∈ (claims origin done).map MathEntry.range := by
  simp [Extraction.places]

/-- A claim of an identifier of the table that was not claimed before, at a place of its own. -/
theorem Claimed.step_new (h : Claimed origin done table consumed e) {p : Placeholder}
    (hget : origin.get? f.2 = some p) (hno : ¬ Offends origin done f) :
    ∃ table' consumed' e', Claimed origin (done ++ [f]) table' consumed' e' ∧
      ∀ rest, claim table consumed e (f :: rest) = claim table' consumed' e' rest := by
  have hmem : origin.contains f.2 = true := PlaceholderTable.contains_iff.mpr ⟨p, hget⟩
  have hnew : f.2 ∉ done.map Prod.snd := fun hagain => hno ⟨hmem, Or.inl hagain⟩
  have hplace : f.1 ∉ Extraction.places (claims origin done) [] := by
    rw [mem_places_claims]
    exact fun htaken => hno ⟨hmem, Or.inr htaken⟩
  have htake : table.get? f.2 = some p := by rw [h.get?_eq, if_neg hnew, hget]
  obtain ⟨e', hadd, hholds⟩ :=
    Extraction.addMath_of_fresh h.holds (m := ⟨f.1, p.latex, .inline⟩) hplace
  refine ⟨(table.take f.2).2, f.2 :: consumed, e', ?_, ?_⟩
  · constructor
    · rw [missing_concat, ← h.left]
      rfl
    · intro id
      rw [List.mem_cons, h.consumed_iff, List.map_append, List.map_singleton, List.mem_append,
        List.mem_singleton]
      constructor
      · rintro (rfl | ⟨hid, hdone⟩)
        · exact ⟨hmem, Or.inr rfl⟩
        · exact ⟨hid, Or.inl hdone⟩
      · rintro ⟨hid, hdone | heq⟩
        · exact Or.inr ⟨hid, hdone⟩
        · exact Or.inl heq
    · rw [claims_concat_of_get? hget]
      exact hholds
  · intro rest
    rw [claim, PlaceholderTable.take, htake]
    simp only [hadd]

/-- An identifier that the table never held is passed over. -/
theorem Claimed.step_foreign (h : Claimed origin done table consumed e)
    (hforeign : origin.contains f.2 = false) :
    Claimed origin (done ++ [f]) table consumed e ∧
      ∀ rest, claim table consumed e (f :: rest) = claim table consumed e rest := by
  have hnone := PlaceholderTable.contains_eq_false_iff.mp hforeign
  have hconsumed : consumed.contains f.2 = false := by
    rw [← Bool.not_eq_true, List.contains_iff_mem]
    intro hmem
    have := ((h.consumed_iff f.2).mp hmem).1
    rw [hforeign] at this
    exact Bool.noConfusion this
  constructor
  · constructor
    · rw [missing_concat_of_foreign hforeign, h.left]
    · intro id
      rw [h.consumed_iff, List.map_append, List.map_singleton, List.mem_append,
        List.mem_singleton]
      constructor
      · rintro ⟨hid, hdone⟩
        exact ⟨hid, Or.inl hdone⟩
      · rintro ⟨hid, hdone | rfl⟩
        · exact ⟨hid, hdone⟩
        · rw [hforeign] at hid
          exact Bool.noConfusion hid
    · rw [claims_concat_of_foreign hforeign]
      exact h.holds
  · intro rest
    have htake : table.get? f.2 = none := by
      rw [h.get?_eq, hnone]
      exact ite_self none
    rw [claim, PlaceholderTable.take, htake]
    simp only [hconsumed, Bool.false_eq_true, if_false]

/-- The error that a finding stops the claims with. -/
def offence (before : List (SourceRange × Uuid)) (f : SourceRange × Uuid) : ConsistencyError :=
  if f.2 ∈ before.map Prod.snd then .duplicated f.2 else .locationCollision f.1

/-- A finding that offends stops the claims. -/
theorem Claimed.step_offends (h : Claimed origin done table consumed e)
    (hoffends : Offends origin done f) (rest : List (SourceRange × Uuid)) :
    claim table consumed e (f :: rest) = .error (offence done f) := by
  obtain ⟨hmem, hwhy⟩ := hoffends
  rw [claim, PlaceholderTable.take, h.get?_eq, offence]
  by_cases hagain : f.2 ∈ done.map Prod.snd
  · have hconsumed : consumed.contains f.2 = true :=
      List.contains_iff_mem.mpr ((h.consumed_iff f.2).mpr ⟨hmem, hagain⟩)
    rw [if_pos hagain, if_pos hagain]
    simp only [hconsumed, if_true]
  · obtain ⟨p, hget⟩ := PlaceholderTable.contains_iff.mp hmem
    have htaken : f.1 ∈ Extraction.places (claims origin done) [] :=
      mem_places_claims.mpr (hwhy.resolve_left hagain)
    have hadd : e.addMath ⟨f.1, p.latex, .inline⟩ = .error (.locationCollision f.1) :=
      Extraction.addMath_of_taken h.holds htaken
    rw [if_neg hagain, if_neg hagain, hget]
    simp only [hadd]

/-! ## Runs of claims -/

/-- Orderly findings are claimed one after the other. The induction is on the findings still to
    come; `done` are those claimed before. -/
theorem Claimed.run (h : Claimed origin done table consumed e) (found : List (SourceRange × Uuid))
    (horderly : Orderly origin (done ++ found)) :
    ∃ table' consumed' e', Claimed origin (done ++ found) table' consumed' e' ∧
      ∀ rest, claim table consumed e (found ++ rest) = claim table' consumed' e' rest := by
  induction found generalizing done table consumed e with
  | nil => exact ⟨table, consumed, e, by simpa using h, fun rest => rfl⟩
  | cons f tail ih =>
      have hshift : done ++ f :: tail = (done ++ [f]) ++ tail := by simp
      rw [hshift] at horderly ⊢
      -- an identifier of the table takes its formula back, any other is passed over
      have hstep : ∃ table' consumed' e', Claimed origin (done ++ [f]) table' consumed' e' ∧
          ∀ rest, claim table consumed e (f :: rest) = claim table' consumed' e' rest := by
        by_cases hmem : origin.contains f.2 = true
        · obtain ⟨p, hget⟩ := PlaceholderTable.contains_iff.mp hmem
          exact h.step_new hget (orderly_concat_iff.mp (orderly_of_append horderly)).2
        · obtain ⟨hclaimed, hrest⟩ := h.step_foreign (Bool.not_eq_true _ ▸ hmem)
          exact ⟨table, consumed, e, hclaimed, hrest⟩
      obtain ⟨table', consumed', e', hclaimed, hfirst⟩ := hstep
      obtain ⟨table'', consumed'', e'', hdone, hrest⟩ := ih hclaimed horderly
      refine ⟨table'', consumed'', e'', hdone, ?_⟩
      intro rest
      rw [List.cons_append, hfirst, hrest]

/-- Orderly findings are all claimed, and the table keeps what was not found. -/
theorem claim_of_orderly (h : Orderly origin found) :
    ∃ left e, claim origin [] {} found = .ok (left, e) ∧
      left.entries.entries = missing origin found ∧ e.Holds (claims origin found) [] := by
  obtain ⟨left, consumed, e, hclaimed, hrun⟩ := (claimed_nil origin).run found h
  refine ⟨left, e, ?_, hclaimed.left, hclaimed.holds⟩
  have := hrun []
  rwa [List.append_nil] at this

/-- The first finding that offends stops the claims. -/
theorem claim_of_offends (h : Orderly origin before) (hoffends : Offends origin before f)
    (after : List (SourceRange × Uuid)) :
    claim origin [] {} (before ++ f :: after) = .error (offence before f) := by
  obtain ⟨left, consumed, e, hclaimed, hrun⟩ := (claimed_nil origin).run before h
  rw [hrun]
  exact hclaimed.step_offends hoffends after

end Formulary.Markup
