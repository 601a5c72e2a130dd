import Formulary.Proofs.Render.Holding

/-!
# Outcomes — the last outcome at a place decides

What a registry knows of the places of a document is said by the events of the document: the ranges that
it was registered with last, and the outcomes recorded since. A place has an error when the last outcome
under its key was one.

* `Stands`, `lastOutcome` — the ranges and the outcomes since, and the last outcome under a key.
* `slotOf_stands`, `get?_tableOf` — the slot and the errors of a document that stands registered.
* `outcomes_spec` — errors, what is recorded, the list of errors, and what a call leaves alone.
-/

namespace Formulary.Render
namespace Holding

/-- An outcome with the key that it is recorded under. -/
abbrev KeyedOutcome := String × Option JobError

/-- A document was registered with some ranges, and after that there were only outcomes. -/
def Stands (events : List RegistryEvent) (ranges : List SourceRange) (since : List KeyedOutcome) : Prop :=
  ∃ before, events
    = before ++ .registered ranges :: since.map fun outcome => .recorded outcome.1 outcome.2

/-- The last outcome under a key. -/
def lastOutcome (location : String) (outcomes : List KeyedOutcome) : Option (Option JobError) :=
  (outcomes.filter fun outcome => outcome.1 = location).getLast?.map Prod.snd

/-- The errors of a document with some ranges after some outcomes. -/
def tableOf (ranges : List SourceRange) (outcomes : List KeyedOutcome) : RangeMap JobError :=
  outcomes.foldl (fun errors outcome =>
    ((LocationIndex.ofRanges ranges).lookup outcome.1).elim errors fun range =>
      Registry.errorsAfter errors range outcome.2) RangeMap.empty

variable {events : List RegistryEvent} {ranges : List SourceRange} {since : List KeyedOutcome}
  {calls : List RegistryCall} {d : DocumentId}

theorem lastOutcome_concat (location : String) (outcomes : List KeyedOutcome) (last : KeyedOutcome) :
    lastOutcome location (outcomes ++ [last])
      = if last.1 = location then some last.2 else lastOutcome location outcomes := by
  rw [lastOutcome, List.filter_append]
  by_cases hlast : last.1 = location
  · simp [hlast]
  · simp [hlast, lastOutcome]

/-- A place has an error when the last outcome under its key was this error. -/
theorem get?_tableOf (ranges : List SourceRange) (outcomes : List KeyedOutcome) (r : SourceRange)
    (e : JobError) :
    (tableOf ranges outcomes).get? r = some e
      ↔ r ∈ ranges ∧ lastOutcome r.key outcomes = some (some e) := by
  induction outcomes using List.reverseRecOn with
  | nil => simp [tableOf, lastOutcome]
  | append_singleton earlier last ih =>
      obtain ⟨location, outcome⟩ := last
      have hstep : tableOf ranges (earlier ++ [(location, outcome)])
          = ((LocationIndex.ofRanges ranges).lookup location).elim (tableOf ranges earlier) fun range =>
              Registry.errorsAfter (tableOf ranges earlier) range outcome := List.foldl_append
      rw [hstep, lastOutcome_concat]
      cases hlookup : (LocationIndex.ofRanges ranges).lookup location with
      | none =>
          -- the key stands for no range, so it is not that of the place
          rw [Option.elim_none, ih]
          refine and_congr_right fun hr => ?_
          have hne : location ≠ r.key := by
            rintro rfl
            have hsome := (LocationIndex.lookup_ofRanges ranges r.key r).mpr ⟨rfl, hr⟩
            rw [hlookup] at hsome
            cases hsome
          rw [if_neg hne]
      | some range =>
          obtain ⟨rfl, hrange⟩ := (LocationIndex.lookup_ofRanges ranges location range).mp hlookup
          rw [Option.elim_some, Registry.get?_errorsAfter]
          by_cases hr : r = range
          · subst hr
            simp [hrange]
          · have hne : range.key ≠ r.key := fun hkey => hr (SourceRange.key_injective hkey).symm
            rw [if_neg hr, if_neg hne, ih]

/-! ## Documents that stand registered -/

/-- The slot of a document that stands registered. -/
theorem slotOf_stands (h : Stands events ranges since) :
    slotOf events = some { index := .ofRanges ranges, errors := tableOf ranges since } := by
  obtain ⟨before, rfl⟩ := h
  rw [slotOf, List.foldl_append, List.foldl_cons, slotAfter, List.foldl_map]
  -- the outcomes are recorded one after the other in a slot whose index does not change
  induction since using List.reverseRecOn with
  | nil => rfl
  | append_singleton earlier last ih =>
      rw [List.foldl_append, ih]
      simp only [List.foldl_cons, List.foldl_nil, slotAfter, Option.map_some, tableOf,
        List.foldl_append]

/-- A document that has a slot stands registered. -/
theorem exists_stands (h : slotOf events ≠ none) : ∃ ranges since, Stands events ranges since := by
  induction events using List.reverseRecOn with
  | nil => exact absurd rfl h
  | append_singleton earlier event ih =>
      rw [slotOf_concat] at h
      cases event with
      | registered ranges => exact ⟨ranges, [], earlier, rfl⟩
      | released => exact absurd rfl h
      | recorded location error =>
          obtain ⟨ranges, since, before, rfl⟩ :=
            ih fun hnone => h (Option.map_eq_none_iff.mpr hnone)
          exact ⟨ranges, since ++ [(location, error)], before, by simp⟩

/-- The slots of a registry after some calls. -/
theorem slot?_eq_some_iff {slot : DocumentSlot} :
    (after calls).registry.slot? d = some slot ↔ ∃ ranges since,
      Stands (eventsOf d calls) ranges since ∧
      slot = { index := .ofRanges ranges, errors := tableOf ranges since } := by
  rw [slot?_after]
  constructor
  · intro h
    obtain ⟨ranges, since, hstands⟩ := exists_stands (h ▸ Option.some_ne_none slot)
    rw [slotOf_stands hstands] at h
    exact ⟨ranges, since, hstands, (Option.some.inj h).symm⟩
  · rintro ⟨ranges, since, hstands, rfl⟩
    exact slotOf_stands hstands

theorem error_eq_some_iff {r : SourceRange} {e : JobError} :
    (after calls).registry.error d r = some e ↔ ∃ ranges since,
      Stands (eventsOf d calls) ranges since ∧ r ∈ ranges ∧
      lastOutcome r.key since = some (some e) := by
  rw [Registry.error, Option.bind_eq_some_iff]
  constructor
  · rintro ⟨slot, hslot, herror⟩
    obtain ⟨ranges, since, hstands, rfl⟩ := slot?_eq_some_iff.mp hslot
    exact ⟨ranges, since, hstands, (get?_tableOf _ _ _ _).mp herror⟩
  · rintro ⟨ranges, since, hstands, herror⟩
    exact ⟨_, slot?_eq_some_iff.mpr ⟨ranges, since, hstands, rfl⟩, (get?_tableOf _ _ _ _).mpr herror⟩

/-- An outcome is kept when its key is that of a range of a document that stands registered. -/
theorem fst_record_iff {location : String} {error : Option JobError} :
    ((after calls).registry.record d location error).1 = true ↔ ∃ ranges since,
      Stands (eventsOf d calls) ranges since ∧ ∃ r ∈ ranges, location = r.key := by
  rw [Registry.fst_record, Option.isSome_iff_exists]
  constructor
  · rintro ⟨r, hr⟩
    obtain ⟨slot, hslot, hlookup⟩ := Option.bind_eq_some_iff.mp hr
    obtain ⟨ranges, since, hstands, rfl⟩ := slot?_eq_some_iff.mp hslot
    obtain ⟨hkey, hmem⟩ := (LocationIndex.lookup_ofRanges _ _ _).mp hlookup
    exact ⟨ranges, since, hstands, r, hmem, hkey⟩
  · rintro ⟨ranges, since, hstands, r, hmem, hkey⟩
    refine ⟨r, Option.bind_eq_some_iff.mpr ⟨_, slot?_eq_some_iff.mpr ⟨ranges, since, hstands, rfl⟩, ?_⟩⟩
    exact (LocationIndex.lookup_ofRanges _ _ _).mpr ⟨hkey, hmem⟩

/-- An outcome under another key leaves a place alone. -/
theorem error_record_of_ne {location : String} {r : SourceRange} (h : location ≠ r.key)
    (error : Option JobError) :
    ((after calls).registry.record d location error).2.error d r
      = (after calls).registry.error d r := by
  cases hslot : (after calls).registry.slot? d with
  | none => rw [Registry.record_of_slot?_eq_none hslot]
  | some slot =>
      refine Registry.error_record_ne hslot fun hlookup => h ?_
      obtain ⟨ranges, since, -, rfl⟩ := slot?_eq_some_iff.mp hslot
      exact ((LocationIndex.lookup_ofRanges _ _ _).mp hlookup).1

/-- The errors of a document are listed in range order. -/
theorem errors_spec (registry : Registry) (d : DocumentId) :
    (registry.errors d).Pairwise (fun a b => a.1.lt b.1 = true) ∧
      ∀ r e, (r, e) ∈ registry.errors d ↔ registry.error d r = some e := by
  rw [Registry.errors]
  cases hslot : registry.slot? d with
  | none => simp [Registry.error, hslot]
  | some slot =>
      refine ⟨slot.errors.ordered, fun r e => ?_⟩
      rw [← RangeMap.get?_eq_some_iff, Registry.error, hslot, Option.bind_some]

/-- **The last outcome at a place decides**, after any calls on a registry that was empty. A place has an
    error exactly when its document stands registered with its range and the last outcome under its key
    since was this error. An outcome is kept exactly when its key is that of a range of a document that
    stands registered, and changes nothing otherwise. The errors of a document are listed in strict range
    order. A call leaves the slots of other documents alone, and an outcome leaves the places alone that
    have another key. -/
theorem outcomes_spec (calls : List RegistryCall) :
    let s := after calls
    (∀ d, s.registry.isRegistered d = true ↔ ∃ ranges since, Stands (eventsOf d calls) ranges since) ∧
    (∀ d r e, s.registry.error d r = some e ↔ ∃ ranges since,
      Stands (eventsOf d calls) ranges since ∧ r ∈ ranges ∧ lastOutcome r.key since = some (some e)) ∧
    (∀ d location error,
      ((s.registry.record d location error).1 = true ↔ ∃ ranges since,
        Stands (eventsOf d calls) ranges since ∧ ∃ r ∈ ranges, location = r.key) ∧
      ((s.registry.record d location error).1 = false →
        (s.registry.record d location error).2 = s.registry)) ∧
    (∀ d, (s.registry.errors d).Pairwise (fun a b => a.1.lt b.1 = true) ∧
      ∀ r e, (r, e) ∈ s.registry.errors d ↔ s.registry.error d r = some e) ∧
    (∀ d c, s.subject? c ≠ some d → (s.call c).registry.slot? d = s.registry.slot? d) ∧
    ∀ d location error (r : SourceRange), location ≠ r.key →
      (s.registry.record d location error).2.error d r = s.registry.error d r := by
  intro s
  refine ⟨?_, fun _ _ _ => error_eq_some_iff, ?_, errors_spec s.registry, ?_, ?_⟩
  · intro d
    rw [isRegistered_iff, Option.ne_none_iff_exists']
    constructor
    · rintro ⟨slot, hslot⟩
      obtain ⟨ranges, since, hstands, -⟩ := slot?_eq_some_iff.mp hslot
      exact ⟨ranges, since, hstands⟩
    · rintro ⟨ranges, since, hstands⟩
      exact ⟨_, slot?_eq_some_iff.mpr ⟨ranges, since, hstands, rfl⟩⟩
  · exact fun _ _ _ => ⟨fst_record_iff, Registry.record_of_dropped⟩
  · exact fun _ _ => slot?_call_ne
  · exact fun _ _ error _ hne => error_record_of_ne hne error

/-- A place of two documents. -/
def firstPlace : SourceRange := ⟨⟨1, 1⟩, ⟨1, 5⟩⟩

/-- A place of one document. -/
def secondPlace : SourceRange := ⟨⟨2, 1⟩, ⟨2, 9⟩⟩

/-- Outcomes for two documents: one place succeeds after it failed, another one fails, and a key stands
    for no place. -/
def twoDocuments : List RegistryCall :=
  [.register ⟨0⟩ [secondPlace, firstPlace], .record ⟨0⟩ "1:1-1:5" (some (.decode "bad")),
    .register ⟨1⟩ [firstPlace], .record ⟨0⟩ "2:1-2:9" (some (.render "boom")),
    .record ⟨0⟩ "1:1-1:5" none, .record ⟨0⟩ "9:9-9:9" (some (.decode "bad"))]

/-- The second place keeps its error, which no outcome under another key takes away; an outcome under a key
    of no place is dropped, and dropping one document does not touch the other. -/
theorem outcomes_spec_two_documents :
    let s := after twoDocuments
    s.registry.error ⟨0⟩ secondPlace = some (.render "boom") ∧
    s.registry.error ⟨0⟩ firstPlace = none ∧
    ("1:1-1:5" ≠ secondPlace.key ∧
      (s.registry.record ⟨0⟩ "1:1-1:5" none).2.error ⟨0⟩ secondPlace = some (.render "boom")) ∧
    ((s.registry.record ⟨0⟩ "9:9-9:9" none).1 = false ∧
      (s.registry.record ⟨0⟩ "9:9-9:9" none).2 = s.registry) ∧
    (s.subject? (.drop 0) ≠ some ⟨1⟩ ∧
      (s.call (.drop 0)).registry.slot? ⟨1⟩ = s.registry.slot? ⟨1⟩) := by
  intro s
  obtain ⟨-, herror, hrecord, -, hothers, hplaces⟩ := outcomes_spec twoDocuments
  have hsecond : s.registry.error ⟨0⟩ secondPlace = some (.render "boom") :=
    (herror _ _ _).mpr ⟨[secondPlace, firstPlace],
      [("1:1-1:5", some (.decode "bad")), ("2:1-2:9", some (.render "boom")), ("1:1-1:5", none),
        ("9:9-9:9", some (.decode "bad"))],
      ⟨[], rfl⟩, List.mem_cons_self, by decide +kernel⟩
  have hkey : "1:1-1:5" ≠ secondPlace.key := by decide +kernel
  have hdropped : (s.registry.record ⟨0⟩ "9:9-9:9" none).1 = false := by decide +kernel
  have hsubject : s.subject? (.drop 0) ≠ some ⟨1⟩ := by decide +kernel
  exact ⟨hsecond, by decide +kernel, ⟨hkey, (hplaces _ _ none _ hkey).trans hsecond⟩,
    ⟨hdropped, (hrecord _ _ _).2 hdropped⟩, hsubject, hothers _ _ hsubject⟩

end Holding
end Formulary.Render
