import Formulary.Proofs.Location.Key
import Formulary.Proofs.Render.Registry

/-!
# Holdings — a registry and the registrations of it that are held

Whoever registers a document holds a registration, and gives the slot up by dropping it. A slot is given
up by the number of its document alone. So what is held of a document and what is registered of it go
apart when a document is registered again while a registration of it is held, and one of the two is
dropped.

* `RegistryCall`, `Holding`, `Holding.after` — any calls on a registry, with the registrations held.
* `Holding.eventsOf` — what calls mean for one document, in order.
* `slot?_after` — the slot of a document depends on its own events only.
* `Displaced`, `slotOf_eq_none_iff` — a document has no slot when none was made or the last one was given up.
* `Holding.Tended` — what holds of registrations and slots after any calls.
* `registered_spec` — which documents are registered, and how many.
-/

namespace Formulary.Render

/-- A call on a registry. Registrations go by their numbers in the order in which they are made. -/
inductive RegistryCall where
  | register (document : DocumentId) (ranges : List SourceRange)
  | record (document : DocumentId) (location : String) (error : Option JobError)
  /-- The registration of a number is dropped. -/
  | drop (number : Nat)

/-- What a call means for the document that it is about. -/
inductive RegistryEvent where
  | registered (ranges : List SourceRange)
  | recorded (location : String) (error : Option JobError)
  | released

/-- The event of a call. -/
def RegistryCall.event : RegistryCall → RegistryEvent
  | register _ ranges => .registered ranges
  | record _ location error => .recorded location error
  | drop _ => .released

/-- A registry, the registrations that are held, and how many were made. -/
structure Holding where
  registry : Registry := .empty
  held : Table Nat Registration := .empty
  made : Nat := 0

namespace Holding

/-- What a call does. Only a registration that is held can be dropped. -/
def call (s : Holding) : RegistryCall → Holding
  | .register d ranges =>
    let (registration, registry) := s.registry.register d (.ofRanges ranges)
    ⟨registry, s.held.set s.made registration, s.made + 1⟩
  | .record d location error => { s with registry := (s.registry.record d location error).2 }
  | .drop number =>
    match s.held.get? number with
    | some registration => { s with
        registry := s.registry.release registration
        held := s.held.erase number }
    | none => s

/-- A registry that was empty, after some calls. -/
def after (calls : List RegistryCall) : Holding := calls.foldl call {}

/-- The document that a call is about, unless the call does nothing. -/
def subject? (s : Holding) : RegistryCall → Option DocumentId
  | .register d _ => some d
  | .record d _ _ => some d
  | .drop number => (s.held.get? number).map Registration.document

/-- What some calls mean for a document, in order. -/
def eventsFrom (d : DocumentId) (s : Holding) : List RegistryCall → List RegistryEvent
  | [] => []
  | c :: rest =>
    if s.subject? c = some d then c.event :: (s.call c).eventsFrom d rest
    else (s.call c).eventsFrom d rest

/-- What calls on a registry that was empty mean for a document. -/
def eventsOf (d : DocumentId) (calls : List RegistryCall) : List RegistryEvent :=
  eventsFrom d {} calls

/-- Some registration of a document is held. -/
def Holds (s : Holding) (d : DocumentId) : Prop := ∃ number, s.held.get? number = some ⟨d⟩

variable {s : Holding} {d : DocumentId} {c : RegistryCall} {calls : List RegistryCall}

theorem after_concat (calls : List RegistryCall) (c : RegistryCall) :
    after (calls ++ [c]) = (after calls).call c := List.foldl_append

/-- One more call is an event of the document that it is about. -/
theorem eventsFrom_concat (d : DocumentId) (s : Holding) (calls : List RegistryCall)
    (c : RegistryCall) :
    s.eventsFrom d (calls ++ [c])
      = s.eventsFrom d calls
        ++ if (calls.foldl call s).subject? c = some d then [c.event] else [] := by
  induction calls generalizing s with
  | nil => rfl
  | cons first rest ih =>
      rw [List.cons_append, eventsFrom, eventsFrom, ih]
      by_cases hfirst : s.subject? first = some d
      · rw [if_pos hfirst, if_pos hfirst]
        rfl
      · rw [if_neg hfirst, if_neg hfirst]
        rfl

/-- A call adds its event to those of its document. -/
theorem eventsOf_concat_self (h : (after calls).subject? c = some d) :
    eventsOf d (calls ++ [c]) = eventsOf d calls ++ [c.event] :=
  (eventsFrom_concat d {} calls c).trans (congrArg _ (if_pos h))

/-- A call about another document is no event. -/
theorem eventsOf_concat_ne (h : (after calls).subject? c ≠ some d) :
    eventsOf d (calls ++ [c]) = eventsOf d calls :=
  ((eventsFrom_concat d {} calls c).trans (congrArg _ (if_neg h))).trans (List.append_nil _)

/-! ## Slots by events -/

/-- What an event leaves of a slot. -/
def slotAfter (slot? : Option DocumentSlot) : RegistryEvent → Option DocumentSlot
  | .registered ranges => some { index := .ofRanges ranges }
  | .recorded location error => slot?.map fun slot =>
    { slot with errors := (slot.index.lookup location).elim slot.errors fun range =>
        Registry.errorsAfter slot.errors range error }
  | .released => none

/-- The slot that some events leave. -/
def slotOf (events : List RegistryEvent) : Option DocumentSlot := events.foldl slotAfter none

/-- One more event changes the slot as that event does. -/
theorem slotOf_concat (events : List RegistryEvent) (event : RegistryEvent) :
    slotOf (events ++ [event]) = slotAfter (slotOf events) event := List.foldl_append

/-- A call leaves of the slot of its document what its event says. -/
theorem slot?_call_self (h : s.subject? c = some d) :
    (s.call c).registry.slot? d = slotAfter (s.registry.slot? d) c.event := by
  cases c with
  | register other ranges =>
      cases h
      exact (Registry.slot?_register _ _ _ _).trans (if_pos rfl)
  | record other location error =>
      cases h
      show (s.registry.record d location error).2.slot? d = _
      cases hslot : s.registry.slot? d with
      | none =>
          rw [Registry.record_of_slot?_eq_none hslot]
          exact hslot
      | some slot =>
          cases hlookup : slot.index.lookup location with
          | none =>
              rw [Registry.record_of_lookup_eq_none hslot hlookup]
              simp [RegistryCall.event, slotAfter, hslot, hlookup]
          | some range =>
              rw [Registry.record_of_lookup hslot hlookup]
              simp only [RegistryCall.event, slotAfter, Option.map_some, hlookup, Option.elim_some]
              exact Table.get?_set_self _ _ _
  | drop number =>
      obtain ⟨registration, hheld, rfl⟩ := Option.map_eq_some_iff.mp h
      rw [call, hheld]
      exact (Registry.slot?_release _ _ _).trans (if_pos rfl)

/-- A call leaves the slots of other documents alone. -/
theorem slot?_call_ne (h : s.subject? c ≠ some d) :
    (s.call c).registry.slot? d = s.registry.slot? d := by
  cases c with
  | register other ranges =>
      exact (Registry.slot?_register _ _ _ _).trans (if_neg fun heq => h (congrArg some heq.symm))
  | record other location error =>
      exact Registry.slot?_record_ne fun heq => h (congrArg some heq.symm)
  | drop number =>
      rw [call]
      cases hheld : s.held.get? number with
      | none => rfl
      | some registration =>
          refine (Registry.slot?_release _ _ _).trans (if_neg fun heq => h ?_)
          rw [subject?, hheld, heq]
          rfl

/-- The slot of a document is what its events leave: calls that are about others do not matter. -/
theorem slot?_after (calls : List RegistryCall) (d : DocumentId) :
    (after calls).registry.slot? d = slotOf (eventsOf d calls) := by
  induction calls using List.reverseRecOn with
  | nil => rfl
  | append_singleton earlier c ih =>
      rw [after_concat]
      by_cases hsubject : (after earlier).subject? c = some d
      · rw [slot?_call_self hsubject, eventsOf_concat_self hsubject, slotOf_concat, ih]
      · rw [slot?_call_ne hsubject, eventsOf_concat_ne hsubject, ih]

/-! ## Documents without a slot -/

/-- The slot was given up, and none was made since. -/
def Displaced (events : List RegistryEvent) : Prop :=
  ∃ before since, events = before ++ .released :: since ∧ ∀ ranges, .registered ranges ∉ since

/-- A slot that was given up stays so through every event but a registration. -/
theorem Displaced.concat {events : List RegistryEvent} (h : Displaced events) {event : RegistryEvent}
    (hevent : ∀ ranges, event ≠ .registered ranges) : Displaced (events ++ [event]) := by
  obtain ⟨before, since, rfl, hsince⟩ := h
  refine ⟨before, since ++ [event], by simp, fun ranges hmem => ?_⟩
  rcases List.mem_append.mp hmem with hmem | hmem
  · exact hsince ranges hmem
  · exact hevent ranges (List.mem_singleton.mp hmem).symm

/-- Events that make no slot leave none where there was none. -/
theorem foldl_slotAfter_none {events : List RegistryEvent}
    (h : ∀ ranges, .registered ranges ∉ events) : events.foldl slotAfter none = none := by
  induction events with
  | nil => rfl
  | cons event rest ih =>
      have hnone : slotAfter none event = none := by
        cases event with
        | registered ranges => exact absurd List.mem_cons_self (h ranges)
        | recorded location error => rfl
        | released => rfl
      rw [List.foldl_cons, hnone]
      exact ih fun ranges hmem => h ranges (List.mem_cons_of_mem _ hmem)

/-- A document has no slot exactly when none was made for it, or it was given up since. -/
theorem slotOf_eq_none_iff (events : List RegistryEvent) :
    slotOf events = none ↔ (∀ ranges, .registered ranges ∉ events) ∨ Displaced events := by
  constructor
  · intro h
    induction events using List.reverseRecOn with
    | nil => exact Or.inl fun _ => List.not_mem_nil
    | append_singleton earlier event ih =>
        rw [slotOf_concat] at h
        cases event with
        | registered ranges => cases h
        | released => exact Or.inr ⟨earlier, [], rfl, fun _ => List.not_mem_nil⟩
        | recorded location error =>
            rcases ih (Option.map_eq_none_iff.mp h) with hnever | hdisplaced
            · refine Or.inl fun ranges hmem => ?_
              rcases List.mem_append.mp hmem with hmem | hmem
              · exact hnever ranges hmem
              · cases List.mem_singleton.mp hmem
            · exact Or.inr (hdisplaced.concat fun ranges heq => by cases heq)
  · rintro (hnever | ⟨before, since, rfl, hsince⟩)
    · exact foldl_slotAfter_none hnever
    · rw [slotOf, List.foldl_append, List.foldl_cons]
      exact foldl_slotAfter_none hsince

/-! ## Registrations that are held -/

/-- A new registration is held under the next number. -/
theorem held_register (s : Holding) (d : DocumentId) (ranges : List SourceRange) (number : Nat) :
    (s.call (.register d ranges)).held.get? number
      = if number = s.made then some ⟨d⟩ else s.held.get? number :=
  Table.get?_set _ _ _ _

/-- What is dropped is held no longer, and all else is as before. -/
theorem held_drop (s : Holding) (number other : Nat) :
    (s.call (.drop number)).held.get? other
      = if other = number then none else s.held.get? other := by
  rw [call]
  cases hheld : s.held.get? number with
  | some registration => exact Table.get?_erase _ _ _
  | none =>
      by_cases hother : other = number
      · rw [if_pos hother, hother]
        exact hheld
      · rw [if_neg hother]

/-- A registration that is held after a call was held before, or the call made it. -/
theorem held_call {number : Nat} {registration : Registration}
    (h : (s.call c).held.get? number = some registration) :
    s.held.get? number = some registration ∨
      number = s.made ∧ ∃ ranges, c = .register registration.document ranges := by
  cases c with
  | register other ranges =>
      rw [held_register] at h
      by_cases hnumber : number = s.made
      · rw [if_pos hnumber] at h
        cases h
        exact Or.inr ⟨hnumber, ranges, rfl⟩
      · rw [if_neg hnumber] at h
        exact Or.inl h
  | record other location error => exact Or.inl h
  | drop dropped =>
      rw [held_drop] at h
      by_cases hnumber : number = dropped
      · rw [if_pos hnumber] at h
        cases h
      · rw [if_neg hnumber] at h
        exact Or.inl h

/-- A call leaves the registrations of other documents alone. -/
theorem held_call_ne (hnumbered : ∀ number registration,
      s.held.get? number = some registration → number < s.made)
    (h : s.subject? c ≠ some d) {number : Nat} (hheld : s.held.get? number = some ⟨d⟩) :
    (s.call c).held.get? number = some ⟨d⟩ := by
  cases c with
  | register other ranges =>
      have hlt := hnumbered _ _ hheld
      rw [held_register, if_neg (by omega), hheld]
  | record other location error => exact hheld
  | drop dropped =>
      have hne : number ≠ dropped := by
        rintro rfl
        refine h ?_
        rw [subject?, hheld]
        rfl
      rw [held_drop, if_neg hne, hheld]

/-- After any calls: registrations have numbers below that of the next one, a document of which one is
    held was registered at some time, and a registration is held of every document that has a slot. -/
structure Tended (calls : List RegistryCall) : Prop where
  numbered : ∀ number registration, (after calls).held.get? number = some registration →
    number < (after calls).made
  registered : ∀ d, (after calls).Holds d → ∃ ranges, .registered ranges ∈ eventsOf d calls
  holds : ∀ d, (after calls).registry.slot? d ≠ none → (after calls).Holds d

/-- Events stay events when calls are added. -/
theorem mem_eventsOf_concat {event : RegistryEvent} (h : event ∈ eventsOf d calls)
    (c : RegistryCall) : event ∈ eventsOf d (calls ++ [c]) := by
  by_cases hsubject : (after calls).subject? c = some d
  · rw [eventsOf_concat_self hsubject]
    exact List.mem_append_left _ h
  · rwa [eventsOf_concat_ne hsubject]

/-- The count of registrations never goes down. -/
theorem made_call (s : Holding) (c : RegistryCall) : s.made ≤ (s.call c).made := by
  cases c with
  | register other ranges => exact Nat.le_succ _
  | record other location error => exact Nat.le_refl _
  | drop number =>
      rw [call]
      cases s.held.get? number with
      | none => exact Nat.le_refl _
      | some registration => exact Nat.le_refl _

theorem tended_concat (h : Tended calls) (c : RegistryCall) : Tended (calls ++ [c]) where
  numbered := by
    intro number registration hheld
    rw [after_concat] at hheld ⊢
    rcases held_call hheld with hbefore | ⟨rfl, ranges, rfl⟩
    · exact (h.numbered _ _ hbefore).trans_le (made_call _ _)
    · exact Nat.lt_succ_self _
  registered := by
    rintro d ⟨number, hheld⟩
    rw [after_concat] at hheld
    rcases held_call hheld with hbefore | ⟨-, ranges, rfl⟩
    · obtain ⟨ranges, hmem⟩ := h.registered d ⟨number, hbefore⟩
      exact ⟨ranges, mem_eventsOf_concat hmem c⟩
    · refine ⟨ranges, ?_⟩
      rw [eventsOf_concat_self rfl]
      exact List.mem_append_right _ List.mem_cons_self
  holds := by
    intro d hslot
    rw [after_concat] at hslot ⊢
    by_cases hsubject : (after calls).subject? c = some d
    · rw [slot?_call_self hsubject] at hslot
      cases c with
      | register other ranges =>
          cases hsubject
          exact ⟨_, (held_register _ _ _ _).trans (if_pos rfl)⟩
      | record other location error =>
          exact h.holds d fun hnone => hslot (Option.map_eq_none_iff.mpr hnone)
      | drop number => exact absurd rfl hslot
    · rw [slot?_call_ne hsubject] at hslot
      obtain ⟨number, hheld⟩ := h.holds d hslot
      exact ⟨number, held_call_ne h.numbered hsubject hheld⟩

/-- This holds after any calls. The induction is on the calls, from the last one. -/
theorem tended (calls : List RegistryCall) : Tended calls := by
  induction calls using List.reverseRecOn with
  | nil =>
      refine ⟨fun _ _ hheld => ?_, ?_, fun _ hslot => absurd rfl hslot⟩
      · cases hheld
      · rintro d ⟨number, hheld⟩
        cases hheld
  | append_singleton earlier c ih => exact tended_concat ih c

/-! ## Registered documents -/

theorem isRegistered_iff (r : Registry) (d : DocumentId) :
    r.isRegistered d = true ↔ r.slot? d ≠ none := Option.isSome_iff_ne_none

/-- No document is registered while a registration of it is held. -/
def Exclusive (calls : List RegistryCall) : Prop :=
  ∀ before d ranges since, calls = before ++ .register d ranges :: since → ¬ (after before).Holds d

theorem Exclusive.earlier (h : Exclusive (calls ++ [c])) : Exclusive calls := by
  rintro before d ranges since rfl
  exact h before d ranges (since ++ [c]) (by simp)

/-- Then at most one registration of a document is held, and one that is held keeps the slot. -/
theorem Exclusive.keeps (h : Exclusive calls) :
    (∀ d m n, (after calls).held.get? m = some ⟨d⟩ → (after calls).held.get? n = some ⟨d⟩ → m = n) ∧
      ∀ d, (after calls).Holds d → (after calls).registry.slot? d ≠ none := by
  induction calls using List.reverseRecOn with
  | nil =>
      refine ⟨fun _ _ _ hheld => ?_, ?_⟩
      · cases hheld
      · rintro d ⟨number, hheld⟩
        cases hheld
  | append_singleton earlier c ih =>
      obtain ⟨honce, hkeeps⟩ := ih h.earlier
      -- a document that the call registers has no registration that is held
      have hnew : ∀ {d ranges}, c = .register d ranges → ∀ n,
          (after earlier).held.get? n ≠ some ⟨d⟩ := by
        rintro d ranges rfl n hheld
        exact h earlier d ranges [] rfl ⟨n, hheld⟩
      rw [after_concat]
      constructor
      · intro d m n hm hn
        rcases held_call hm with hm | ⟨rfl, ranges, hc⟩
        · rcases held_call hn with hn | ⟨rfl, ranges, hc⟩
          · exact honce d m n hm hn
          · exact absurd hm (hnew hc m)
        · rcases held_call hn with hn | ⟨rfl, -⟩
          · exact absurd hn (hnew hc n)
          · rfl
      · rintro d ⟨number, hheld⟩
        by_cases hsubject : (after earlier).subject? c = some d
        · rw [slot?_call_self hsubject]
          cases c with
          | register other ranges => exact Option.some_ne_none _
          | record other location error =>
              exact fun hnone => hkeeps d ⟨number, hheld⟩ (Option.map_eq_none_iff.mp hnone)
          | drop dropped =>
              -- it was the only registration of its document
              obtain ⟨⟨other⟩, hdropped, heq⟩ := Option.map_eq_some_iff.mp hsubject
              cases heq
              rw [held_drop] at hheld
              by_cases hnumber : number = dropped
              · rw [if_pos hnumber] at hheld
                cases hheld
              · rw [if_neg hnumber] at hheld
                exact absurd (honce _ _ _ hheld hdropped) hnumber
        · rw [slot?_call_ne hsubject]
          rcases held_call hheld with hbefore | ⟨-, ranges, rfl⟩
          · exact hkeeps d ⟨number, hbefore⟩
          · exact absurd rfl hsubject

/-- **Which documents are registered after any calls**: those of which a registration is held and which
    no drop of one of their registrations took away since they were registered last. They are counted
    once each. If no document is registered while a registration of it is held, a registration that is
    held is enough. -/
theorem registered_spec (calls : List RegistryCall) :
    let s := after calls
    (∀ d, s.registry.isRegistered d = true ↔ s.Holds d ∧ ¬ Displaced (eventsOf d calls)) ∧
    (∃ documents : List DocumentId, documents.Nodup ∧
      (∀ d, d ∈ documents ↔ s.Holds d ∧ ¬ Displaced (eventsOf d calls)) ∧
      s.registry.size = documents.length) ∧
    (Exclusive calls → ∀ d, s.registry.isRegistered d = true ↔ s.Holds d) := by
  intro s
  have hregistered : ∀ d, s.registry.isRegistered d = true
      ↔ s.Holds d ∧ ¬ Displaced (eventsOf d calls) := by
    intro d
    rw [isRegistered_iff]
    constructor
    · intro hslot
      refine ⟨(tended calls).holds d hslot, fun hdisplaced => hslot ?_⟩
      rw [slot?_after, slotOf_eq_none_iff]
      exact Or.inr hdisplaced
    · rintro ⟨hholds, hstands⟩ hnone
      rw [slot?_after, slotOf_eq_none_iff] at hnone
      rcases hnone with hnever | hdisplaced
      · obtain ⟨ranges, hmem⟩ := (tended calls).registered d hholds
        exact hnever ranges hmem
      · exact hstands hdisplaced
  refine ⟨hregistered, ⟨s.registry.slots.keys, s.registry.slots.nodup_keys, ?_, ?_⟩, ?_⟩
  · intro d
    rw [← hregistered, Table.mem_keys_iff, isRegistered_iff]
    exact Option.ne_none_iff_exists'.symm
  · exact (List.length_map _).symm
  · intro hexclusive d
    rw [isRegistered_iff]
    exact ⟨(tended calls).holds d, hexclusive.keeps.2 d⟩

/-- The older of two registrations of a document is dropped. -/
def olderDropped : List RegistryCall := [.register ⟨0⟩ [], .register ⟨0⟩ [], .drop 0]

/-- A document that was given up is registered again. -/
def comesBack : List RegistryCall := [.register ⟨0⟩ [], .drop 0, .register ⟨0⟩ []]

theorem exclusive_comesBack : Exclusive comesBack := by
  intro before d ranges since heq
  rcases before with _ | ⟨first, _ | ⟨second, _ | ⟨third, rest⟩⟩⟩
  · rintro ⟨number, hheld⟩
    cases hheld
  · simp [comesBack] at heq
  · simp only [comesBack, List.cons_append, List.nil_append, List.cons.injEq] at heq
    obtain ⟨rfl, rfl, -⟩ := heq
    rintro ⟨number, hheld⟩
    change ((Holding.call {} (.register ⟨0⟩ [])).call (.drop 0)).held.get? number = _ at hheld
    rw [held_drop, held_register] at hheld
    by_cases hnumber : number = 0
    · rw [if_pos hnumber] at hheld
      cases hheld
    · rw [if_neg hnumber, if_neg hnumber] at hheld
      cases hheld
  · simp [comesBack] at heq

/-- Its newer registration is held, and the document is not registered. One that comes back is. -/
theorem registered_spec_older_dropped :
    ((after olderDropped).Holds ⟨0⟩ ∧ (after olderDropped).registry.isRegistered ⟨0⟩ = false ∧
      (after olderDropped).registry.size = 0) ∧
    Exclusive comesBack ∧ (after comesBack).registry.isRegistered ⟨0⟩ = true := by
  have hdisplaced : Displaced (eventsOf ⟨0⟩ olderDropped) :=
    ⟨[.registered [], .registered []], [], rfl, fun _ => List.not_mem_nil⟩
  refine ⟨⟨⟨1, rfl⟩, ?_, rfl⟩, exclusive_comesBack, ?_⟩
  · rw [← Bool.not_eq_true, (registered_spec olderDropped).1]
    exact fun h => h.2 hdisplaced
  · exact ((registered_spec comesBack).2.2 exclusive_comesBack ⟨0⟩).mpr ⟨1, rfl⟩

end Holding
end Formulary.Render
