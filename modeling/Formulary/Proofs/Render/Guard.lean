import Formulary.Proofs.Render.Gate
import Formulary.Render.Guard

/-!
# Guarded gates — the callback runs once, whatever it does

A gate under a lock is that of the outcomes that arrived, as far as it has room for them. That is so
after every call, also after one that ended in a panic, because the gate has its counts and gave its
summary away before the callback runs. So all that calls answer can be read from their position.

* `Recorded` — what the registry makes of an outcome; `Registry.recorded` — a record does that.
* `GateCall`, `GateTurn`, `GuardedGate.play` — calls one after the other, by any threads.
* `GuardedGate.arrive_of_room`, `GuardedGate.arrive_of_full` — one call.
* `GuardedGate.play_at` — the call at a position finds the gate of the outcomes before it.
* `GuardedGate.length_ran` — how often the callback runs.
* `GuardedGate.play_spec` — what a gate makes of any calls.
-/

namespace Formulary.Render

/-- What the registry makes of an outcome: it is known at the range of its key; it is dropped when the
    document is not registered or has no such key; and nothing else changes. -/
structure Recorded (document : DocumentId) (location : String) (outcome : Option JobError)
    (before after : Registry) : Prop where
  kept : ∀ slot range, before.slot? document = some slot →
    slot.index.lookup location = some range → after.error document range = outcome
  dropped : (∀ slot, before.slot? document = some slot → slot.index.lookup location = none) →
    after = before
  others : ∀ d range, (∀ slot, d = document → before.slot? document = some slot →
    slot.index.lookup location ≠ some range) → after.error d range = before.error d range

/-- A record does what it is to do with an outcome. -/
theorem Registry.recorded (registry : Registry) (document : DocumentId) (location : String)
    (outcome : Option JobError) :
    Recorded document location outcome registry
      (registry.record document location outcome).2 where
  kept := fun _ _ hslot hlookup => error_record hslot hlookup
  dropped := by
    intro hnone
    cases hslot : registry.slot? document with
    | none => rw [record_of_slot?_eq_none hslot]
    | some slot => rw [record_of_lookup_eq_none hslot (hnone slot hslot)]
  others := by
    intro d range hne
    by_cases hd : d = document
    · subst hd
      cases hslot : registry.slot? d with
      | none => rw [record_of_slot?_eq_none hslot]
      | some slot => exact error_record_ne hslot (hne slot rfl hslot)
    · exact error_eq_of_slot?_eq (slot?_record_ne hd) range

theorem BatchSummary.succeeded_add_failed (outcomes : List (Option JobError)) :
    (BatchSummary.of outcomes).succeeded + (BatchSummary.of outcomes).failed = outcomes.length := by
  show outcomes.countP Option.isNone + outcomes.countP Option.isSome = outcomes.length
  rw [← CompletionGate.countP_isNone, Nat.sub_add_cancel List.countP_le_length]

@[simp]
theorem Locked.enter_eq {α : Type} (l : Locked α) : l.enter = l.value := by
  rw [enter, lock]
  by_cases hpoisoned : l.poisoned = true
  · rw [if_pos hpoisoned]
  · rw [if_neg hpoisoned]

theorem Locked.leave_self {α : Type} (l : Locked α) : l.leave l.value false = l := by
  rw [leave, Bool.or_false]

/-- A call on a gate, and what others did with the registry since the call before it. -/
structure GateCall where
  meanwhile : Registry → Registry
  location : String
  outcome : Option JobError

/-- A call with the gate and the registry that it found and what came of it. -/
structure GateTurn where
  gate : GuardedGate
  registry : Registry
  called : GateCalled

/-- The run of the callback in a turn. -/
def GateTurn.ran (turn : GateTurn) : Option CallbackRun := turn.called.ran

/-- The outcomes of calls. -/
def outcomesOf (calls : List GateCall) : List (Option JobError) := calls.map GateCall.outcome

namespace GuardedGate

/-- Calls one after the other. -/
def play (callback : Callback) (g : GuardedGate) (registry : Registry) :
    List GateCall → List GateTurn
  | [] => []
  | call :: rest =>
    let found := call.meanwhile registry
    let called := g.arrive callback found call.location call.outcome
    ⟨g, found, called⟩ :: play callback called.gate called.registry rest

variable {document : DocumentId} {total : Nat} {callback : Callback} {g : GuardedGate}
  {registry : Registry} {location : String} {outcome : Option JobError}
  {outcomes : List (Option JobError)}

/-- The gate that some outcomes leave is that of as many as it has room for. -/
def Holds (document : DocumentId) (total : Nat) (outcomes : List (Option JobError))
    (g : GuardedGate) : Prop := g.value = .after document total (outcomes.take total)

/-- A call at a gate that has room is recorded and counted, and the last one runs the callback. -/
theorem arrive_of_room (h : Holds document total outcomes g) (hroom : outcomes.length < total) :
    let recorded := (registry.record document location outcome).2
    let signalled := callback.signal
      (CompletionGate.summaryAfter total (outcomes ++ [outcome])) recorded
    g.arrive callback registry location outcome =
      { reply := if signalled.panicked then .panicked else
          .returned (if outcomes.length + 1 = total then .completed else .counted)
        ran := signalled.ran
        gate := g.leave (.after document total (outcomes ++ [outcome])) signalled.panicked
        registry := signalled.registry } := by
  rw [Holds, List.take_of_length_le hroom.le] at h
  rw [arrive, Locked.enter_eq, h, CompletionGate.arrive_after hroom]

/-- A call at a gate that has no room does nothing. -/
theorem arrive_of_full (h : Holds document total outcomes g) (hfull : total ≤ outcomes.length) :
    g.arrive callback registry location outcome = ⟨.returned .overflow, none, g, registry⟩ := by
  have hlength : total ≤ (outcomes.take total).length := by
    rw [List.length_take]
    omega
  rw [arrive, Locked.enter_eq, h, CompletionGate.arrive_full hlength, ← h]
  show GateCalled.mk _ _ (g.leave g.value false) registry = _
  rw [Locked.leave_self]
  rfl

/-- A call leaves the gate of one more outcome, in order or in a panic. -/
theorem holds_arrive (h : Holds document total outcomes g) :
    Holds document total (outcomes ++ [outcome])
      (g.arrive callback registry location outcome).gate := by
  by_cases hroom : outcomes.length < total
  · rw [arrive_of_room h hroom, Holds, List.take_of_length_le]
    · rfl
    · rw [List.length_append, List.length_singleton]
      omega
  · rw [arrive_of_full h (Nat.not_lt.mp hroom), Holds,
      List.take_append_of_le_length (Nat.not_lt.mp hroom)]
    exact h

/-- A call that leaves room is recorded and counted. -/
theorem arrive_counted (h : Holds document total outcomes g) (hearly : outcomes.length + 1 < total) :
    g.arrive callback registry location outcome =
      ⟨.returned .counted, none, g.leave (.after document total (outcomes ++ [outcome])) false,
        (registry.record document location outcome).2⟩ := by
  have hnone : CompletionGate.summaryAfter total (outcomes ++ [outcome]) = none := by
    rw [CompletionGate.summaryAfter, List.length_append, List.length_singleton, if_neg hearly.ne]
  rw [arrive_of_room h (Nat.lt_of_succ_lt hearly), hnone, if_neg hearly.ne]
  rfl

/-- A call that fills the gate is recorded, and then it runs the callback. -/
theorem arrive_completed (h : Holds document total outcomes g) (hlast : outcomes.length + 1 = total) :
    let recorded := (registry.record document location outcome).2
    let summary := BatchSummary.of (outcomes ++ [outcome])
    g.arrive callback registry location outcome =
      ⟨if (callback summary recorded).1 then .panicked else .returned .completed,
        some ⟨summary, recorded⟩,
        g.leave (.after document total (outcomes ++ [outcome])) (callback summary recorded).1,
        (callback summary recorded).2⟩ := by
  have hsome : CompletionGate.summaryAfter total (outcomes ++ [outcome])
      = some (.of (outcomes ++ [outcome])) := by
    rw [CompletionGate.summaryAfter, List.length_append, List.length_singleton, if_pos hlast]
  rw [arrive_of_room h (by omega), hsome, if_pos hlast]
  rfl

/-- The callback runs in the call that fills the gate. -/
theorem ran_arrive (h : Holds document total outcomes g) :
    (g.arrive callback registry location outcome).ran =
      if outcomes.length + 1 = total then
        some ⟨.of (outcomes ++ [outcome]), (registry.record document location outcome).2⟩
      else none := by
  obtain hearly | hlast | hfull := Nat.lt_trichotomy (outcomes.length + 1) total
  · rw [arrive_counted h hearly, if_neg hearly.ne]
  · rw [arrive_completed h hlast, if_pos hlast]
  · rw [arrive_of_full h (Nat.le_of_lt_succ hfull), if_neg hfull.ne']

/-! ## Many calls -/

theorem length_play (callback : Callback) (g : GuardedGate) (registry : Registry)
    (calls : List GateCall) : (play callback g registry calls).length = calls.length := by
  induction calls generalizing g registry with
  | nil => rfl
  | cons call rest ih => exact congrArg (· + 1) (ih _ _)

/-- The call at a position finds the gate of the outcomes before it. -/
theorem play_at (h : Holds document total outcomes g) {calls : List GateCall} {i : Nat}
    {call : GateCall} {turn : GateTurn} (hcall : calls[i]? = some call)
    (hturn : (play callback g registry calls)[i]? = some turn) :
    Holds document total (outcomes ++ outcomesOf (calls.take i)) turn.gate ∧
      turn.called = turn.gate.arrive callback turn.registry call.location call.outcome := by
  -- over the calls, each of which leaves the gate of one outcome more
  induction calls generalizing g registry outcomes i with
  | nil => cases hcall
  | cons first rest ih =>
      cases i with
      | zero =>
          cases hcall
          cases hturn
          rw [List.take_zero, outcomesOf, List.map_nil, List.append_nil]
          exact ⟨h, rfl⟩
      | succ i =>
          have hlater := ih (holds_arrive h) hcall hturn
          rw [List.append_assoc, List.singleton_append] at hlater
          exact hlater

/-- The callback runs once if the gate had room and the calls fill it. -/
theorem length_ran (h : Holds document total outcomes g) (calls : List GateCall) :
    ((play callback g registry calls).filterMap GateTurn.ran).length
      = if outcomes.length < total ∧ total ≤ outcomes.length + calls.length then 1 else 0 := by
  induction calls generalizing g registry outcomes with
  | nil =>
      rw [play, if_neg (by rw [List.length_nil]; omega)]
      rfl
  | cons call rest ih =>
      have hran : GateTurn.ran ⟨g, call.meanwhile registry,
          g.arrive callback (call.meanwhile registry) call.location call.outcome⟩ = _ :=
        ran_arrive h
      rw [play]
      by_cases hlast : outcomes.length + 1 = total
      · -- it ran now, and there is no room behind it
        rw [if_pos hlast] at hran
        rw [List.filterMap_cons_some hran, List.length_cons, ih (holds_arrive h),
          List.length_append, List.length_singleton, if_neg (by omega), if_pos]
        rw [List.length_cons]
        omega
      · rw [if_neg hlast] at hran
        rw [List.filterMap_cons_none hran, ih (holds_arrive h), List.length_append,
          List.length_singleton, List.length_cons]
        refine if_congr ?_ rfl rfl
        omega

/-! ## New gates -/

/-- A gate for jobs starts empty. -/
theorem new_of_pos (h : 0 < total) :
    new document total callback registry
      = ⟨some ⟨.after document total [], false⟩, none, registry⟩ := by
  rw [new, CompletionGate.new_eq, CompletionGate.summaryAfter, List.length_nil,
    if_neg (Nat.ne_of_lt h)]
  rfl

/-- A gate for no jobs runs its callback, and is lost when that panics. -/
theorem new_zero :
    new document 0 callback registry =
      ⟨if (callback ⟨0, 0, 0⟩ registry).1 then none else some ⟨.after document 0 [], false⟩,
        some ⟨⟨0, 0, 0⟩, registry⟩, (callback ⟨0, 0, 0⟩ registry).2⟩ := rfl

/-- A gate that was made holds no outcome. -/
theorem holds_new (h : (new document total callback registry).gate = some g) :
    Holds document total [] g := by
  rw [Holds, List.take_nil]
  cases total with
  | zero =>
      rw [new_zero] at h
      by_cases hpanic : (callback ⟨0, 0, 0⟩ registry).1 = true
      · simp only [if_pos hpanic] at h
        cases h
      · simp only [if_neg hpanic] at h
        cases h
        rfl
  | succ n =>
      rw [new_of_pos n.succ_pos] at h
      cases h
      rfl

/-! ## Every call by its position -/

/-- What the call at position `i` does. Those before the last that the gate is for are recorded and
    counted; the last one is recorded and runs the callback with the summary of all of them; and those
    behind it change nothing. -/
structure Answered (document : DocumentId) (total : Nat) (callback : Callback)
    (calls : List GateCall) (i : Nat) (call : GateCall) (turn : GateTurn) : Prop where
  arrived : turn.called.gate.value.arrived = min (i + 1) total
  counted : i + 1 < total → turn.called.reply = .returned .counted ∧ turn.ran = none ∧
    Recorded document call.location call.outcome turn.registry turn.called.registry
  completed : i + 1 = total → ∃ summary recorded, turn.ran = some ⟨summary, recorded⟩ ∧
    Recorded document call.location call.outcome turn.registry recorded ∧
    summary.total = total ∧ summary.succeeded + summary.failed = total ∧
    summary.failed = (calls.take total).countP (fun earlier => earlier.outcome.isSome) ∧
    turn.called.registry = (callback summary recorded).2 ∧
    turn.called.reply
      = if (callback summary recorded).1 then .panicked else .returned .completed
  overflow : total ≤ i → turn.called = ⟨.returned .overflow, none, turn.gate, turn.registry⟩

theorem answered_of_holds (h : Holds document total [] g) {calls : List GateCall} {i : Nat}
    {call : GateCall} {turn : GateTurn} (hcall : calls[i]? = some call)
    (hturn : (play callback g registry calls)[i]? = some turn) :
    Answered document total callback calls i call turn := by
  obtain ⟨hholds, hcalled⟩ := play_at h hcall hturn
  rw [List.nil_append] at hholds
  obtain ⟨hi, -⟩ := List.getElem?_eq_some_iff.mp hcall
  have hlength : ∀ n ≤ calls.length, (outcomesOf (calls.take n)).length = n := fun n hn => by
    rw [outcomesOf, List.length_map, List.length_take_of_le hn]
  have hmore : outcomesOf (calls.take i) ++ [call.outcome] = outcomesOf (calls.take (i + 1)) := by
    rw [List.take_add_one, hcall, outcomesOf, outcomesOf, List.map_append]
    rfl
  constructor
  · have hafter : turn.called.gate.value = _ := hcalled ▸ holds_arrive hholds
    rw [hafter, hmore]
    show (List.take total _).length = _
    rw [List.length_take, hlength _ hi, Nat.min_comm]
  · intro hearly
    rw [GateTurn.ran, hcalled, arrive_counted hholds (by rwa [hlength _ hi.le])]
    exact ⟨rfl, rfl, Registry.recorded _ _ _ _⟩
  · intro hlast
    rw [GateTurn.ran, hcalled, arrive_completed hholds (by rwa [hlength _ hi.le]), hmore, hlast]
    refine ⟨_, _, rfl, Registry.recorded _ _ _ _, ?_, ?_, ?_, rfl, rfl⟩
    · exact hlength total (hlast ▸ hi)
    · rw [BatchSummary.succeeded_add_failed, hlength total (hlast ▸ hi)]
    · exact List.countP_map
  · intro hfull
    rw [hcalled, arrive_of_full hholds (by rwa [hlength _ hi.le])]

/-- **What a gate makes of any calls**, whatever its callback does. The callback runs once if there
    were as many calls as jobs, and never otherwise: for no jobs while the gate is made, else in the call
    that is the last to be counted, and then with the registry in which the outcome of that call was
    recorded. Calls beyond that change nothing. -/
theorem play_spec (document : DocumentId) (total : Nat) (callback : Callback)
    (registry : Registry) :
    let made := new document total callback registry
    made.ran = (if total = 0 then some ⟨⟨0, 0, 0⟩, registry⟩ else none) ∧
    (made.gate = none ↔ total = 0 ∧ (callback ⟨0, 0, 0⟩ registry).1 = true) ∧
    ∀ g, made.gate = some g → ∀ calls,
      let turns := play callback g made.registry calls
      turns.length = calls.length ∧
      (made.ran.toList ++ turns.filterMap GateTurn.ran).length
        = (if total ≤ calls.length then 1 else 0) ∧
      ∀ i call turn, calls[i]? = some call → turns[i]? = some turn →
        Answered document total callback calls i call turn := by
  refine ⟨?_, ?_, ?_⟩
  · cases total with
    | zero => rfl
    | succ n => rw [new_of_pos n.succ_pos, if_neg n.succ_ne_zero]
  · cases total with
    | zero =>
        rw [new_zero]
        simp
    | succ n =>
        rw [new_of_pos n.succ_pos]
        simp
  · intro g hg calls
    refine ⟨length_play callback g _ calls, ?_, ?_⟩
    · rw [List.length_append, length_ran (holds_new hg), List.length_nil, Nat.zero_add]
      cases total with
      | zero => simp [new_zero]
      | succ n => simp [new_of_pos n.succ_pos]
    · intro i call turn hcall hturn
      exact answered_of_holds (holds_new hg) hcall hturn

/-- A callback that panics and does nothing else. -/
def panicking : Callback := fun _ registry => (true, registry)

/-- One call more than a gate for one job expects. -/
def surplusCalls : List GateCall := [⟨id, "a", none⟩, ⟨id, "b", none⟩]

/-- The call behind one whose callback panicked finds the lock poisoned and is told that it comes too
    late. -/
theorem play_spec_panicking :
    ∃ turn, (play panicking ⟨.after ⟨0⟩ 1 [], false⟩ .empty surplusCalls)[1]? = some turn ∧
      turn.gate.poisoned = true ∧ turn.called.reply = .returned .overflow := by
  obtain ⟨turn, hturn⟩ : ∃ turn,
      (play panicking ⟨.after ⟨0⟩ 1 [], false⟩ .empty surplusCalls)[1]? = some turn := ⟨_, rfl⟩
  have hturns := (play_spec ⟨0⟩ 1 panicking .empty).2.2 ⟨.after ⟨0⟩ 1 [], false⟩ rfl surplusCalls
  have hlate := (hturns.2.2 1 _ turn rfl hturn).overflow (Nat.le_refl 1)
  refine ⟨turn, hturn, ?_, ?_⟩
  · cases hturn
    rfl
  · rw [hlate]

end GuardedGate
end Formulary.Render
