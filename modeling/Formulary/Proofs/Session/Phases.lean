import Formulary.Proofs.Session.Chronicle
import Formulary.Proofs.Session.Completion

/-!
# Phases — a document is in the phase that its last batch gives it

Batches of a document may be requested while others are under way, and they complete in any order. The
number that a document keeps is that of its last batch, and every batch of it was requested under the
number that came next. So the phase tells whether there was a request, and whether the batch of the last
one has its result.

* `requestsOf` — the batches requested of a document during a run.
* `phaseAfter` — the phase by these batches.
* `Phased`, `phased_step`, `phased_play` — the invariant, kept by one step and by a run.
* `phase_spec` — phases and results of a document during any run.
-/

namespace Formulary

open Render Markup

namespace Session

/-! ## Requests -/

/-- The batch that an event requests of a document. -/
def requestOf (s : Session) (id : DocumentId) : Event → List BatchId
  | .request other => if other = id then ((s.request id).map Prod.fst).toList else []
  | _ => []

/-- The batches that are requested of a document during a run, in order. -/
def requestsOf (replies : JobId → Reply) (id : DocumentId) (s : Session) :
    List Event → List BatchId
  | [] => []
  | e :: rest => s.requestOf id e ++ requestsOf replies id (perform replies s e) rest

variable {replies : JobId → Reply} {s s' : Session} {e : Event} {id : DocumentId}
  {requested : List BatchId}

theorem requestsOf_append (s : Session) (a c : List Event) :
    requestsOf replies id s (a ++ c)
      = requestsOf replies id s a ++ requestsOf replies id (play replies s a) c := by
  induction a generalizing s with
  | nil => rfl
  | cons e rest ih =>
      rw [List.cons_append, requestsOf, requestsOf, ih, List.append_assoc, play_cons]

theorem requestOf_request {d : OpenDocument} (hopen : s.documents.get? id = some d) :
    s.requestOf id (.request id) = [nextBatch id d] := by
  rw [requestOf, if_pos rfl, request_eq hopen]
  rfl

theorem requestOf_ne (h : e ≠ .request id) : s.requestOf id e = [] := by
  cases e with
  | request other =>
      refine if_neg ?_
      rintro rfl
      exact h rfl
  | _ => rfl

theorem mem_requestOf {b : BatchId} (h : b ∈ s.requestOf id e) :
    e = .request id ∧ ∃ d, s.documents.get? id = some d ∧ b = nextBatch id d := by
  by_cases he : e = .request id
  · refine ⟨he, ?_⟩
    rw [he] at h
    cases hopen : s.documents.get? id with
    | none =>
        rw [requestOf, if_pos rfl, request, hopen] at h
        cases h
    | some d =>
        rw [requestOf_request hopen] at h
        exact ⟨d, rfl, List.mem_singleton.mp h⟩
  · rw [requestOf_ne he] at h
    cases h

/-- A batch that was requested during a run was requested at some point of it. -/
theorem mem_requestsOf {events : List Event} {b : BatchId}
    (h : b ∈ requestsOf replies id s events) :
    ∃ before after d, events = before ++ .request id :: after ∧
      (play replies s before).documents.get? id = some d ∧ b = nextBatch id d := by
  induction events generalizing s with
  | nil => cases h
  | cons e rest ih =>
      rcases List.mem_append.mp h with hnow | hlater
      · obtain ⟨rfl, d, hopen, rfl⟩ := mem_requestOf hnow
        exact ⟨[], rest, d, rfl, hopen, rfl⟩
      · obtain ⟨before, after, d, rfl, hopen, rfl⟩ := ih hlater
        exact ⟨e :: before, after, d, rfl, hopen, rfl⟩

/-! ## Phases by requests -/

/-- The phase of a document by the batches that were requested of it: none was, or the last one has its
    result, or it is still waited for. -/
def phaseAfter (s : Session) (requested : List BatchId) : Phase :=
  match requested.getLast? with
  | none => .extracted
  | some b => if (s.result? b).isSome then .completed else .renderRequested

/-- The first batches of a document, numbered from one. -/
def numbered (id : DocumentId) (count : Nat) : List BatchId :=
  (List.range count).map fun n => ⟨id, n + 1⟩

theorem numbered_succ (id : DocumentId) (count : Nat) :
    numbered id (count + 1) = numbered id count ++ [⟨id, count + 1⟩] := by
  rw [numbered, List.range_succ, List.map_append]
  rfl

theorem nodup_numbered (id : DocumentId) (count : Nat) : (numbered id count).Nodup := by
  refine List.Nodup.map ?_ List.nodup_range
  intro m n heq
  exact Nat.succ.inj (BatchId.mk.inj heq).2

theorem getLast?_numbered {count : Nat} {b : BatchId} (h : (numbered id count).getLast? = some b) :
    b = ⟨id, count⟩ := by
  cases count with
  | zero => cases h
  | succ n =>
      rw [numbered_succ, List.getLast?_concat] at h
      exact (Option.some.inj h).symm

/-- The phase looks at the last batch only. -/
theorem phaseAfter_congr (h : ∀ b, requested.getLast? = some b → s'.result? b = s.result? b) :
    phaseAfter s' requested = phaseAfter s requested := by
  rw [phaseAfter, phaseAfter]
  cases hlast : requested.getLast? with
  | none => rfl
  | some b =>
      show (if (s'.result? b).isSome then Phase.completed else .renderRequested) = _
      rw [h b hlast]

theorem phaseAfter_of_last {b : BatchId} (h : requested.getLast? = some b) :
    phaseAfter s requested = if (s.result? b).isSome then .completed else .renderRequested := by
  rw [phaseAfter, h]

/-- The result of a batch is its summary, as long as the session was not stopped. -/
theorem Valid.result?_eq (h : s.Valid) (b : BatchId) :
    s.result? b = ((s.batches.get? b).bind Batch.summary).map .ok := by
  rw [result?]
  cases (s.batches.get? b).bind Batch.summary with
  | some summary => rfl
  | none =>
      rw [h.running]
      rfl

/-- A batch that is written gets its summary as its result, and the others keep theirs. -/
theorem result?_set (hvalid : s.Valid) (hvalid' : s'.Valid) {b : BatchId} {new : Batch}
    (hbatches : s'.batches = s.batches.set b new) (c : BatchId) :
    s'.result? c = if c = b then new.summary.map .ok else s.result? c := by
  rw [hvalid'.result?_eq, hbatches, Table.get?_set]
  by_cases hc : c = b
  · rw [if_pos hc, if_pos hc]
    rfl
  · rw [if_neg hc, if_neg hc, hvalid.result?_eq]

/-! ## The invariant -/

/-- A document has the number and the phase that the batches requested of it give it. -/
structure Stands (id : DocumentId) (s : Session) (requested : List BatchId) (d : OpenDocument) :
    Prop where
  generation : requested = numbered id d.generation
  phase : d.phase = phaseAfter s requested

/-- The batches of a document are those that were requested of it, and they give it its number and its
    phase. -/
structure Phased (id : DocumentId) (s : Session) (requested : List BatchId) : Prop where
  made : ∀ b, b ∈ requested ↔ b.document = id ∧ ∃ batch, s.batches.get? b = some batch
  stands : ∀ d, s.documents.get? id = some d → Stands id s requested d

theorem phased_new (options : SessionOptions) (id : DocumentId) : Phased id (new options) [] where
  made b := by
    constructor
    · intro h
      cases h
    · rintro ⟨-, batch, h⟩
      cases h
  stands d h := by cases h

/-- Batches come with their requests and stay. -/
theorem made_step (hstep : Step replies s e s')
    (h : ∀ b, b ∈ requested ↔ b.document = id ∧ ∃ batch, s.batches.get? b = some batch)
    (b : BatchId) :
    b ∈ requested ++ s.requestOf id e
      ↔ b.document = id ∧ ∃ batch, s'.batches.get? b = some batch := by
  constructor
  · intro hmem
    rcases List.mem_append.mp hmem with hold | hnew
    · obtain ⟨hdocument, batch, hbatch⟩ := (h b).mp hold
      exact ⟨hdocument, exists_batch_step hstep hbatch⟩
    · obtain ⟨rfl, d, hopen, rfl⟩ := mem_requestOf hnew
      refine ⟨rfl, ?_⟩
      cases hstep with
      | requested hopen' =>
          cases hopen.symm.trans hopen'
          exact ⟨_, Table.get?_set_self _ _ _⟩
  · rintro ⟨hdocument, batch, hbatch⟩
    cases hold : s.batches.get? b with
    | some old => exact List.mem_append_left _ ((h b).mpr ⟨hdocument, old, hold⟩)
    | none =>
        obtain ⟨other, d, rfl, hopen, rfl, -⟩ := requested_of_new hstep hold hbatch
        cases hdocument
        exact List.mem_append_right _
          ((requestOf_request hopen).symm ▸ List.mem_singleton.mpr rfl)

/-- A batch completes its document if it is the last one of it. -/
theorem get?_completed_if (flag : Bool) (t : Table DocumentId OpenDocument) (b : BatchId)
    (id : DocumentId) :
    (if flag = true then completed t b else t).get? id
      = (t.get? id).map fun d =>
          if flag = true ∧ b = ⟨id, d.generation⟩ then { d with phase := .completed } else d := by
  cases flag with
  | false =>
      show t.get? id = _
      simp
  | true =>
      rw [if_pos rfl, completed, Table.get?_modify]
      by_cases hid : id = b.document
      · rw [if_pos hid]
        refine congrArg (fun f => (t.get? id).map f) (funext fun d => ?_)
        by_cases hgeneration : d.generation = b.generation
        · rw [if_pos hgeneration, if_pos ⟨rfl, by rw [hid, hgeneration]⟩]
        · rw [if_neg hgeneration, if_neg]
          rintro ⟨-, rfl⟩
          exact hgeneration rfl
      · rw [if_neg hid]
        have hne : ∀ d : OpenDocument, ¬ (true = true ∧ b = ⟨id, d.generation⟩) := by
          rintro d ⟨-, rfl⟩
          exact hid rfl
        cases t.get? id with
        | none => rfl
        | some d => exact congrArg some (if_neg (hne d)).symm

/-- The number and the phase of a document. -/
def status (d : OpenDocument) : Nat × Phase := (d.generation, d.phase)

/-- A document keeps its number and its phase when nothing is requested of it and its last batch does
    not get its result. -/
theorem Phased.stands_of_status (h : Phased id s requested) {d d' : OpenDocument}
    (hopen : s.documents.get? id = some d) (hstatus : status d = status d')
    (hresult : ∀ b, requested.getLast? = some b → s'.result? b = s.result? b) :
    Stands id s' requested d' := by
  obtain ⟨hgeneration, hphase⟩ := Prod.mk.inj hstatus
  have hstands := h.stands d hopen
  constructor
  · rw [← hgeneration]
    exact hstands.generation
  · rw [← hphase, phaseAfter_congr hresult]
    exact hstands.phase

/-- A document of which a batch was just requested. -/
theorem stands_requested (hvalid : s.Valid) (h : Phased id s requested) {d d' : OpenDocument}
    (hopen : s.documents.get? id = some d)
    (hopen' : (s.requested id d).documents.get? id = some d') :
    Stands id (s.requested id d) (requested ++ [nextBatch id d]) d' := by
  have hget : (s.requested id d).documents.get? id = _ := get?_completed_if _ _ _ _
  rw [Table.get?_set_self, Option.map_some] at hget
  have hd' := Option.some.inj (hget.symm.trans hopen')
  have hresult : (s.requested id d).result? (nextBatch id d)
      = (CompletionGate.new id (planOf d).total).1.map .ok :=
    (result?_set hvalid (hvalid.requested hopen) rfl _).trans (if_pos rfl)
  constructor
  · rw [(h.stands d hopen).generation, nextBatch, ← numbered_succ]
    refine congrArg (numbered id) ?_
    rw [← hd']
    by_cases hdone : (CompletionGate.new id (planOf d).total).1.isSome = true
    · rw [if_pos ⟨hdone, rfl⟩]
      rfl
    · rw [if_neg fun hboth => hdone hboth.1]
      rfl
  · -- a batch without jobs completes at once
    rw [phaseAfter_of_last List.getLast?_concat, hresult, Option.isSome_map, ← hd']
    by_cases hdone : (CompletionGate.new id (planOf d).total).1.isSome = true
    · rw [if_pos ⟨hdone, rfl⟩, if_pos hdone]
    · rw [if_neg fun hboth => hdone hboth.1, if_neg hdone]

/-- A document when a job has reported: its phase changes only if this completes its last batch. -/
theorem stands_reported (hvalid : s.Valid) (h : Phased id s requested) {j : JobId} {task : Task}
    {error : Option JobError} {batch : Batch} (hbatch : s.batches.get? j.batch = some batch)
    (hvalid' : (s.reported j task error batch).Valid) {d' : OpenDocument}
    (hopen' : (s.reported j task error batch).documents.get? id = some d') :
    Stands id (s.reported j task error batch) requested d' := by
  have hget : (s.reported j task error batch).documents.get? id = _ := get?_completed_if _ _ _ _
  obtain ⟨d, hopen, rfl⟩ := Option.map_eq_some_iff.mp (hget.symm.trans hopen')
  have hstands := h.stands d hopen
  by_cases hlast : j.batch = ⟨id, d.generation⟩
  · -- the batch of the job was requested, so the document has a last batch, and this is the one
    have hmem : j.batch ∈ requested := (h.made _).mpr ⟨by rw [hlast], batch, hbatch⟩
    have hgetLast : requested.getLast? = some j.batch := by
      rw [hstands.generation] at hmem ⊢
      cases hgeneration : d.generation with
      | zero =>
          rw [hgeneration] at hmem
          cases hmem
      | succ n => rw [numbered_succ, List.getLast?_concat, hlast, hgeneration]
    have hbefore : s.result? j.batch = batch.summary.map .ok := by
      rw [hvalid.result?_eq, hbatch]
      rfl
    have hafter : (s.reported j task error batch).result? j.batch
        = (batch.summary.or (batch.gate.arrive s.registry j.location error).summary).map .ok :=
      (result?_set hvalid hvalid' rfl _).trans (if_pos rfl)
    have hphase := hstands.phase
    rw [phaseAfter_of_last hgetLast, hbefore, Option.isSome_map] at hphase
    have hphase' : phaseAfter (s.reported j task error batch) requested
        = if (batch.summary.or (batch.gate.arrive s.registry j.location error).summary).isSome
          then .completed else .renderRequested := by
      rw [phaseAfter_of_last hgetLast, hafter, Option.isSome_map]
    by_cases hdone : (batch.gate.arrive s.registry j.location error).summary.isSome = true
    · rw [if_pos ⟨hdone, hlast⟩]
      refine ⟨hstands.generation, ?_⟩
      rw [hphase', Option.isSome_or, hdone, Bool.or_true]
      rfl
    · rw [if_neg fun hboth => hdone hboth.1]
      refine ⟨hstands.generation, ?_⟩
      rw [hphase', Option.isSome_or, Bool.eq_false_iff.mpr hdone, Bool.or_false, hphase]
  · rw [if_neg fun hboth => hlast hboth.2]
    refine h.stands_of_status hopen rfl ?_
    intro b hb
    rw [hstands.generation] at hb
    have hne : b ≠ j.batch := by
      rw [getLast?_numbered hb]
      exact Ne.symm hlast
    exact (result?_set hvalid hvalid' rfl b).trans (if_neg hne)

/-- One step more. -/
theorem phased_step (hvalid : s.Valid) (hfresh : s.Fresh e) (hstep : Step replies s e s')
    (h : Phased id s requested) : Phased id s' (requested ++ s.requestOf id e) := by
  have hvalid' := valid_step hvalid hfresh hstep
  refine ⟨made_step hstep h.made, ?_⟩
  intro d' hopen'
  -- most steps keep the status and request nothing
  have hsame : ∀ {d}, e ≠ .request id → s.documents.get? id = some d → status d = status d' →
      (∀ b, requested.getLast? = some b → s'.result? b = s.result? b) →
      Stands id s' (requested ++ s.requestOf id e) d' := by
    intro d hrequest hopen hstatus hresult
    rw [requestOf_ne hrequest, List.append_nil]
    exact h.stands_of_status hopen hstatus hresult
  have hmodify : ∀ {f : OpenDocument → OpenDocument} {other : DocumentId},
      (s.documents.modify other f).get? id = some d' → (∀ d, status (f d) = status d) →
      ∃ d, s.documents.get? id = some d ∧ status d = status d' := by
    intro f other hget hstatus
    have hmap := map_get?_modify status hstatus s.documents other id
    rw [hget] at hmap
    obtain ⟨d, hd, heq⟩ := Option.map_eq_some_iff.mp hmap.symm
    exact ⟨d, hd, heq⟩
  cases hstep with
  | @opened other ids reader text loaded hload =>
      by_cases hother : id = other
      · -- no batch was made under the number of a new document
        have hnone : requested = [] := by
          refine List.eq_nil_iff_forall_not_mem.mpr ?_
          intro b hb
          obtain ⟨rfl, batch, hbatch⟩ := (h.made b).mp hb
          have hunused := hfresh.2 b.generation
          rw [← hother] at hunused
          cases hunused.symm.trans hbatch
        have hget : (s.opened other loaded).documents.get? id = _ :=
          (Table.get?_set _ _ _ _).trans (if_pos hother)
        cases hget.symm.trans hopen'
        rw [hnone]
        exact ⟨rfl, rfl⟩
      · have hget : (s.opened other loaded).documents.get? id = s.documents.get? id :=
          (Table.get?_set _ _ _ _).trans (if_neg hother)
        exact hsame Event.noConfusion (hget.symm.trans hopen') rfl fun _ _ => rfl
  | @closed other d hopen =>
      have hget := (Table.get?_erase s.documents other id).symm.trans hopen'
      exact hsame Event.noConfusion (Option.ite_none_left_eq_some.mp hget).2 rfl fun _ _ => rfl
  | sized =>
      obtain ⟨d, hopen, hstatus⟩ := hmodify hopen' fun _ => rfl
      exact hsame Event.noConfusion hopen hstatus fun _ _ => rfl
  | coloured =>
      obtain ⟨d, hopen, hstatus⟩ := hmodify hopen' fun _ => rfl
      exact hsame Event.noConfusion hopen hstatus fun _ _ => rfl
  | @requested other d hopen =>
      by_cases hother : other = id
      · subst hother
        rw [requestOf_request hopen]
        exact stands_requested hvalid h hopen hopen'
      · -- a batch of another document
        have hget : (s.requested other d).documents.get? id = _ := get?_completed_if _ _ _ _
        rw [Table.get?_set, if_neg (Ne.symm hother)] at hget
        obtain ⟨old, hold, heq⟩ := Option.map_eq_some_iff.mp (hget.symm.trans hopen')
        have hforeign : ∀ generation, (⟨id, generation⟩ : BatchId) ≠ nextBatch other d := by
          intro generation heq
          exact hother (BatchId.mk.inj heq).1.symm
        rw [if_neg fun hboth => hforeign _ hboth.2.symm] at heq
        refine hsame (fun heq => hother (Event.request.inj heq)) hold (congrArg status heq) ?_
        intro b hb
        rw [(h.stands old hold).generation] at hb
        exact (result?_set hvalid hvalid' rfl b).trans
          (if_neg (getLast?_numbered hb ▸ hforeign _))
  | reported hjob hbatch =>
      rw [requestOf_ne Event.noConfusion, List.append_nil]
      exact stands_reported hvalid h hbatch hvalid' hopen'
  | _ => exact hsame Event.noConfusion hopen' rfl fun _ _ => rfl

/-- A whole run. The induction is on the events still to come. -/
theorem phased_play (hvalid : s.Valid) (h : Phased id s requested) {events : List Event}
    (hrun : Admissible replies s events) :
    Phased id (play replies s events) (requested ++ requestsOf replies id s events) := by
  induction events generalizing s requested with
  | nil =>
      rw [requestsOf, List.append_nil]
      exact h
  | cons e rest ih =>
      rw [requestsOf, ← List.append_assoc, play_cons]
      refine ih (valid_perform hvalid hrun.1) ?_ hrun.2
      rcases perform_eq_or_step replies s e with ⟨heq, -⟩ | hstep
      · rw [heq]
        -- a request that changes nothing is one of a document that is not open
        have hnone : s.requestOf id e = [] := by
          refine List.eq_nil_iff_forall_not_mem.mpr ?_
          intro b hb
          obtain ⟨rfl, d, hopen, rfl⟩ := mem_requestOf hb
          have hnew := hvalid.nextBatch_new hopen
          rw [← heq, perform_request hopen] at hnew
          cases hnew.symm.trans (Table.get?_set_self _ _ _)
        rw [hnone, List.append_nil]
        exact h
      · exact phased_step hvalid hrun.1 hstep h

/-! ## Completions -/

/-- The result of a batch changes only in events of its own jobs. -/
theorem result?_step (hvalid : s.Valid) (hvalid' : s'.Valid) {b : BatchId} {batch : Batch}
    (hbatch : s.batches.get? b = some batch) (hforeign : ∀ j, e.job? = some j → j.batch ≠ b)
    (hstep : Step replies s e s') : s'.result? b = s.result? b := by
  rw [hvalid'.result?_eq, hvalid.result?_eq, batch_step hvalid hbatch hforeign hstep]

/-- When a batch that is not the last one of a document gets its result, the phase stays. -/
theorem Phased.phase_of_older (h : Phased id s requested) (hvalid : s.Valid) (hfresh : s.Fresh e)
    {b : BatchId} (hb : b ∈ requested) (hlast : requested.getLast? ≠ some b)
    (hbefore : s.result? b = none) (hafter : ((perform replies s e).result? b).isSome = true)
    {d d' : OpenDocument} (hopen : s.documents.get? id = some d)
    (hopen' : (perform replies s e).documents.get? id = some d') : d'.phase = d.phase := by
  have hvalid' : (perform replies s e).Valid := valid_perform hvalid hfresh
  obtain ⟨-, batch, hbatch⟩ := (h.made b).mp hb
  rcases perform_eq_or_step replies s e with ⟨heq, -⟩ | hstep
  · rw [heq, hbefore] at hafter
    cases hafter
  · -- the event is one of a job of this batch
    have hmine : ∃ j, e.job? = some j ∧ j.batch = b := by
      by_contra hnot
      have hforeign : ∀ j, e.job? = some j → j.batch ≠ b := fun j hj heq => hnot ⟨j, hj, heq⟩
      rw [result?_step hvalid hvalid' hbatch hforeign hstep, hbefore] at hafter
      cases hafter
    obtain ⟨j, hj, rfl⟩ := hmine
    have hrequest : e ≠ .request id := by
      rintro rfl
      cases hj
    have hstands := (phased_step hvalid hfresh hstep h).stands d' hopen'
    rw [requestOf_ne hrequest, List.append_nil] at hstands
    rw [hstands.phase, (h.stands d hopen).phase]
    refine phaseAfter_congr ?_
    intro last hgetLast
    obtain ⟨-, batch', hbatch'⟩ := (h.made last).mp (List.mem_of_getLast? hgetLast)
    refine result?_step hvalid hvalid' hbatch' ?_ hstep
    rintro other hother rfl
    cases hj.symm.trans hother
    exact hlast hgetLast

/-! ## Any document -/

/-- A document in any session that a run led to. Each request made a batch of its own, and the phase tells
    whether there was a request and whether the batch of the last one has its result. A batch before the
    last one that gets its result leaves the phase as it is. Each batch gets the summary of its own jobs,
    once, as soon as all of them have reported. -/
theorem phase_spec (replies : JobId → Reply) (options : SessionOptions) (events : List Event)
    (id : DocumentId) (d : OpenDocument) (hrun : Admissible replies (new options) events)
    (hopen : (play replies (new options) events).documents.get? id = some d) :
    let s := play replies (new options) events
    let seen := log replies (new options) events
    let requested := requestsOf replies id (new options) events
    requested.Nodup ∧
    d.phase = phaseAfter s requested ∧
    (∀ e b, s.Fresh e → b ∈ requested → requested.getLast? ≠ some b → s.result? b = none →
      ((perform replies s e).result? b).isSome = true →
      ∀ d', (perform replies s e).documents.get? id = some d' → d'.phase = d.phase) ∧
    ∀ b ∈ requested, ∃ before after d₀ arrived,
      events = before ++ .request id :: after ∧
      (play replies (new options) before).documents.get? id = some d₀ ∧ b = nextBatch id d₀ ∧
      Reports replies (play replies (new options) before).cache.maxBytes (planOf d₀).jobs b s seen
        arrived := by
  intro s seen requested
  have hvalid := valid_play (valid_new options) hrun
  have hphased : Phased id s requested :=
    phased_play (valid_new options) (phased_new options id) hrun
  have hstands := hphased.stands d hopen
  refine ⟨?_, hstands.phase, ?_, ?_⟩
  · rw [hstands.generation]
    exact nodup_numbered id d.generation
  · intro e b hfresh hb hlast hbefore hafter d' hopen'
    exact hphased.phase_of_older hvalid hfresh hb hlast hbefore hafter hopen hopen'
  · intro b hb
    obtain ⟨before, after, d₀, rfl, hopen₀, rfl⟩ := mem_requestsOf hb
    obtain ⟨arrived, hfollows⟩ := follows_request hrun hopen₀
    exact ⟨before, after, d₀, arrived, rfl, hopen₀, rfl, hfollows.tracks.reports hvalid hfollows.seen⟩

/-- Two batches of a document with one formula; the older one completes first, and the phase stays. -/
theorem phase_spec_older_first :
    let range : SourceRange := ⟨⟨1, 3⟩, ⟨1, 40⟩⟩
    let reader := fun _ => Node.mk (.inlineCode (Uuid.numbered 0).hyphenated) range []
    let bitmap := Bitmap.uniform 1 1 Color.black
    let replies : JobId → Reply := fun _ =>
      ⟨.broken none, .given bitmap, .given, .broken none, Raster.decodeImage⟩
    let j : JobId := ⟨⟨⟨0⟩, 1⟩, range.key⟩
    let events := [.load ⟨0⟩ Uuid.numbered reader "a $x$ b", .request ⟨0⟩, .request ⟨0⟩,
      .step j, .answer j, .step j, .step j]
    let s := play replies (new {}) events
    ∃ d, s.documents.get? ⟨0⟩ = some d ∧ d.phase = .renderRequested ∧
      (s.result? j.batch).isNone = true ∧
      ((perform replies s (.step j)).result? j.batch).isSome = true ∧
      ∀ d', (perform replies s (.step j)).documents.get? ⟨0⟩ = some d' → d'.phase = d.phase := by
  intro range reader bitmap replies j events s
  have hrun : Admissible replies (new {}) events :=
    ⟨⟨rfl, fun _ => rfl⟩, trivial, trivial, trivial, trivial, trivial, trivial, trivial⟩
  have hisOpen : (s.documents.get? ⟨0⟩).isSome = true := by decide +kernel
  obtain ⟨d, hopen⟩ := Option.isSome_iff_exists.mp hisOpen
  have hrequested : requestsOf replies ⟨0⟩ (new {}) events = [j.batch, ⟨⟨0⟩, 2⟩] := by decide +kernel
  have hbefore : (s.result? j.batch).isNone = true := by decide +kernel
  have hafter : ((perform replies s (.step j)).result? j.batch).isSome = true := by decide +kernel
  obtain ⟨-, hphase, holder, -⟩ := phase_spec replies {} events ⟨0⟩ d hrun hopen
  refine ⟨d, hopen, ?_, hbefore, hafter, ?_⟩
  · rw [hphase]
    decide +kernel
  · refine holder (.step j) j.batch trivial ?_ ?_ (Option.isNone_iff_eq_none.mp hbefore) hafter
    · rw [hrequested]
      exact List.mem_cons_self
    · rw [hrequested]
      decide

end Session
end Formulary
