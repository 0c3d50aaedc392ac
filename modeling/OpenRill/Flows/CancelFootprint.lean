import OpenRill.Flows.Registry

/-!
# What a request to cancel changes

`requestCancel` goes through the transition of a flow to the status it has, and that sets
what a wait or a block left behind anew. So the request changes the cancellation only when
there is nothing of the kind.
-/

namespace OpenRill.Flows.CancelFootprint

open Lib Lib.Checked Registry
open Goals.Ledger (FlowStatus flowTerminal flowText)

variable {options : FlowOptions} {store : FlowStore} {request : FlowRequest} {flow : FlowRow}
variable {requestedAt now : Nat}

/-- Nothing changed but the cancellation, the update time and the revision of the flow, and
at most one event was added, which is the flow's. -/
structure Footprint (flow : FlowRow) (before after : FlowStore) : Prop where
  row : ∃ cancelled updated revision, after.flows.find flow.flowId =
    some { flow with cancelRequestedAt := cancelled, updatedAt := updated, revision := revision }
  others : ∀ flowId, flowId ≠ flow.flowId → after.flows.find flowId = before.flows.find flowId
  links : after.links = before.links
  events : after.events = before.events ∨
    ∃ event, event.flowId = flow.flowId ∧ after.events = before.events ++ [event]

structure Carried (options : FlowOptions) (store : FlowStore) (request : FlowRequest)
    (flow : FlowRow) (now : Nat) : Prop where
  owned : owned options store request = .ok flow
  first : flow.cancelRequestedAt = none
  revision : flow.revision = request.expectedRevision
  blocked : flow.status = .blocked →
    requireBlockedTask store flow.flowId flow.blockedTaskId = .ok ()
  later : flow.createdAt ≤ now

/-- A transition to the status it has leaves the flow as it is. -/
structure NothingToReset (flow : FlowRow) : Prop where
  wait : flow.wait = .null
  blockedSummary : flow.blockedSummary = none
  blockedTask : flow.status ≠ .blocked → flow.blockedTaskId = none
  endedAt : flow.endedAt = none

def cancelled (flow : FlowRow) (requestedAt now : Nat) : FlowRow :=
  { flow with
    blockedTaskId := if flow.status = .blocked then flow.blockedTaskId else none
    blockedSummary := none
    wait := .null
    cancelRequestedAt := some requestedAt
    updatedAt := now
    endedAt := none
    revision := flow.revision + 1 }

def payload (flow : FlowRow) : Json :=
  .object [("from", .text (flowText flow.status)), ("to", .text (flowText flow.status)),
    ("currentStep", optionalJson flow.currentStep),
    ("blockedTaskId", optionalJson (cancelled flow 0 0).blockedTaskId)]

def written (store : FlowStore) (flow : FlowRow) (requestedAt now : Nat) : FlowStore :=
  let updated := cancelled flow requestedAt now
  { store with
    flows := store.flows.update updated
    events := store.events ++ [store.nextEvent updated .cancelRequested (payload flow) now] }

theorem owned_is_found (found : owned options store request = .ok flow) :
    store.flows.find (Lib.Text.trim request.flowId) = some flow := by
  simp only [owned, bounded, bind_ok_iff, require_ok_iff, pure_ok_iff, fetch_ok_iff] at found
  obtain ⟨_, -, _, -, _, ⟨-, -, rfl⟩, other, isFound, -, -, -, -, rfl⟩ := found
  exact isFound

theorem requestCancel_carried (carried : Carried options store request flow now)
    (active : flowTerminal flow.status = false)
    (known : store.flows.find flow.flowId = some flow) :
    (requestCancel options request requestedAt now store).bind store.apply =
      .ok (written store flow requestedAt now) := by
  have decided : requestCancel options request requestedAt now store =
      .ok (.update flow.flowId (cancelled flow requestedAt now).toFlowFields none
        .cancelRequested (payload flow)) := by
    have isNull : assertJson .null "wait" = .ok .null := rfl
    have linked := carried.blocked
    unfold requestCancel mutate
    rw [carried.owned]
    by_cases blocked : flow.status = .blocked
    · simp [bind, Except.bind, pure, Except.pure, require, carried.first, carried.revision,
        keptUnless, onlyWhen, linked blocked, blocked, optionalBounded, cancelled, payload,
        flowTerminal]
    · simp [bind, Except.bind, pure, Except.pure, require, active, carried.first,
        carried.revision, keptUnless, onlyWhen, blocked, cancelled, payload, isNull]
  rw [decided]
  simp [Except.bind, FlowStore.apply, bind, known, fetch, require, carried.later, cancelled,
    written, FlowStore.linkTask, pure, Except.pure]

theorem carried_of_ok {reached : FlowStore}
    (ran : (requestCancel options request requestedAt now store).bind store.apply = .ok reached)
    (names : Lib.Text.trim request.flowId = flow.flowId)
    (known : store.flows.find flow.flowId = some flow) :
    reached = store ∨ Carried options store request flow now := by
  obtain ⟨change, decided, applied⟩ := (bind_ok_iff _ _ _).mp ran
  obtain ⟨found, isOwned, decided⟩ := (bind_ok_iff _ _ _).mp decided
  have isFlow : found = flow := by
    have isFound := owned_is_found isOwned
    rw [names, known] at isFound
    exact (Option.some.inj isFound).symm
  subst isFlow
  split at decided
  next =>
    rw [← (pure_ok_iff _ _).mp decided] at applied
    exact .inl ((pure_ok_iff _ _).mp applied).symm
  next open_ =>
    right
    push Not at open_
    simp only [mutate, isOwned, bind_ok_iff, require_ok_iff, pure_ok_iff, keptUnless] at decided
    obtain ⟨flow, same, _, revision, _, -, _, -, _, rfl, _, linked, _, -, _, -, _, -, _, -, rfl⟩ :=
      decided
    cases same
    simp only [FlowStore.apply, bind_ok_iff, require_ok_iff, fetch_ok_iff, known] at applied
    obtain ⟨_, same, -, ⟨later, -⟩, -⟩ := applied
    cases same
    refine ⟨isOwned, open_.2, revision, ?_, later⟩
    intro blocked
    exact (if_pos blocked).symm.trans linked

theorem step_carried (carried : Carried options store request flow now)
    (active : flowTerminal flow.status = false)
    (known : store.flows.find flow.flowId = some flow) :
    step options store (.requestCancel request requestedAt now) =
      written store flow requestedAt now := by
  unfold step settle FlowOp.change
  rw [requestCancel_carried carried active known]

theorem step_idle (idle : ¬ Carried options store request flow now)
    (names : Lib.Text.trim request.flowId = flow.flowId)
    (known : store.flows.find flow.flowId = some flow) :
    step options store (.requestCancel request requestedAt now) = store := by
  unfold step settle FlowOp.change
  split
  next reached ran => exact (carried_of_ok ran names known).resolve_right idle
  next => rfl

theorem find_written (known : store.flows.find flow.flowId = some flow) (flowId : String) :
    (written store flow requestedAt now).flows.find flowId =
      if flow.flowId = flowId then some (cancelled flow requestedAt now)
      else store.flows.find flowId :=
  store.flows.find_update (cancelled flow requestedAt now) known flowId

theorem cancelled_eq_iff (requestedAt now : Nat) :
    (∃ asked updated revision, cancelled flow requestedAt now =
      { flow with cancelRequestedAt := asked, updatedAt := updated, revision := revision }) ↔
      NothingToReset flow := by
  constructor
  · rintro ⟨asked, updated, revision, same⟩
    refine ⟨(congrArg (fun row => row.wait) same).symm,
      (congrArg (fun row => row.blockedSummary) same).symm, ?_,
      (congrArg (fun row => row.endedAt) same).symm⟩
    intro notBlocked
    have task : (cancelled flow requestedAt now).blockedTaskId = flow.blockedTaskId :=
      congrArg (fun row => row.blockedTaskId) same
    exact task.symm.trans (if_neg notBlocked)
  · intro clean
    refine ⟨some requestedAt, now, flow.revision + 1, ?_⟩
    have task : (if flow.status = .blocked then flow.blockedTaskId else none) =
        flow.blockedTaskId := by
      split
      next => rfl
      next notBlocked => exact (clean.blockedTask notBlocked).symm
    unfold cancelled
    rw [task, ← clean.wait, ← clean.blockedSummary, ← clean.endedAt]

/-- A request to cancel a flow that goes on has the minimal footprint exactly when it is not
carried out or the transition has nothing to reset. -/
theorem requestCancel_footprint_iff (known : store.flows.find flow.flowId = some flow)
    (active : flowTerminal flow.status = false)
    (names : Lib.Text.trim request.flowId = flow.flowId) :
    Footprint flow store (step options store (.requestCancel request requestedAt now)) ↔
      (Carried options store request flow now → NothingToReset flow) := by
  constructor
  · intro footprint carried
    obtain ⟨asked, updated, revision, stored⟩ := footprint.row
    rw [step_carried carried active known, find_written known, if_pos rfl] at stored
    exact (cancelled_eq_iff requestedAt now).mp ⟨asked, updated, revision, Option.some.inj stored⟩
  · intro clean
    by_cases carried : Carried options store request flow now
    · rw [step_carried carried active known]
      obtain ⟨asked, updated, revision, same⟩ :=
        (cancelled_eq_iff requestedAt now).mpr (clean carried)
      refine ⟨⟨asked, updated, revision, ?_⟩, ?_, rfl, .inr ⟨_, rfl, rfl⟩⟩
      · rw [find_written known, if_pos rfl, same]
      · intro flowId another
        rw [find_written known, if_neg (Ne.symm another)]
    · rw [step_idle carried names known]
      exact ⟨⟨_, _, _, known⟩, fun _ _ => rfl, rfl, .inl rfl⟩

def sampleRequest (expectedRevision : Nat) : FlowRequest :=
  ⟨"main", "c1", sampleFlowId, expectedRevision⟩

theorem running_flow_only_cancelled : ∃ flow, sampleStore.flows.find sampleFlowId = some flow ∧
    Footprint flow sampleStore
      (step sampleOptions sampleStore (.requestCancel (sampleRequest 1) 2 2)) := by
  have fresh : (sampleStore.flows.find sampleFlowId).map (fun flow => (flow.wait,
      flow.blockedSummary, flow.blockedTaskId, flow.endedAt, flowTerminal flow.status)) =
        some (.null, none, none, none, false) := by
    decide +kernel
  obtain ⟨flow, known, fields⟩ := Option.map_eq_some_iff.mp fresh
  simp only [Prod.mk.injEq] at fields
  obtain ⟨wait, summary, task, ended, active⟩ := fields
  have isFlow : flow.flowId = sampleFlowId := sampleStore.flows.key_of_find known
  have trimmed : Lib.Text.trim sampleFlowId = sampleFlowId := by decide +kernel
  refine ⟨flow, known, (requestCancel_footprint_iff ?_ active ?_).mpr ?_⟩
  · rw [isFlow]
    exact known
  · exact trimmed.trans isFlow.symm
  · intro _
    exact ⟨wait, summary, fun _ => task, ended⟩

def waitingStore : FlowStore :=
  step sampleOptions sampleStore (.mutate (sampleRequest 1)
    { targetStatus := .waiting, event := .waiting, wait := .text "child" } 2)

/-- The request to cancel a waiting flow drops what it waits for. -/
theorem waiting_flow_loses_wait : ∃ flow, waitingStore.flows.find sampleFlowId = some flow ∧
    flowTerminal flow.status = false ∧
    ¬ Footprint flow waitingStore
      (step sampleOptions waitingStore (.requestCancel (sampleRequest 2) 3 3)) := by
  have waits : (waitingStore.flows.find sampleFlowId).map (fun flow => (flow.wait,
      flowTerminal flow.status)) = some (.text "child", false) := by
    decide +kernel
  have dropped : ((step sampleOptions waitingStore (.requestCancel (sampleRequest 2) 3 3)).flows.find
      sampleFlowId).map (fun flow => flow.wait) = some .null := by
    decide +kernel
  obtain ⟨flow, known, fields⟩ := Option.map_eq_some_iff.mp waits
  simp only [Prod.mk.injEq] at fields
  refine ⟨flow, known, fields.2, ?_⟩
  intro footprint
  obtain ⟨asked, updated, revision, stored⟩ := footprint.row
  rw [waitingStore.flows.key_of_find known] at stored
  rw [stored] at dropped
  have isNull : flow.wait = .null := Option.some.inj dropped
  rw [fields.1] at isNull
  cases isNull

end OpenRill.Flows.CancelFootprint
