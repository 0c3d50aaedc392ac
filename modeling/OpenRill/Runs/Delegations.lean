import OpenRill.Lib.Forest
import OpenRill.Runs.Ledger

/-!
# The delegation tables

Budget envelopes, delegations, reservations, waits and result deliveries with
the operations of `StateDelegationRepository`. A reservation is either open or
released with what its child was charged, so the CHECK of its table cannot fail.
The append-only table of delegation events is read by the public view alone and
is left out.
-/

namespace OpenRill.Runs.Delegations

open Lib Lib.Transaction State Ledger

/-- `DelegationBudgetEnvelope`: the ceilings of a run and of its delegations. -/
structure DelegationBudget where
  execution : ExecutionBudget
  maxDelegationDepth : Nat
  maxActiveChildren : Nat
  maxTotalChildren : Nat
  deriving DecidableEq

def DelegationBudget.capacity (budget : DelegationBudget) : Capacity where
  turns := budget.execution.maxTurns
  modelCalls := budget.execution.maxModelCalls
  toolCalls := budget.execution.maxToolCalls
  totalTokens := budget.execution.maxTotalTokens

structure DelegationScope where
  workspaceIds : List String
  skillIds : List String
  toolNames : List String
  deriving DecidableEq

structure EnvelopeRow where
  runId : String
  rootRunId : String
  parentRunId : Option String
  depth : Nat
  budget : DelegationBudget
  deadlineAt : Nat
  scope : DelegationScope
  used : Usage
  delegatedUsed : Usage
  createdAt : Nat
  updatedAt : Nat
  depthBounded : budget.maxDelegationDepth ≤ 16
  deriving DecidableEq

/-- `effectiveUsage`: own usage with what descendants were charged. -/
def EnvelopeRow.effectiveUsage (row : EnvelopeRow) : Usage := row.used + row.delegatedUsed

inductive DelegationStatus where
  | created
  | running
  | waiting
  | ended (outcome : DelegationOutcome)
  deriving DecidableEq

/-- `ACTIVE_DELEGATION`. -/
def DelegationStatus.active : DelegationStatus → Bool
  | .ended _ => false
  | _ => true

/-- A delegation row, with the CHECK on its depth. -/
structure DelegationRow where
  delegationId : String
  idempotencyKey : String
  rootRunId : String
  parentRunId : String
  parentAttemptId : String
  parentToolCallId : Option String
  childConversationId : String
  childRunId : String
  depth : Nat
  status : DelegationStatus
  taskSha256 : String
  scope : DelegationScope
  expectedOutput : ExpectedOutput
  resultSummarySha256 : Option String
  createdAt : Nat
  startedAt : Option Nat
  endedAt : Option Nat
  updatedAt : Nat
  depthBounded : 1 ≤ depth ∧ depth ≤ 16
  deriving DecidableEq

/-- A reservation is open, or released with its reason and charge. -/
inductive ReservationState where
  | reserved
  | released (reason : DelegationOutcome) (charged : Usage) (releasedAt : Nat)
  deriving DecidableEq

structure ReservationRow where
  delegationId : String
  parentRunId : String
  childRunId : String
  reserved : Capacity
  state : ReservationState
  createdAt : Nat
  updatedAt : Nat
  deriving DecidableEq

def ReservationRow.held (row : ReservationRow) : Capacity :=
  match row.state with
  | .reserved => row.reserved
  | .released _ _ _ => 0

def ReservationRow.charged (row : ReservationRow) : Usage :=
  match row.state with
  | .reserved => 0
  | .released _ charged _ => charged

structure WaitRow where
  parentRunId : String
  delegationId : String
  createdAt : Nat
  updatedAt : Nat
  deriving DecidableEq

inductive ResultDeliveryState where
  | pending
  | delivered (resultSha256 : String) (deliveredAt : Nat)
  deriving DecidableEq

structure ResultDeliveryRow where
  delegationId : String
  parentRunId : String
  parentAttemptId : String
  parentToolCallId : String
  toolName : String
  state : ResultDeliveryState
  createdAt : Nat
  updatedAt : Nat
  deriving DecidableEq

structure DelegationStore where
  envelopes : Table EnvelopeRow.runId
  delegations : Table DelegationRow.delegationId
  reservations : Table ReservationRow.delegationId
  waits : Table WaitRow.delegationId
  resultDeliveries : Table ResultDeliveryRow.delegationId

def DelegationStore.empty : DelegationStore where
  envelopes := Table.empty
  delegations := Table.empty
  reservations := Table.empty
  waits := Table.empty
  resultDeliveries := Table.empty

abbrev DelegationTransaction := Transaction DelegationStore RunFailure

def insertBudgetEnvelope (row : EnvelopeRow) : DelegationTransaction Unit :=
  tryChange
    (fun store => (store.envelopes.insert row).map
      (fun envelopes => { store with envelopes := envelopes }))
    (.constraint "run_budget_envelopes.run_id")

def EnvelopeRow.reporting (row : EnvelopeRow) (used : Usage) (now : Nat) : EnvelopeRow :=
  { row with used := used, updatedAt := now }

def updateBudgetUsage (runId : String) (used : Usage) (now : Nat) :
    DelegationTransaction Unit := do
  let envelope ← inspect (fun store => store.envelopes.find runId)
  let row ← expect envelope (inconsistent "run budget usage target missing")
  change (fun store => { store with envelopes := store.envelopes.update (row.reporting used now) })

def getDelegationByChildRun (store : DelegationStore) (childRunId : String) :
    Option DelegationRow :=
  store.delegations.rows.find? (fun row => decide (row.childRunId = childRunId))

def getDelegationByIdempotency (store : DelegationStore)
    (parentRunId idempotencyKey : String) : Option DelegationRow :=
  store.delegations.rows.find? (fun row =>
    decide (row.parentRunId = parentRunId ∧ row.idempotencyKey = idempotencyKey))

/-- The insert meets `UNIQUE (child_run_id)`, `UNIQUE (parent_run_id,
idempotency_key)` and the CHECK that a run is not its own child. -/
def insertDelegation (row : DelegationRow) : DelegationTransaction Unit := do
  let store ← inspect id
  demand (getDelegationByChildRun store row.childRunId = none)
    (.constraint "run_delegations.child_run_id")
  demand (getDelegationByIdempotency store row.parentRunId row.idempotencyKey = none)
    (.constraint "run_delegations.idempotency_key")
  demand (row.parentRunId ≠ row.childRunId) (.constraint "run_delegations.parent_run_id")
  tryChange
    (fun store => (store.delegations.insert row).map
      (fun delegations => { store with delegations := delegations }))
    (.constraint "run_delegations.delegation_id")

def DelegationRow.moved (row : DelegationRow) (status : DelegationStatus)
    (startedAt endedAt : Option Nat) (resultSha256 : Option String) (now : Nat) :
    DelegationRow :=
  { row with
    status := status
    startedAt := row.startedAt <|> startedAt
    endedAt := endedAt
    resultSummarySha256 := resultSha256 <|> row.resultSummarySha256
    updatedAt := now }

def updateDelegationStatus (delegationId : String) (status : DelegationStatus)
    (startedAt endedAt : Option Nat) (resultSha256 : Option String) (now : Nat) :
    DelegationTransaction Unit := do
  let delegation ← inspect (fun store => store.delegations.find delegationId)
  let row ← expect delegation (inconsistent "delegation update target missing")
  change (fun store =>
    { store with
      delegations := store.delegations.update
        (row.moved status startedAt endedAt resultSha256 now) })

def directChildren (store : DelegationStore) (parentRunId : String) : List DelegationRow :=
  store.delegations.rows.filter (fun row => decide (row.parentRunId = parentRunId))

/-- The recursion of the descendant query, a level at a time. -/
def descendantsBelow (store : DelegationStore) : Nat → String → List DelegationRow :=
  Forest.below (directChildren store) DelegationRow.childRunId

def shallowerFirst (first second : DelegationRow) : Prop :=
  first.depth < second.depth ∨
    (first.depth = second.depth ∧
      (first.createdAt < second.createdAt ∨
        (first.createdAt = second.createdAt ∧ first.delegationId ≤ second.delegationId)))

instance : DecidableRel shallowerFirst := fun first second => by
  unfold shallowerFirst
  infer_instance

/-- All descendants of a run. No delegation is deeper than sixteen, so sixteen
levels reach every one. -/
def listDescendantsOfRun (store : DelegationStore) (parentRunId : String) :
    List DelegationRow :=
  (descendantsBelow store 16 parentRunId).insertionSort shallowerFirst

structure ReservationSummary where
  activeChildren : Nat
  totalChildren : Nat
  reserved : Capacity
  deriving DecidableEq

def reservationsOf (store : DelegationStore) (parentRunId : String) : List ReservationRow :=
  store.reservations.rows.filter (fun row => decide (row.parentRunId = parentRunId))

def reservationSummary (store : DelegationStore) (parentRunId : String) :
    ReservationSummary where
  activeChildren :=
    (reservationsOf store parentRunId).countP (fun row => decide (row.state = .reserved))
  totalChildren := (directChildren store parentRunId).length
  reserved := ((reservationsOf store parentRunId).map ReservationRow.held).sum

/-- The insert meets the primary key and `UNIQUE (child_run_id)`. -/
def insertBudgetReservation (row : ReservationRow) : DelegationTransaction Unit := do
  let store ← inspect id
  demand (∀ other ∈ store.reservations.rows, other.childRunId ≠ row.childRunId)
    (.constraint "run_delegation_budget_reservations.child_run_id")
  tryChange
    (fun store => (store.reservations.insert row).map
      (fun reservations => { store with reservations := reservations }))
    (.constraint "run_delegation_budget_reservations.delegation_id")

def ReservationRow.releasedAs (row : ReservationRow) (reason : DelegationOutcome)
    (charged : Usage) (now : Nat) : ReservationRow :=
  { row with state := .released reason charged now, updatedAt := now }

def EnvelopeRow.charging (row : EnvelopeRow) (charged : Usage) (now : Nat) : EnvelopeRow :=
  { row with delegatedUsed := row.delegatedUsed + charged, updatedAt := now }

/-- Releases an open reservation and charges the parent, or checks a repeated
release against the durable one. Returns whether it released. -/
def releaseBudgetReservation (delegationId : String) (reason : DelegationOutcome)
    (usage : Usage) (now : Nat) : DelegationTransaction Bool := do
  let found ← inspect (fun store => store.reservations.find delegationId)
  let current ← expect found (inconsistent "delegation budget reservation is missing")
  match current.state with
  | .released durableReason durableCharge _ => do
      demand (durableReason = reason ∧ durableCharge = usage)
        (inconsistent "delegation budget release conflicts with durable charge")
      pure false
  | .reserved => do
      change (fun store =>
        { store with
          reservations := store.reservations.update (current.releasedAs reason usage now) })
      let envelope ← inspect (fun store => store.envelopes.find current.parentRunId)
      let parent ← expect envelope
        (inconsistent "delegation parent budget charge target is missing")
      change (fun store =>
        { store with envelopes := store.envelopes.update (parent.charging usage now) })
      pure true

/-- `INSERT … ON CONFLICT(parent_run_id, delegation_id) DO UPDATE`; a delegation
waits for one parent only. -/
def insertWait (parentRunId delegationId : String) (now : Nat) :
    DelegationTransaction Unit := do
  let wait ← inspect (fun store => store.waits.find delegationId)
  match wait with
  | some row => do
      demand (row.parentRunId = parentRunId) (.constraint "run_delegation_waits.delegation_id")
      change (fun store => { store with waits := store.waits.update { row with updatedAt := now } })
  | none =>
    tryChange
      (fun store =>
        (store.waits.insert
          { parentRunId := parentRunId
            delegationId := delegationId
            createdAt := now
            updatedAt := now }).map
          (fun waits => { store with waits := waits }))
      (.constraint "run_delegation_waits.delegation_id")

def isWait (parentRunId delegationId : String) (row : WaitRow) : Bool :=
  decide (row.parentRunId = parentRunId ∧ row.delegationId = delegationId)

def deleteWait (parentRunId delegationId : String) : DelegationTransaction Bool := do
  let removed ← inspect (fun store => store.waits.rows.any (isWait parentRunId delegationId))
  change (fun store =>
    { store with waits := store.waits.deleteWhere (isWait parentRunId delegationId) })
  pure removed

def hasActiveWait (store : DelegationStore) (parentRunId : String) : Bool :=
  store.waits.rows.any (fun row => decide (row.parentRunId = parentRunId))

def getResultDeliveryByToolCall (store : DelegationStore)
    (parentRunId parentToolCallId : String) : Option ResultDeliveryRow :=
  store.resultDeliveries.rows.find? (fun row =>
    decide (row.parentRunId = parentRunId ∧ row.parentToolCallId = parentToolCallId))

/-- The insert meets the primary key and `UNIQUE (parent_run_id,
parent_tool_call_id)`. -/
def insertResultDelivery (row : ResultDeliveryRow) : DelegationTransaction Unit := do
  let store ← inspect id
  demand (getResultDeliveryByToolCall store row.parentRunId row.parentToolCallId = none)
    (.constraint "run_delegation_result_deliveries.parent_tool_call_id")
  tryChange
    (fun store => (store.resultDeliveries.insert row).map
      (fun deliveries => { store with resultDeliveries := deliveries }))
    (.constraint "run_delegation_result_deliveries.delegation_id")

def markResultDelivered (delegationId resultSha256 : String) (now : Nat) :
    DelegationTransaction Unit := do
  let delivery ← inspect (fun store => store.resultDeliveries.find delegationId)
  let missing := inconsistent "delegation result delivery target missing or not pending"
  let row ← expect delivery missing
  demand (row.state = .pending) missing
  change (fun store =>
    { store with
      resultDeliveries := store.resultDeliveries.update
        { row with state := .delivered resultSha256 now, updatedAt := now } })

structure RunTables where
  ledger : RunStore
  delegations : DelegationStore

def RunTables.empty : RunTables where
  ledger := RunStore.empty
  delegations := DelegationStore.empty

abbrev RunTransaction := Transaction RunTables RunFailure

def RunTables.withLedger (tables : RunTables) (ledger : RunStore) : RunTables :=
  { tables with ledger := ledger }

def RunTables.withDelegations (tables : RunTables) (delegations : DelegationStore) :
    RunTables :=
  { tables with delegations := delegations }

def onLedger {Value : Type} (body : LedgerTransaction Value) : RunTransaction Value :=
  focus RunTables.ledger RunTables.withLedger body

def onDelegations {Value : Type} (body : DelegationTransaction Value) :
    RunTransaction Value :=
  focus RunTables.delegations RunTables.withDelegations body

end OpenRill.Runs.Delegations
