import OpenRill.Wakes.OneWake

/-!
# Deliveries with the tasks they come from

Every write of the status of a completion delivery has a second one beside it, of the
status that the source task shows. Here the transactions of `TaskCompletionDeliveryService`
and the end of a task stand with both. A task ends once; when its policy asks for it, the
same transaction inserts the delivery.
-/

namespace OpenRill.Wakes.SourceTasks

open Lib Lib.Runs Lib.Transaction Goals.Ledger Delivery OneWake

inductive NotifyPolicy where
  | doneOnly
  | stateChanges
  | silent
  deriving DecidableEq

structure SourceTaskRow where
  taskId : String
  status : TaskStatus
  notifyPolicy : NotifyPolicy
  deliveryStatus : DeliveryStatus
  revision : Nat
  deriving DecidableEq

structure SourceTables where
  wakes : WakeTables
  tasks : Table SourceTaskRow.taskId

def SourceTables.empty : SourceTables where
  wakes := WakeTables.empty
  tasks := Table.empty

abbrev SourceTransaction := Transaction SourceTables String

def onWakes {Value : Type} (body : WakeTransaction Value) : SourceTransaction Value :=
  focus SourceTables.wakes (fun tables wakes => { tables with wakes := wakes }) body

def updateDeliveryState (taskId : String) (status : DeliveryStatus) :
    SourceTransaction Unit := do
  let tables ← inspect id
  let current ← expect (tables.tasks.find taskId) ("background task missing: " ++ taskId)
  whenever (current.deliveryStatus ≠ status)
    (change (fun tables =>
      { tables with
        tasks := tables.tasks.update
          { current with deliveryStatus := status, revision := current.revision + 1 } }))

def createTask (taskId : String) (policy : NotifyPolicy) : SourceTransaction Unit :=
  tryChange
    (fun tables =>
      (tables.tasks.insert
        { taskId := taskId
          status := .queued
          notifyPolicy := policy
          deliveryStatus := .notApplicable
          revision := 1 }).map (fun tasks => { tables with tasks := tasks }))
    "UNIQUE constraint failed: background_tasks.task_id"

def willDeliver (task : SourceTaskRow) (status : TaskStatus) : Bool :=
  taskTerminal status && decide (task.notifyPolicy ≠ .silent)

def syncTask (input : NewDelivery) : SourceTransaction Unit := do
  let tables ← inspect id
  let current ← expect (tables.tasks.find input.taskId)
    ("background task missing for run " ++ input.taskId)
  whenever (taskTerminal current.status = false) (do
    change (fun tables =>
      { tables with
        tasks := tables.tasks.update
          { current with
            status := input.taskStatus
            deliveryStatus :=
              if willDeliver current input.taskStatus then .pending
              else current.deliveryStatus
            revision := current.revision + 1 } })
    whenever (willDeliver current input.taskStatus = true) (onWakes (recordDelivery input)))

def admitWake (options : WakeOptions) (fresh : DeliveryRow) (flow : ManagedFlowRow)
    (call : DispatchCall) : SourceTransaction Queued := do
  let snapshot ← onWakes (bindControllerSnapshot fresh.deliveryId fresh.revision flow call.now)
  let bound ← expect snapshot "task completion delivery changed during controller snapshot binding"
  let sent ← onWakes (sendSystemInTransaction options
    { workspaceId := bound.workspaceId
      conversationId := bound.ownerConversationId
      submissionKey := submissionKey options bound
      text := systemText bound } call)
  let admitted ← onWakes (updateDelivery (admission bound sent call.now))
  let updated ← expect admitted "task completion delivery changed during queue admission"
  updateDeliveryState bound.taskId .sessionQueued
  onWakes (otherLedgers call.admissionRefusal)
  onWakes (recordWake bound.deliveryId sent.run.runId)
  pure { delivery := updated, replayed := sent.replayed, wakeStatus := some sent.run.status }

def queueWake (options : WakeOptions) (deliveryId : String) (call : DispatchCall) :
    SourceTransaction Queued := do
  let tables ← inspect SourceTables.wakes
  let fresh ← expect (tables.deliveries.find deliveryId)
    ("task completion delivery not found: " ++ deliveryId)
  if fresh.deliveryStatus = .delivered ∨ fresh.deliveryStatus = .notApplicable then
    pure { delivery := fresh, replayed := true, wakeStatus := none }
  else if fresh.deliveryStatus = .sessionQueued ∧ fresh.wakeRunId.isSome then
    pure
      { delivery := fresh
        replayed := true
        wakeStatus := (fresh.wakeRunId.bind tables.runs.find).map WakeRunRow.status }
  else do
    let flowId ← expect fresh.flowId "task completion delivery has no managed Flow binding"
    let controllerId ← expect fresh.controllerId
      "task completion delivery has no managed Flow binding"
    let flow ← expect (tables.flows.find flowId) "task completion delivery Flow is missing"
    demand
      (flow.workspaceId = fresh.workspaceId ∧ flow.ownerKey = fresh.ownerConversationId ∧
        flow.controllerId = controllerId)
      "task completion delivery owner binding changed"
    if FlowStatus.ended flow.status = true ∨ flow.cancelRequestedAt.isSome then do
      let suppressed ← onWakes (updateDelivery (suppression fresh call.now))
      let updated ← expect suppressed
        "task completion delivery changed while suppressing terminal Flow wake"
      updateDeliveryState fresh.taskId .notApplicable
      onWakes (otherLedgers call.admissionRefusal)
      pure { delivery := updated, replayed := false, wakeStatus := none }
    else admitWake options fresh flow call

def recordFailure (deliveryId message : String) (call : DispatchCall) :
    SourceTransaction (Option DeliveryRow) := do
  let tables ← inspect SourceTables.wakes
  match tables.deliveries.find deliveryId with
  | none => pure none
  | some fresh =>
    if fresh.deliveryStatus = .delivered then pure (some fresh)
    else do
      let updated ← onWakes (updateDelivery (failure fresh message call.now))
      whenever (updated.isSome = true) (updateDeliveryState fresh.taskId .failed)
      onWakes (otherLedgers call.recordRefusal)
      pure updated

def completeWakeRun (wakeRunId : String) (now : Nat) (refusal : Option String) :
    SourceTransaction (Option DeliveryRow) := do
  let tables ← inspect SourceTables.wakes
  match getByWakeRun tables wakeRunId with
  | none => pure none
  | some delivery =>
    if delivery.deliveryStatus = .delivered then pure (some delivery)
    else
      match tables.runs.find wakeRunId with
      | none => pure (some delivery)
      | some wake =>
        if wake.status.terminal = true then do
          let updated ← onWakes (updateDelivery (completion delivery wake now))
          whenever (updated.isSome = true)
            (updateDeliveryState delivery.taskId (completion delivery wake now).deliveryStatus)
          onWakes (otherLedgers refusal)
          pure updated
        else pure (some delivery)

def caught (deliveryId message : String) (call : DispatchCall) (tables : SourceTables) :
    SourceTables × Answer :=
  match (recordFailure deliveryId message call).run tables with
  | .ok (some _, reached) => (reached, .returned)
  | .ok (none, reached) => (reached, .threw)
  | .error _ => (tables, .threw)

def replayWake (wakeRunId : String) (call : DispatchCall) (tables : SourceTables) :
    SourceTables × Answer :=
  match tables.wakes.runs.find wakeRunId with
  | none => (tables, .returned)
  | some wake =>
    if wake.status.terminal = true then
      match (completeWakeRun wakeRunId call.now call.recordRefusal).run tables with
      | .ok (_, reached) => (reached, .returned)
      | .error _ => (tables, .threw)
    else if schedulable (some wake.status) = true then (tables, call.scheduling.answer)
    else (tables, .returned)

def tryWake (options : WakeOptions) (deliveryId : String) (call : DispatchCall)
    (tables : SourceTables) : SourceTables × Answer :=
  match (queueWake options deliveryId call).run tables with
  | .error message => caught deliveryId message call tables
  | .ok (queued, reached) =>
    if queued.delivery.wakeRunId.isSome ∧ schedulable queued.wakeStatus = true then
      match call.scheduling with
      | .answers _ => (reached, .returned)
      | .throws message => caught deliveryId message call reached
      | .stops => (reached, .stopped)
    else (reached, .returned)

def dispatch (options : WakeOptions) (deliveryId : String) (call : DispatchCall)
    (tables : SourceTables) : SourceTables × Answer :=
  match tables.wakes.deliveries.find deliveryId with
  | none => (tables, .threw)
  | some current =>
    if current.deliveryStatus = .delivered ∨ current.deliveryStatus = .notApplicable then
      (tables, .returned)
    else
      match current.wakeRunId with
      | some wakeRunId =>
        if current.deliveryStatus = .sessionQueued then replayWake wakeRunId call tables
        else tryWake options deliveryId call tables
      | none => tryWake options deliveryId call tables

def dispatchEach (options : WakeOptions) :
    List String → List DispatchCall → SourceTables → SourceTables
  | deliveryId :: deliveryIds, call :: calls, tables =>
    match dispatch options deliveryId call tables with
    | (reached, .returned) => dispatchEach options deliveryIds calls reached
    | (reached, _) => reached
  | _, _, tables => tables

inductive SourceOp where
  | createTask (taskId : String) (policy : NotifyPolicy)
  | wake (op : WakeOp)

def wakeStep (options : WakeOptions) (tables : SourceTables) : WakeOp → SourceTables
  | .recordDelivery input => perform (syncTask input) tables
  | .createRun runId => perform (onWakes (createRun runId)) tables
  | .moveRun runId status events => perform (onWakes (moveRun runId status events)) tables
  | .dispatch deliveryId call => (dispatch options deliveryId call tables).1
  | .deliverRun taskId calls =>
    dispatchEach options (undelivered tables.wakes taskId) calls tables
  | .drain limit calls => dispatchEach options (actionable tables.wakes limit) calls tables
  | .completeWakeRun wakeRunId now refusal =>
    perform (completeWakeRun wakeRunId now refusal) tables
  | op => { tables with wakes := surroundings tables.wakes op }

def step (options : WakeOptions) (tables : SourceTables) : SourceOp → SourceTables
  | .createTask taskId policy => perform (createTask taskId policy) tables
  | .wake op => wakeStep options tables op

def reach (options : WakeOptions) (ops : List SourceOp) : SourceTables :=
  run (step options) SourceTables.empty ops

end OpenRill.Wakes.SourceTasks
