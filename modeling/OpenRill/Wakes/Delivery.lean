import OpenRill.Lib.Table
import OpenRill.Lib.Text
import OpenRill.Lib.Transaction
import OpenRill.State.RunStatus
import OpenRill.Goals.Ledger

/-!
# Task completion deliveries and their wake Runs

`TaskCompletionDeliveryService` hands a terminal child task to its controller: a
transaction admits a wake Run in the owner's conversation, and the coordinator
is asked to schedule it afterwards, inside the same `try`. An error is its
message. The rows of tasks, of goals and of the two event ledgers are written
and never read here; what such a write throws is part of a call.

`wakes` is not a table: it records every wake Run a delivery was given, with the
earlier ones that had not ended by then, and no operation reads it.
-/

namespace OpenRill.Wakes.Delivery

open Lib Lib.Text Lib.Transaction State Goals.Ledger

inductive DeliveryStatus where
  | pending
  | sessionQueued
  | delivered
  | failed
  | notApplicable
  deriving DecidableEq

structure DeliveryPayload where
  output : Option String
  terminalSummary : Option String
  errorCode : Option String
  deriving DecidableEq

structure DeliveryRow where
  deliveryId : String
  taskId : String
  taskEventSequence : Nat
  flowId : Option String
  workspaceId : String
  ownerConversationId : String
  controllerId : Option String
  deliveryStatus : DeliveryStatus
  taskStatus : TaskStatus
  terminalOutcome : Option TaskOutcome
  idempotencyKey : String
  payload : DeliveryPayload
  attemptCount : Nat
  lastError : Option String
  systemMessageId : Option String
  wakeRunId : Option String
  controllerExecutionRevision : Option Nat
  controllerStepRevision : Option Nat
  controllerFlowRevision : Option Nat
  updatedAt : Nat
  deliveredAt : Option Nat
  revision : Nat
  deriving DecidableEq

/-- The flow of a delivery, with the revisions that the goal tables have of its
execution and current step. -/
structure ManagedFlowRow where
  flowId : String
  workspaceId : String
  ownerKey : String
  controllerId : String
  status : FlowStatus
  cancelRequestedAt : Option Nat
  revision : Nat
  executionRevision : Option Nat
  stepRevision : Option Nat
  deriving DecidableEq

structure RunEvent where
  eventType : String
  toolName : Option String
  isError : Option Bool
  deriving DecidableEq

structure WakeRunRow where
  runId : String
  status : RunStatus
  events : List RunEvent
  deriving DecidableEq

structure ConversationRow where
  conversationId : String
  workspaceId : String
  deriving DecidableEq

structure SubmissionRow where
  conversationId : String
  submissionKey : String
  inputHash : String
  messageId : String
  runId : String
  deriving DecidableEq

def SubmissionRow.submission (row : SubmissionRow) : String × String :=
  (row.conversationId, row.submissionKey)

structure WakeRecord where
  deliveryId : String
  runId : String
  unfinished : List String
  deriving DecidableEq

structure WakeTables where
  deliveries : Table DeliveryRow.deliveryId
  flows : Table ManagedFlowRow.flowId
  conversations : Table ConversationRow.conversationId
  runs : Table WakeRunRow.runId
  submissions : Table SubmissionRow.submission
  wakes : List WakeRecord

def WakeTables.empty : WakeTables where
  deliveries := Table.empty
  flows := Table.empty
  conversations := Table.empty
  runs := Table.empty
  submissions := Table.empty
  wakes := []

abbrev WakeTransaction := Transaction WakeTables String

def ended (tables : WakeTables) (runId : String) : Bool :=
  (tables.runs.find runId).any (fun run => run.status.terminal)

structure DeliveryUpdate where
  deliveryId : String
  expectedRevision : Nat
  deliveryStatus : DeliveryStatus
  attemptCount : Nat
  lastError : Option String
  systemMessageId : Option String
  wakeRunId : Option String
  updatedAt : Nat
  deliveredAt : Option Nat

def DeliveryRow.updatedBy (row : DeliveryRow) (input : DeliveryUpdate) : DeliveryRow :=
  { row with
    deliveryStatus := input.deliveryStatus
    attemptCount := input.attemptCount
    lastError := input.lastError
    systemMessageId := input.systemMessageId
    wakeRunId := input.wakeRunId
    updatedAt := input.updatedAt
    deliveredAt := input.deliveredAt
    revision := row.revision + 1 }

/-- `UPDATE … WHERE delivery_id = … AND revision = … RETURNING`. -/
def updateDelivery (input : DeliveryUpdate) : WakeTransaction (Option DeliveryRow) := do
  let tables ← inspect id
  match tables.deliveries.find input.deliveryId with
  | none => pure none
  | some row =>
    if row.revision = input.expectedRevision then do
      change (fun tables =>
        { tables with deliveries := tables.deliveries.update (row.updatedBy input) })
      pure (some (row.updatedBy input))
    else pure none

def DeliveryRow.boundTo (row : DeliveryRow) (flow : ManagedFlowRow) (now : Nat) : DeliveryRow :=
  { row with
    controllerExecutionRevision := flow.executionRevision
    controllerStepRevision := flow.stepRevision
    controllerFlowRevision := some flow.revision
    updatedAt := now
    revision := row.revision + 1 }

def bindControllerSnapshot (deliveryId : String) (expectedRevision : Nat)
    (flow : ManagedFlowRow) (now : Nat) : WakeTransaction (Option DeliveryRow) := do
  let tables ← inspect id
  match tables.deliveries.find deliveryId with
  | none => pure none
  | some row =>
    if row.revision = expectedRevision then do
      change (fun tables =>
        { tables with deliveries := tables.deliveries.update (row.boundTo flow now) })
      pure (some (row.boundTo flow now))
    else pure none

def getByWakeRun (tables : WakeTables) (wakeRunId : String) : Option DeliveryRow :=
  tables.deliveries.rows.find? (fun row => decide (row.wakeRunId = some wakeRunId))

/-- `ORDER BY task_event_sequence, delivery_id`. -/
def sequencedBefore (first second : DeliveryRow) : Prop :=
  first.taskEventSequence < second.taskEventSequence ∨
    (first.taskEventSequence = second.taskEventSequence ∧ first.deliveryId ≤ second.deliveryId)

instance : DecidableRel sequencedBefore := fun first second => by
  unfold sequencedBefore
  infer_instance

def listForTask (tables : WakeTables) (taskId : String) (limit : Nat) : List DeliveryRow :=
  ((tables.deliveries.rows.filter (fun row => decide (row.taskId = taskId))).insertionSort
    sequencedBefore).take limit

/-- `ORDER BY updated_at, delivery_id`. -/
def updatedBefore (first second : DeliveryRow) : Prop :=
  first.updatedAt < second.updatedAt ∨
    (first.updatedAt = second.updatedAt ∧ first.deliveryId ≤ second.deliveryId)

instance : DecidableRel updatedBefore := fun first second => by
  unfold updatedBefore
  infer_instance

def listActionable (tables : WakeTables) (limit : Nat) : List DeliveryRow :=
  ((tables.deliveries.rows.filter (fun row =>
    decide (row.deliveryStatus = .pending ∨ row.deliveryStatus = .sessionQueued ∨
      row.deliveryStatus = .failed))).insertionSort updatedBefore).take limit

def taskStatusText : TaskStatus → String
  | .queued => "QUEUED"
  | .running => "RUNNING"
  | .succeeded => "SUCCEEDED"
  | .failed => "FAILED"
  | .timedOut => "TIMED_OUT"
  | .cancelled => "CANCELLED"
  | .lost => "LOST"

def outcomeText : TaskOutcome → String
  | .succeeded => "SUCCEEDED"
  | .blocked => "BLOCKED"

def runStatusText : RunStatus → String
  | .created => "CREATED"
  | .running => "RUNNING"
  | .waitingApproval => "WAITING_APPROVAL"
  | .completed => "COMPLETED"
  | .failed => "FAILED"
  | .cancelled => "CANCELLED"

/-- The text, cut to `limit` code units with an ellipsis. -/
def ellipsized (limit : Nat) (text : String) : String :=
  if utf16Length text ≤ limit then text else sliceUnits (limit - 3) text ++ "..."

def errorMessage (text : String) : String := ellipsized 2000 text

def optionalLine (label : String) (text : Option String) : List String :=
  match text with
  | some text => if text = "" then [] else [label ++ text]
  | none => []

def systemText (delivery : DeliveryRow) : String :=
  let output := delivery.payload.output.getD ""
  let lines :=
    [ "[OpenRill Task Flow completion delivery]",
      "flowId=" ++ delivery.flowId.getD "none",
      "taskId=" ++ delivery.taskId,
      "taskStatus=" ++ taskStatusText delivery.taskStatus,
      "terminalOutcome=" ++ (delivery.terminalOutcome.map outcomeText).getD "none" ] ++
    optionalLine "summary=" delivery.payload.terminalSummary ++
    optionalLine "errorCode=" delivery.payload.errorCode ++
    (if output = "" then [] else ["output:", output]) ++
    ["Review this durable child result. Use only the bound task_flow controller tools to run the next child, wait, finish, fail, or cancel the Flow."]
  ellipsized 65536 (String.intercalate "\n" lines)

def controllerDecisionTools : List String :=
  [ "task_flow.run", "task_flow.wait", "task_flow.block", "task_flow.finish",
    "task_flow.fail", "task_flow.cancel" ]

def successfulControllerDecision (events : List RunEvent) : Option String :=
  (events.reverse.find? (fun event =>
    event.eventType == "tool.completed" &&
      event.toolName.any (fun name => decide (name ∈ controllerDecisionTools)) &&
      event.isError == some false)).bind RunEvent.toolName

/-- The workspaces of the host, its digest, and the digest of a system text with
its role. -/
structure WakeOptions where
  workspaceIds : List String
  sha256 : String → String
  systemHash : String → String

/-- What the coordinator does when it is asked to schedule a run, and the host
stopping before it answers. -/
inductive Scheduling where
  | answers (scheduled : Bool)
  | throws (message : String)
  | stops
  deriving DecidableEq

/-- The clock, the new identifiers and the surroundings of one dispatch. The two
last fields are what the other ledgers throw in the admission and in the record
of a failure. -/
structure DispatchCall where
  now : Nat
  messageId : String
  runId : String
  scheduling : Scheduling
  admissionRefusal : Option String
  recordRefusal : Option String

/-- The statements of a transaction on tables that are not modelled. -/
def otherLedgers (refusal : Option String) : WakeTransaction Unit :=
  match refusal with
  | some message => fail message
  | none => pure ()

structure SystemSubmission where
  workspaceId : String
  conversationId : String
  submissionKey : String
  text : String

structure Sent where
  messageId : String
  run : WakeRunRow
  replayed : Bool

def bounded (value label : String) (max : Nat) (pattern : String → Bool) :
    WakeTransaction Unit :=
  demand (1 ≤ utf16Length value ∧ utf16Length value ≤ max ∧ pattern value = true)
    ("invalid " ++ label)

def validateSendInput (options : WakeOptions) (input : SystemSubmission) :
    WakeTransaction Unit := do
  bounded input.workspaceId "workspaceId" 64 matchesWorkspacePattern
  demand (input.workspaceId ∈ options.workspaceIds)
    ("workspace access denied: " ++ input.workspaceId)
  bounded input.conversationId "conversationId" 128 (fun _ => true)
  bounded input.submissionKey "submissionKey" 128 matchesKeyPattern
  bounded input.text "text" 65536 (fun _ => true)

/-- `sendSystemInTransaction`: a repeated submission returns the run it made. -/
def sendSystemInTransaction (options : WakeOptions) (input : SystemSubmission)
    (call : DispatchCall) : WakeTransaction Sent := do
  validateSendInput options input
  let tables ← inspect id
  let conversation ← expect (tables.conversations.find input.conversationId)
    "conversation not found"
  demand (conversation.workspaceId = input.workspaceId)
    "conversation belongs to a different workspace"
  match tables.submissions.find (conversation.conversationId, input.submissionKey) with
  | some existing => do
      demand (existing.inputHash = options.systemHash input.text)
        "submission key reused with different input"
      let run ← expect (tables.runs.find existing.runId) "submission references missing ledger rows"
      pure { messageId := existing.messageId, run := run, replayed := true }
  | none => do
      let run : WakeRunRow :=
        { runId := call.runId, status := .created, events := [] }
      tryChange
        (fun tables => (tables.runs.insert run).map (fun runs => { tables with runs := runs }))
        "UNIQUE constraint failed: agent_runs.run_id"
      tryChange
        (fun tables =>
          (tables.submissions.insert
            { conversationId := conversation.conversationId
              submissionKey := input.submissionKey
              inputHash := options.systemHash input.text
              messageId := call.messageId
              runId := call.runId }).map
            (fun submissions => { tables with submissions := submissions }))
        "UNIQUE constraint failed: conversation_submissions.submission_key"
      pure { messageId := call.messageId, run := run, replayed := false }

structure Queued where
  delivery : DeliveryRow
  replayed : Bool
  wakeStatus : Option RunStatus

def suppression (delivery : DeliveryRow) (now : Nat) : DeliveryUpdate where
  deliveryId := delivery.deliveryId
  expectedRevision := delivery.revision
  deliveryStatus := .notApplicable
  attemptCount := delivery.attemptCount
  lastError := none
  systemMessageId := delivery.systemMessageId
  wakeRunId := delivery.wakeRunId
  updatedAt := now
  deliveredAt := none

def admission (delivery : DeliveryRow) (sent : Sent) (now : Nat) : DeliveryUpdate where
  deliveryId := delivery.deliveryId
  expectedRevision := delivery.revision
  deliveryStatus := .sessionQueued
  attemptCount := delivery.attemptCount + 1
  lastError := none
  systemMessageId := some sent.messageId
  wakeRunId := some sent.run.runId
  updatedAt := now
  deliveredAt := none

def FlowStatus.ended : FlowStatus → Bool
  | .succeeded => true
  | .failed => true
  | .cancelled => true
  | .lost => true
  | _ => false

def recordWake (deliveryId runId : String) : WakeTransaction Unit :=
  change (fun tables =>
    { tables with
      wakes := tables.wakes ++
        [{ deliveryId := deliveryId
           runId := runId
           unfinished := (tables.wakes.filter (fun wake =>
             decide (wake.deliveryId = deliveryId) && !ended tables wake.runId &&
               decide (wake.runId ≠ runId))).map WakeRecord.runId }] })

def submissionKey (options : WakeOptions) (delivery : DeliveryRow) : String :=
  "delivery-wake:" ++ sliceUnits 48
    (options.sha256 (delivery.idempotencyKey ++ ":" ++ toString (delivery.attemptCount + 1)))

/-- The wake Run of a delivery whose flow still takes one. -/
def admitWake (options : WakeOptions) (fresh : DeliveryRow) (flow : ManagedFlowRow)
    (call : DispatchCall) : WakeTransaction Queued := do
  let snapshot ← bindControllerSnapshot fresh.deliveryId fresh.revision flow call.now
  let bound ← expect snapshot "task completion delivery changed during controller snapshot binding"
  let sent ← sendSystemInTransaction options
    { workspaceId := bound.workspaceId
      conversationId := bound.ownerConversationId
      submissionKey := submissionKey options bound
      text := systemText bound } call
  let admitted ← updateDelivery (admission bound sent call.now)
  let updated ← expect admitted "task completion delivery changed during queue admission"
  otherLedgers call.admissionRefusal
  recordWake bound.deliveryId sent.run.runId
  pure { delivery := updated, replayed := sent.replayed, wakeStatus := some sent.run.status }

/-- The transaction of `dispatch`. -/
def queueWake (options : WakeOptions) (deliveryId : String) (call : DispatchCall) :
    WakeTransaction Queued := do
  let tables ← inspect id
  let fresh ← expect (tables.deliveries.find deliveryId)
    ("task completion delivery not found: " ++ deliveryId)
  if fresh.deliveryStatus = .delivered ∨ fresh.deliveryStatus = .notApplicable then
    pure { delivery := fresh, replayed := true, wakeStatus := none }
  else if fresh.deliveryStatus = .sessionQueued ∧ fresh.wakeRunId.isSome then
    pure
      { delivery := fresh
        replayed := true
        wakeStatus := (fresh.wakeRunId.bind tables.runs.find).map WakeRunRow.status }
  else do
    let flowId ← expect fresh.flowId "task completion delivery has no managed Flow binding"
    let controllerId ← expect fresh.controllerId
      "task completion delivery has no managed Flow binding"
    let flow ← expect (tables.flows.find flowId) "task completion delivery Flow is missing"
    demand
      (flow.workspaceId = fresh.workspaceId ∧ flow.ownerKey = fresh.ownerConversationId ∧
        flow.controllerId = controllerId)
      "task completion delivery owner binding changed"
    if FlowStatus.ended flow.status = true ∨ flow.cancelRequestedAt.isSome then do
      let suppressed ← updateDelivery (suppression fresh call.now)
      let updated ← expect suppressed
        "task completion delivery changed while suppressing terminal Flow wake"
      otherLedgers call.admissionRefusal
      pure { delivery := updated, replayed := false, wakeStatus := none }
    else admitWake options fresh flow call

def failure (delivery : DeliveryRow) (message : String) (now : Nat) : DeliveryUpdate where
  deliveryId := delivery.deliveryId
  expectedRevision := delivery.revision
  deliveryStatus := .failed
  attemptCount := delivery.attemptCount + 1
  lastError := some (errorMessage message)
  systemMessageId := delivery.systemMessageId
  wakeRunId := delivery.wakeRunId
  updatedAt := now
  deliveredAt := none

/-- The transaction of the `catch` of `dispatch`; `none` rethrows the error. -/
def recordFailure (deliveryId message : String) (call : DispatchCall) :
    WakeTransaction (Option DeliveryRow) := do
  let tables ← inspect id
  match tables.deliveries.find deliveryId with
  | none => pure none
  | some fresh =>
    if fresh.deliveryStatus = .delivered then pure (some fresh)
    else do
      let updated ← updateDelivery (failure fresh message call.now)
      otherLedgers call.recordRefusal
      pure updated

def completion (delivery : DeliveryRow) (wake : WakeRunRow) (now : Nat) : DeliveryUpdate :=
  let delivered := (successfulControllerDecision wake.events).isSome
  { deliveryId := delivery.deliveryId
    expectedRevision := delivery.revision
    deliveryStatus := if delivered then .delivered else .failed
    attemptCount := delivery.attemptCount
    lastError :=
      if delivered then none
      else if wake.status = .completed then
        some "CONTROLLER_DECISION_REQUIRED: wake Run completed without a successful bound Task Flow decision"
      else
        some ("CONTROLLER_WAKE_" ++ runStatusText wake.status ++
          ": wake Run ended before a successful bound Task Flow decision")
    systemMessageId := delivery.systemMessageId
    wakeRunId := some wake.runId
    updatedAt := now
    deliveredAt := if delivered then some now else none }

def completeWakeRun (wakeRunId : String) (now : Nat) (refusal : Option String) :
    WakeTransaction (Option DeliveryRow) := do
  let tables ← inspect id
  match getByWakeRun tables wakeRunId with
  | none => pure none
  | some delivery =>
    if delivery.deliveryStatus = .delivered then pure (some delivery)
    else
      match tables.runs.find wakeRunId with
      | none => pure (some delivery)
      | some wake =>
        if wake.status.terminal = true then do
          let updated ← updateDelivery (completion delivery wake now)
          otherLedgers refusal
          pure updated
        else pure (some delivery)

structure Binding where
  delivery : DeliveryRow
  flowId : String
  workspaceId : String
  ownerKey : String
  controllerId : String

def bindingForWakeRun (tables : WakeTables) (wakeRunId : String) : Option Binding := do
  let delivery ← getByWakeRun tables wakeRunId
  let flowId ← delivery.flowId
  let controllerId ← delivery.controllerId
  let flow ← tables.flows.find flowId
  if flow.workspaceId = delivery.workspaceId ∧
      flow.ownerKey = delivery.ownerConversationId ∧ flow.controllerId = controllerId then
    some
      { delivery := delivery
        flowId := flow.flowId
        workspaceId := flow.workspaceId
        ownerKey := flow.ownerKey
        controllerId := flow.controllerId }
  else none

inductive Answer where
  | returned
  | threw
  | stopped
  deriving DecidableEq

def Scheduling.answer : Scheduling → Answer
  | .answers _ => .returned
  | .throws _ => .threw
  | .stops => .stopped

def schedulable (status : Option RunStatus) : Bool :=
  decide (status = some .created ∨ status = some .running)

def caught (deliveryId message : String) (call : DispatchCall) (tables : WakeTables) :
    WakeTables × Answer :=
  match (recordFailure deliveryId message call).run tables with
  | .ok (some _, reached) => (reached, .returned)
  | .ok (none, reached) => (reached, .threw)
  | .error _ => (tables, .threw)

def replayWake (wakeRunId : String) (call : DispatchCall) (tables : WakeTables) :
    WakeTables × Answer :=
  match tables.runs.find wakeRunId with
  | none => (tables, .returned)
  | some wake =>
    if wake.status.terminal = true then
      match (completeWakeRun wakeRunId call.now call.recordRefusal).run tables with
      | .ok (_, reached) => (reached, .returned)
      | .error _ => (tables, .threw)
    else if schedulable (some wake.status) = true then (tables, call.scheduling.answer)
    else (tables, .returned)

/-- The `try` of `dispatch`: the admission commits before the run is scheduled,
and an error of either goes to the same `catch`. -/
def tryWake (options : WakeOptions) (deliveryId : String) (call : DispatchCall)
    (tables : WakeTables) : WakeTables × Answer :=
  match (queueWake options deliveryId call).run tables with
  | .error message => caught deliveryId message call tables
  | .ok (queued, reached) =>
    if queued.delivery.wakeRunId.isSome ∧ schedulable queued.wakeStatus = true then
      match call.scheduling with
      | .answers _ => (reached, .returned)
      | .throws message => caught deliveryId message call reached
      | .stops => (reached, .stopped)
    else (reached, .returned)

def dispatch (options : WakeOptions) (deliveryId : String) (call : DispatchCall)
    (tables : WakeTables) : WakeTables × Answer :=
  match tables.deliveries.find deliveryId with
  | none => (tables, .threw)
  | some current =>
    if current.deliveryStatus = .delivered ∨ current.deliveryStatus = .notApplicable then
      (tables, .returned)
    else
      match current.wakeRunId with
      | some wakeRunId =>
        if current.deliveryStatus = .sessionQueued then replayWake wakeRunId call tables
        else tryWake options deliveryId call tables
      | none => tryWake options deliveryId call tables

/-- The loops of `deliverRun` and `drain`: one dispatch after the other, until
one does not come back or the host stops, which is where `calls` ends. -/
def dispatchEach (options : WakeOptions) :
    List String → List DispatchCall → WakeTables → WakeTables
  | deliveryId :: deliveryIds, call :: calls, tables =>
    match dispatch options deliveryId call tables with
    | (reached, .returned) => dispatchEach options deliveryIds calls reached
    | (reached, _) => reached
  | _, _, tables => tables

def undelivered (tables : WakeTables) (taskId : String) : List String :=
  ((listForTask tables taskId 100).filter (fun row =>
    decide (row.deliveryStatus ≠ .delivered ∧ row.deliveryStatus ≠ .notApplicable))).map
      DeliveryRow.deliveryId

def actionable (tables : WakeTables) (limit : Nat) : List String :=
  (listActionable tables limit).map DeliveryRow.deliveryId

end OpenRill.Wakes.Delivery
