import Mathlib.Data.List.Sort
import OpenRill.Lib.Json
import OpenRill.Lib.Table
import OpenRill.Lib.Text
import OpenRill.Lib.Transaction
import OpenRill.State.Failure
import OpenRill.State.RunStatus
import OpenRill.State.Usage

/-!
# The conversation and task tables

The rows of runs, attempts, run events, messages and background tasks, and the
operations of `StateConversationRepository` and `StateTaskRepository` that the
run lifecycle uses. Every write of a run status goes through `updateRun`, which
projects it onto the background task of the run in the same transaction.
Messages and events are lists in the order in which they were inserted.
-/

namespace OpenRill.Runs.Ledger

open Lib Lib.Text Lib.Transaction State

inductive ConversationErrorCode where
  | invalidArgument
  | workspaceAccessDenied
  | conversationNotFound
  | runNotFound
  | submissionConflict
  | runStateInvalid
  | eventSequenceConflict
  | eventIdempotencyConflict
  | delegationBudgetConflict
  | delegationBudgetNotConfigured
  | delegationIdempotencyConflict
  | delegationScopeEscalation
  | delegationBudgetEscalation
  | delegationDepthExceeded
  | delegationTimeBudgetExceeded
  | delegationActiveChildLimit
  | delegationTotalChildLimit
  | delegationBudgetExceeded
  | delegationNotFound
  deriving DecidableEq

abbrev RunFailure := Failure ConversationErrorCode

inductive AttemptStatus where
  | created
  | running
  | waitingApproval
  | completed
  | failed
  | cancelled
  | aborted
  deriving DecidableEq

/-- `input.status as LedgerAttemptStatus`. -/
def attemptStatusOf : RunStatus → AttemptStatus
  | .created => .created
  | .running => .running
  | .waitingApproval => .waitingApproval
  | .completed => .completed
  | .failed => .failed
  | .cancelled => .cancelled

def AttemptStatus.ended : AttemptStatus → Bool
  | .completed => true
  | .failed => true
  | .cancelled => true
  | .aborted => true
  | _ => false

structure ConversationRow where
  conversationId : String
  workspaceId : String
  lastMessageSequence : Nat
  deriving DecidableEq

structure ConversationInput where
  conversationId : String
  workspaceId : String
  deriving DecidableEq

structure RunRow where
  runId : String
  conversationId : String
  triggerMessageId : Option String
  status : RunStatus
  recoveryState : RecoveryState
  currentAttemptId : Option String
  lastEventSequence : Nat
  createdAt : Nat
  startedAt : Option Nat
  endedAt : Option Nat
  updatedAt : Nat
  deriving DecidableEq

structure ExecutionBudget where
  maxTurns : Nat
  maxModelCalls : Nat
  maxToolCalls : Nat
  maxOutputTokens : Nat
  maxTotalTokens : Nat
  maxDurationMs : Nat
  deriving DecidableEq

structure AttemptRow where
  attemptId : String
  runId : String
  attemptNumber : Nat
  status : AttemptStatus
  startedAt : Option Nat
  endedAt : Option Nat
  recoveryReason : Option String
  providerId : Option String
  modelId : Option String
  budget : Option ExecutionBudget
  used : Usage
  terminalReason : Option String
  createdAt : Nat
  updatedAt : Nat
  deriving DecidableEq

abbrev Payload := Json

def optionalText : Option String → Json
  | some value => .text value
  | none => .null

structure EventRow where
  runId : String
  sequence : Nat
  eventId : String
  attemptId : Option String
  eventType : String
  payload : Payload
  idempotencyKey : Option String
  emittedAt : Nat
  deriving DecidableEq

inductive MessageRole where
  | user
  | assistant
  | tool
  | system
  deriving DecidableEq

inductive DelegationOutcome where
  | completed
  | failed
  | cancelled
  | timedOut
  deriving DecidableEq

inductive ExpectedOutput where
  | text
  | json
  | artifacts
  deriving DecidableEq

structure ArtifactReference where
  artifactId : String
  kind : String
  workspaceId : String
  relativePath : Option String
  sizeBytes : Nat
  deriving DecidableEq

/-- `DelegationTerminalResult`, what a parent receives of a child. -/
structure TerminalResult where
  delegationId : String
  childRunId : String
  status : DelegationOutcome
  expectedOutput : ExpectedOutput
  summary : Option String
  artifacts : List ArtifactReference
  usage : Usage
  errorCode : Option String
  truncated : Bool
  deriving DecidableEq

/-- The output of a tool call: the canonical text of a tool's own output, or the
result of a delegated child. -/
inductive ToolOutput where
  | canonical (text : String)
  | delegation (result : TerminalResult)
  deriving DecidableEq

inductive MessageContent where
  | text (text : String)
  | assistant (text : String)
  | toolResult (toolCallId name : String) (output : ToolOutput) (isError : Bool)
  deriving DecidableEq

structure MessageRow where
  messageId : String
  conversationId : String
  sequence : Nat
  role : MessageRole
  content : MessageContent
  createdAt : Nat
  deriving DecidableEq

structure MessageInput where
  messageId : String
  conversationId : String
  role : MessageRole
  content : MessageContent
  createdAt : Nat
  deriving DecidableEq

def MessageInput.toRow (input : MessageInput) (sequence : Nat) : MessageRow where
  messageId := input.messageId
  conversationId := input.conversationId
  sequence := sequence
  role := input.role
  content := input.content
  createdAt := input.createdAt

structure SubmissionRow where
  conversationId : String
  submissionKey : String
  inputHash : String
  messageId : String
  runId : String
  createdAt : Nat
  deriving DecidableEq

def SubmissionRow.submission (row : SubmissionRow) : String × String :=
  (row.conversationId, row.submissionKey)

structure ArtifactRow where
  runId : String
  reference : ArtifactReference
  deriving DecidableEq

inductive TaskRuntime where
  | conversation
  | delegation
  | automation
  deriving DecidableEq

inductive TaskStatus where
  | queued
  | running
  | succeeded
  | failed
  | timedOut
  | cancelled
  | lost
  deriving DecidableEq

def TaskStatus.terminal : TaskStatus → Bool
  | .queued => false
  | .running => false
  | _ => true

inductive NotifyPolicy where
  | doneOnly
  | stateChanges
  | silent
  deriving DecidableEq

inductive DeliveryState where
  | notApplicable
  | pending
  | sessionQueued
  | delivered
  | failed
  deriving DecidableEq

inductive TaskOutcome where
  | succeeded
  | blocked
  deriving DecidableEq

structure TaskRow where
  taskId : String
  workspaceId : String
  conversationId : String
  runId : String
  parentTaskId : Option String
  runtime : TaskRuntime
  taskKind : String
  sourceId : Option String
  taskText : String
  status : TaskStatus
  recoveryState : RecoveryState
  notifyPolicy : NotifyPolicy
  deliveryStatus : DeliveryState
  terminalOutcome : Option TaskOutcome
  progressSummary : Option String
  terminalSummary : Option String
  errorCode : Option String
  createdAt : Nat
  startedAt : Option Nat
  endedAt : Option Nat
  updatedAt : Nat
  revision : Nat
  deriving DecidableEq

/-- `task_flow_tasks`: the managed flow of a child task. -/
structure FlowLinkRow where
  taskId : String
  flowId : String
  deriving DecidableEq

structure RunStore where
  conversations : Table ConversationRow.conversationId
  messages : List MessageRow
  submissions : Table SubmissionRow.submission
  runs : Table RunRow.runId
  attempts : Table AttemptRow.attemptId
  events : List EventRow
  artifacts : List ArtifactRow
  tasks : Table TaskRow.taskId
  flowLinks : Table FlowLinkRow.taskId

def RunStore.empty : RunStore where
  conversations := Table.empty
  messages := []
  submissions := Table.empty
  runs := Table.empty
  attempts := Table.empty
  events := []
  artifacts := []
  tasks := Table.empty
  flowLinks := Table.empty

abbrev LedgerTransaction := Transaction RunStore RunFailure

def inconsistent (message : String) : RunFailure := .state .schemaInconsistent message

def insertAttempt (row : AttemptRow) : LedgerTransaction Unit :=
  tryChange
    (fun store => (store.attempts.insert row).map
      (fun attempts => { store with attempts := attempts }))
    (.constraint "run_attempts.attempt_id")

/-- `SELECT COALESCE(MAX(attempt_number),0)+1`. -/
def nextAttemptNumber (store : RunStore) (runId : String) : Nat :=
  ((store.attempts.rows.filter (fun row => decide (row.runId = runId))).map
    AttemptRow.attemptNumber).foldr max 0 + 1

def emptyAttempt (attemptId runId : String) (attemptNumber now : Nat) : AttemptRow where
  attemptId := attemptId
  runId := runId
  attemptNumber := attemptNumber
  status := .created
  startedAt := none
  endedAt := none
  recoveryReason := none
  providerId := none
  modelId := none
  budget := none
  used := 0
  terminalReason := none
  createdAt := now
  updatedAt := now

/-- `UPDATE run_attempts … WHERE attempt_id = …`, which must change a row. -/
def rewriteAttempt (attemptId : String) (rewrite : AttemptRow → AttemptRow)
    (missing : String) : LedgerTransaction Unit := do
  let attempt ← inspect (fun store => store.attempts.find attemptId)
  let row ← expect attempt (inconsistent missing)
  change (fun store => { store with attempts := store.attempts.update (rewrite row) })

def updateAttempt (attemptId : String) (status : AttemptStatus)
    (startedAt endedAt : Option Nat) (recoveryReason : Option String) (now : Nat) :
    LedgerTransaction Unit :=
  rewriteAttempt attemptId
    (fun row =>
      { row with
        status := status
        startedAt := row.startedAt <|> startedAt
        endedAt := endedAt
        recoveryReason := recoveryReason
        updatedAt := now })
    "attempt update target missing"

def configureAttempt (attemptId providerId modelId : String) (budget : ExecutionBudget)
    (now : Nat) : LedgerTransaction Unit :=
  rewriteAttempt attemptId
    (fun row =>
      { row with
        providerId := some providerId
        modelId := some modelId
        budget := some budget
        updatedAt := now })
    "attempt configuration target missing"

def updateAttemptUsage (attemptId : String) (used : Usage) (terminalReason : Option String)
    (now : Nat) : LedgerTransaction Unit :=
  rewriteAttempt attemptId
    (fun row =>
      { row with
        used := used
        terminalReason := terminalReason <|> row.terminalReason
        updatedAt := now })
    "attempt usage target missing"

def aggregateRunUsage (store : RunStore) (runId : String) : Usage :=
  ((store.attempts.rows.filter (fun row => decide (row.runId = runId))).map AttemptRow.used).sum

def aggregateRunUsageExcluding (store : RunStore) (runId attemptId : String) : Usage :=
  ((store.attempts.rows.filter (fun row =>
    decide (row.runId = runId ∧ row.attemptId ≠ attemptId))).map AttemptRow.used).sum

def getTaskByRun (store : RunStore) (runId : String) : Option TaskRow :=
  store.tasks.rows.find? (fun row => decide (row.runId = runId))

def taskForRun (run : RunRow) (workspaceId taskText : String) : TaskRow where
  taskId := "task:" ++ run.runId
  workspaceId := workspaceId
  conversationId := run.conversationId
  runId := run.runId
  parentTaskId := none
  runtime := .conversation
  taskKind := "agent.run"
  sourceId := none
  taskText := taskText
  status := .queued
  recoveryState := .none
  notifyPolicy := .silent
  deliveryStatus := .notApplicable
  terminalOutcome := none
  progressSummary := some "Queued"
  terminalSummary := none
  errorCode := none
  createdAt := run.createdAt
  startedAt := none
  endedAt := none
  updatedAt := run.createdAt
  revision := 1

structure Classification where
  runtime : TaskRuntime
  taskKind : String
  sourceId : Option String
  parentRunId : Option String
  notifyPolicy : Option NotifyPolicy

def TaskRow.classifiedAs (task : TaskRow) (input : Classification)
    (parentTaskId : Option String) (now : Nat) : TaskRow :=
  { task with
    parentTaskId := parentTaskId
    runtime := input.runtime
    taskKind := input.taskKind
    sourceId := input.sourceId
    notifyPolicy := input.notifyPolicy.getD
      (if input.taskKind = "task_flow.child" then .doneOnly else task.notifyPolicy)
    updatedAt := now
    revision := task.revision + 1 }

def parentTaskOf (store : RunStore) (task : TaskRow) : Option String → Option String
  | some parentRunId => (getTaskByRun store parentRunId).map TaskRow.taskId
  | none => task.parentTaskId

/-- A repeated classification writes nothing. -/
def classifyRun (runId : String) (input : Classification) (now : Nat) :
    LedgerTransaction Unit := do
  let store ← inspect id
  let task ← expect (getTaskByRun store runId)
    (.unexpected ("background task missing for run " ++ runId))
  let classified := task.classifiedAs input (parentTaskOf store task input.parentRunId) now
  if task.runtime = classified.runtime ∧ task.taskKind = classified.taskKind ∧
      task.sourceId = classified.sourceId ∧ task.parentTaskId = classified.parentTaskId ∧
      task.notifyPolicy = classified.notifyPolicy then
    pure ()
  else
    change (fun store => { store with tasks := store.tasks.update classified })

/-- The run fields that `syncRunLifecycle` projects. -/
structure RunUpdate where
  runId : String
  status : RunStatus
  recoveryState : RecoveryState
  currentAttemptId : Option String
  startedAt : Option Nat
  endedAt : Option Nat
  updatedAt : Nat
  /-- `taskProjectionStatus: "LOST"` with its error code. -/
  lost : Option String
  /-- `taskCompletionText`. -/
  completionText : Option String

def attemptReason (store : RunStore) (attemptId : Option String) : Option String :=
  (attemptId.bind store.attempts.find).bind AttemptRow.terminalReason

def projectedStatus (store : RunStore) (task : TaskRow) (input : RunUpdate) : TaskStatus :=
  if input.lost.isSome then .lost
  else
    match input.status with
    | .created =>
      if input.recoveryState = .resumable ∧
          (task.startedAt.isSome ∨ input.startedAt.isSome) then .running
      else .queued
    | .running => .running
    | .waitingApproval => .running
    | .completed => .succeeded
    | .cancelled => .cancelled
    | .failed =>
      if attemptReason store input.currentAttemptId =
          some "AGENT_TIME_BUDGET_EXCEEDED" then .timedOut
      else .failed

def projectedError (store : RunStore) (input : RunUpdate) : TaskStatus → Option String
  | .lost => some (input.lost.getD "RUNTIME_AUTHORITY_LOST")
  | .failed => some ((attemptReason store input.currentAttemptId).getD "RUN_FAILED")
  | .timedOut => some ((attemptReason store input.currentAttemptId).getD "RUN_FAILED")
  | .cancelled => some "OPERATOR_CANCELLED"
  | _ => none

def terminalText : TaskStatus → Option String
  | .succeeded => some "Completed"
  | .cancelled => some "Cancelled"
  | .timedOut => some "Timed out"
  | .failed => some "Failed"
  | .lost => some "Lost"
  | _ => none

def progressText (task : TaskRow) (input : RunUpdate) (status : TaskStatus) :
    Option String :=
  if input.status = .waitingApproval then some "Waiting for approval"
  else if input.status = .created ∧ input.recoveryState = .resumable then
    some "Waiting for host resume"
  else
    match status with
    | .queued => some "Queued"
    | .running => some "Running"
    | _ => task.progressSummary

/-- The completion of a required child task: its outcome and summary, decided
from the completion text. -/
abbrev CompletionRule := Option String → TaskOutcome × String

def completionOf (rule : CompletionRule) (task : TaskRow) (input : RunUpdate)
    (status : TaskStatus) : Option (TaskOutcome × String) :=
  if status = .succeeded ∧ task.taskKind = "task_flow.child" then
    some (rule input.completionText)
  else none

def willDeliver (task : TaskRow) (status : TaskStatus) : Bool :=
  status.terminal && decide (task.notifyPolicy ≠ .silent)

def TaskRow.projected (rule : CompletionRule) (store : RunStore) (task : TaskRow)
    (input : RunUpdate) : TaskRow :=
  let status := projectedStatus store task input
  let completion := completionOf rule task input status
  { task with
    status := status
    recoveryState := input.recoveryState
    deliveryStatus := if willDeliver task status then .pending else task.deliveryStatus
    terminalOutcome := completion.map Prod.fst
    progressSummary := progressText task input status
    terminalSummary := completion.map Prod.snd <|> terminalText status
    errorCode := projectedError store input status
    startedAt := task.startedAt <|> input.startedAt <|>
      (if status = .running then some input.updatedAt else none)
    endedAt := if status.terminal then some (input.endedAt.getD input.updatedAt) else none
    updatedAt := input.updatedAt
    revision := task.revision + 1 }

def sameProjection (task projected : TaskRow) : Prop :=
  task.status = projected.status ∧ task.recoveryState = projected.recoveryState ∧
    task.progressSummary = projected.progressSummary ∧
    task.errorCode = projected.errorCode ∧
    task.terminalOutcome = projected.terminalOutcome ∧
    task.terminalSummary = projected.terminalSummary ∧
    task.deliveryStatus = projected.deliveryStatus

instance (task projected : TaskRow) : Decidable (sameProjection task projected) := by
  unfold sameProjection
  infer_instance

/-- The projection of a run onto its background task: a terminal task is left as
it is, and a task that must be delivered needs its flow. -/
def syncRunLifecycle (rule : CompletionRule) (input : RunUpdate) :
    LedgerTransaction Unit := do
  let store ← inspect id
  let task ← expect (getTaskByRun store input.runId)
    (.unexpected ("background task missing for run " ++ input.runId))
  if task.status.terminal then pure ()
  else if sameProjection task (task.projected rule store input) then pure ()
  else do
    change (fun store =>
      { store with tasks := store.tasks.update (task.projected rule store input) })
    demand
      (willDeliver task (projectedStatus store task input) = true →
        (store.flowLinks.find task.taskId).isSome)
      (.unexpected
        ("deliverable background task is not linked to a managed Task Flow: " ++ task.taskId))

def taskText (store : RunStore) (triggerMessageId : Option String) : String :=
  match triggerMessageId with
  | none => "Background agent run"
  | some messageId =>
    match store.messages.find? (fun row => decide (row.messageId = messageId)) with
    | some row =>
      match row.content with
      | .text text => if trim text = "" then "Background agent run" else text
      | _ => "Background agent run"
    | none => "Background agent run"

/-- `length(X)` of the database: the code points before the first null character. -/
def storedLength (text : String) : Nat :=
  (text.toList.takeWhile (fun char => decide (char.toNat ≠ 0))).length

/-- The task of a run meets the check on its text and the unique index on its run. -/
def insertRun (row : RunRow) : LedgerTransaction Unit := do
  tryChange
    (fun store => (store.runs.insert row).map (fun runs => { store with runs := runs }))
    (.constraint "agent_runs.run_id")
  let store ← inspect id
  let conversation ← expect (store.conversations.find row.conversationId)
    (inconsistent "run conversation missing while creating background task")
  let text := taskText store row.triggerMessageId
  demand (1 ≤ storedLength text ∧ storedLength text ≤ 65536)
    (.constraint "background_tasks.task_text")
  demand (getTaskByRun store row.runId = none) (.constraint "background_tasks.run_id")
  tryChange
    (fun store =>
      (store.tasks.insert (taskForRun row conversation.workspaceId text)).map
        (fun tasks => { store with tasks := tasks }))
    (.constraint "background_tasks.task_id")

def RunRow.updatedBy (row : RunRow) (input : RunUpdate) : RunRow :=
  { row with
    status := input.status
    recoveryState := input.recoveryState
    currentAttemptId := input.currentAttemptId
    startedAt := row.startedAt <|> input.startedAt
    endedAt := input.endedAt
    updatedAt := input.updatedAt }

def updateRun (rule : CompletionRule) (input : RunUpdate) : LedgerTransaction Unit := do
  let run ← inspect (fun store => store.runs.find input.runId)
  let row ← expect run (inconsistent "run update target missing")
  change (fun store => { store with runs := store.runs.update (row.updatedBy input) })
  syncRunLifecycle rule input

def RunUpdate.plain (runId : String) (status : RunStatus) (recoveryState : RecoveryState)
    (currentAttemptId : Option String) (startedAt endedAt : Option Nat) (now : Nat) :
    RunUpdate where
  runId := runId
  status := status
  recoveryState := recoveryState
  currentAttemptId := currentAttemptId
  startedAt := startedAt
  endedAt := endedAt
  updatedAt := now
  lost := none
  completionText := none

/-- `ORDER BY created_at, run_id`. -/
def createdEarlier (first second : RunRow) : Prop :=
  first.createdAt < second.createdAt ∨
    (first.createdAt = second.createdAt ∧ first.runId ≤ second.runId)

instance : DecidableRel createdEarlier := fun first second => by
  unfold createdEarlier
  infer_instance

def listIncompleteRuns (store : RunStore) : List RunRow :=
  (store.runs.rows.filter (fun row =>
    decide (row.status = .running ∨ row.status = .waitingApproval))).insertionSort createdEarlier

def listEvents (store : RunStore) (runId : String) : List EventRow :=
  store.events.filter (fun row => decide (row.runId = runId))

def getEventByIdempotency (store : RunStore) (runId key : String) : Option EventRow :=
  store.events.find? (fun row =>
    decide (row.runId = runId ∧ row.idempotencyKey = some key))

def RunRow.withEventSequence (row : RunRow) (sequence now : Nat) : RunRow :=
  { row with lastEventSequence := sequence, updatedAt := now }

/-- `UPDATE agent_runs SET last_event_sequence=last_event_sequence+1 …
RETURNING`. -/
def nextEventSequence (runId : String) (now : Nat) : LedgerTransaction Nat := do
  let run ← inspect (fun store => store.runs.find runId)
  let row ← expect run (inconsistent "run disappeared while allocating event sequence")
  let sequence := row.lastEventSequence + 1
  change (fun store =>
    { store with runs := store.runs.update (row.withEventSequence sequence now) })
  pure sequence

/-- The insert meets the unique index on `(run_id, idempotency_key)`, which leaves out
events without a key. Event identifiers are fresh, and the sequence number is the one
just allocated. -/
def insertEvent (row : EventRow) : LedgerTransaction Unit := do
  let store ← inspect id
  demand (∀ key ∈ row.idempotencyKey, getEventByIdempotency store row.runId key = none)
    (.constraint "run_events.idempotency_key")
  change (fun store => { store with events := store.events ++ [row] })

def listMessages (store : RunStore) (conversationId : String) : List MessageRow :=
  store.messages.filter (fun row => decide (row.conversationId = conversationId))

def ConversationRow.withMessageSequence (row : ConversationRow) (sequence : Nat) :
    ConversationRow :=
  { row with lastMessageSequence := sequence }

/-- `UPDATE conversations SET last_message_sequence=last_message_sequence+1 …
RETURNING`. -/
def nextMessageSequence (conversationId : String) : LedgerTransaction Nat := do
  let conversation ← inspect (fun store => store.conversations.find conversationId)
  let row ← expect conversation
    (inconsistent "conversation disappeared while allocating message sequence")
  let sequence := row.lastMessageSequence + 1
  change (fun store =>
    { store with conversations := store.conversations.update (row.withMessageSequence sequence) })
  pure sequence

def insertMessage (input : MessageInput) : LedgerTransaction Unit := do
  let sequence ← nextMessageSequence input.conversationId
  let store ← inspect id
  demand (∀ other ∈ store.messages, other.messageId ≠ input.messageId)
    (.constraint "conversation_messages.message_id")
  change (fun store => { store with messages := store.messages ++ [input.toRow sequence] })

def insertSubmission (row : SubmissionRow) : LedgerTransaction Unit :=
  tryChange
    (fun store => (store.submissions.insert row).map
      (fun submissions => { store with submissions := submissions }))
    (.constraint "conversation_submissions.submission_key")

def createConversation (input : ConversationInput) : LedgerTransaction Unit :=
  tryChange
    (fun store =>
      (store.conversations.insert
        { conversationId := input.conversationId
          workspaceId := input.workspaceId
          lastMessageSequence := 0 }).map
        (fun conversations => { store with conversations := conversations }))
    (.constraint "conversations.conversation_id")

end OpenRill.Runs.Ledger
