import OpenRill.Runs.Delegations

/-!
# The run lifecycle of the conversation service

Every operation of `ConversationService` that writes a run status, an attempt or
a run event. An operation that opens two transactions in the source, such as
`completeExecution`, is two transactions here. Model invocations and the
conversation projection are written and never read by these operations and are
left out; the clock reading and the fresh identifiers of a call are arguments.
-/

namespace OpenRill.Runs.Lifecycle

open Lib Lib.Text Lib.Transaction State Ledger Delegations

structure RunOptions where
  workspaceIds : List String
  sha256 : String → String
  /-- The digest of the canonical text of a terminal result. -/
  resultSha256 : TerminalResult → String
  completionRule : CompletionRule

def runNotFound : RunFailure := .service .runNotFound "run not found"

def invalidState (message : String) : RunFailure := .service .runStateInvalid message

def missingAttempt : RunFailure :=
  .service .runNotFound "run or current attempt not found"

def statusText : RunStatus → String
  | .created => "CREATED"
  | .running => "RUNNING"
  | .waitingApproval => "WAITING_APPROVAL"
  | .completed => "COMPLETED"
  | .failed => "FAILED"
  | .cancelled => "CANCELLED"

def recoveryText : RecoveryState → String
  | .none => "NONE"
  | .resumable => "RESUMABLE"
  | .nonResumable => "NON_RESUMABLE"

def bounded {Store : Type} (value label : String) (max : Nat) (pattern : String → Bool) :
    Transaction Store RunFailure Unit :=
  demand (1 ≤ utf16Length value ∧ utf16Length value ≤ max ∧ pattern value = true)
    (.service .invalidArgument ("invalid " ++ label))

def authorize {Store : Type} (options : RunOptions) (workspaceId : String) :
    Transaction Store RunFailure Unit := do
  bounded workspaceId "workspaceId" 64 matchesWorkspacePattern
  demand (workspaceId ∈ options.workspaceIds)
    (.service .workspaceAccessDenied ("workspace access denied: " ++ workspaceId))

def transitions : RunStatus → List RunStatus
  | .created => [.running, .failed, .cancelled]
  | .running => [.waitingApproval, .completed, .failed, .cancelled]
  | .waitingApproval => [.running, .completed, .failed, .cancelled]
  | .completed => []
  | .failed => []
  | .cancelled => []

structure EventInput where
  runId : String
  attemptId : Option String
  eventType : String
  payload : Payload
  idempotencyKey : Option String
  expectedSequence : Option Nat
  emittedAt : Nat

def EventInput.toRow (input : EventInput) (sequence : Nat) (eventId : String) : EventRow where
  runId := input.runId
  sequence := sequence
  eventId := eventId
  attemptId := input.attemptId
  eventType := input.eventType
  payload := input.payload
  idempotencyKey := input.idempotencyKey
  emittedAt := input.emittedAt

/-- The event says again what the one under its key says. -/
def EventInput.repeats (input : EventInput) (row : EventRow) : Prop :=
  row.eventType = input.eventType ∧ row.attemptId = input.attemptId ∧
    row.payload.sorted = input.payload.sorted

instance (input : EventInput) (row : EventRow) : Decidable (input.repeats row) := by
  unfold EventInput.repeats
  infer_instance

def allocateEvent (run : RunRow) (input : EventInput) (eventId : String) :
    LedgerTransaction EventRow := do
  demand (∀ expected ∈ input.expectedSequence, expected = run.lastEventSequence + 1)
    (.service .eventSequenceConflict
      ("expected event sequence " ++ toString (run.lastEventSequence + 1) ++ ", received " ++
        toString (input.expectedSequence.getD 0)))
  let sequence ← nextEventSequence run.runId input.emittedAt
  insertEvent (input.toRow sequence eventId)
  pure (input.toRow sequence eventId)

/-- `#appendEventWithRepositories`; an empty key is no key. -/
def appendEventWithRepositories (input : EventInput) (eventId : String) :
    LedgerTransaction EventRow := do
  bounded input.eventType "eventType" 128 matchesEventPattern
  let store ← inspect id
  let run ← expect (store.runs.find input.runId) runNotFound
  match input.idempotencyKey.filter (fun key => decide (key ≠ "")) with
  | none => allocateEvent run input eventId
  | some key => do
      bounded key "event idempotencyKey" 128 matchesKeyPattern
      match getEventByIdempotency store run.runId key with
      | some existing => do
          demand (input.repeats existing)
            (.service .eventIdempotencyConflict "event idempotency key reused with different event")
          pure existing
      | none => allocateEvent run input eventId

def lifecycleEvent (runId : String) (attemptId : Option String) (eventType : String)
    (payload : Payload) (idempotencyKey : Option String) (now : Nat) : EventInput where
  runId := runId
  attemptId := attemptId
  eventType := eventType
  payload := payload
  idempotencyKey := idempotencyKey
  expectedSequence := none
  emittedAt := now

structure SendInput where
  workspaceId : String
  conversationId : String
  submissionKey : String
  text : String

def createdRun (runId conversationId triggerMessageId attemptId : String) (now : Nat) :
    RunRow where
  runId := runId
  conversationId := conversationId
  triggerMessageId := some triggerMessageId
  status := .created
  recoveryState := .none
  currentAttemptId := some attemptId
  lastEventSequence := 0
  createdAt := now
  startedAt := none
  endedAt := none
  updatedAt := now

def validateSendInput (options : RunOptions) (input : SendInput) : LedgerTransaction Unit := do
  authorize options input.workspaceId
  bounded input.conversationId "conversationId" 128 (fun _ => true)
  bounded input.submissionKey "submissionKey" 128 matchesKeyPattern
  bounded input.text "text" 65536 (fun _ => true)

/-- A new submission stores the message, the run with its first attempt and the
event of its creation; a repeated one returns the run it made. -/
def sendWithRepositories (input : SendInput) (role : MessageRole) (inputHash : String)
    (now : Nat) (createId : Nat → String) : LedgerTransaction RunRow := do
  let store ← inspect id
  let conversation ← expect (store.conversations.find input.conversationId)
    (.service .conversationNotFound "conversation not found")
  demand (conversation.workspaceId = input.workspaceId)
    (.service .workspaceAccessDenied "conversation belongs to a different workspace")
  match store.submissions.find (conversation.conversationId, input.submissionKey) with
  | some existing => do
      demand (existing.inputHash = inputHash)
        (.service .submissionConflict "submission key reused with different input")
      expect (store.runs.find existing.runId)
        (inconsistent "submission references missing ledger rows")
  | none => do
      let messageId := createId 0
      let runId := createId 1
      let attemptId := createId 2
      insertMessage
        { messageId := messageId
          conversationId := conversation.conversationId
          role := role
          content := .text input.text
          createdAt := now }
      insertRun (createdRun runId conversation.conversationId messageId attemptId now)
      insertAttempt (emptyAttempt attemptId runId 1 now)
      let _ ← appendEventWithRepositories
        { runId := runId
          attemptId := some attemptId
          eventType := "run.created"
          payload := .object [("triggerMessageId", .text messageId)]
          idempotencyKey := some ("submission:" ++ input.submissionKey)
          expectedSequence := some 1
          emittedAt := now }
        (createId 3)
      insertSubmission
        { conversationId := conversation.conversationId
          submissionKey := input.submissionKey
          inputHash := inputHash
          messageId := messageId
          runId := runId
          createdAt := now }
      let reached ← inspect id
      expect (reached.runs.find runId) runNotFound

def send (options : RunOptions) (input : SendInput) (now : Nat) (createId : Nat → String) :
    LedgerTransaction RunRow := do
  validateSendInput options input
  sendWithRepositories input .user (options.sha256 input.text) now createId

/-- An attempt that a run in `CREATED` may go on with. -/
def preparableAttempt (run : RunRow) (attempt : AttemptRow) : Prop :=
  (run.status = .created → attempt.status = .created) ∧
    (run.status = .waitingApproval → attempt.status = .waitingApproval)

instance (run : RunRow) (attempt : AttemptRow) : Decidable (preparableAttempt run attempt) := by
  unfold preparableAttempt
  infer_instance

/-- A created run whose attempt was aborted gets its next attempt. -/
def prepareExecutionAttempt (options : RunOptions) (runId : String) (now : Nat)
    (createId : Nat → String) : LedgerTransaction AttemptRow := do
  let store ← inspect id
  let run ← expect (store.runs.find runId) runNotFound
  demand (run.status = .created ∨ run.status = .waitingApproval)
    (invalidState ("run is not preparable: " ++ statusText run.status))
  let _ ← expect (store.conversations.find run.conversationId)
    (.service .conversationNotFound "conversation not found")
  let previousId ← expect run.currentAttemptId (invalidState "run has no current attempt")
  let previous ← expect (store.attempts.find previousId)
    (invalidState "run current attempt is missing")
  if run.status = .created ∧ previous.status = .aborted then do
    let attemptId := createId 0
    insertAttempt (emptyAttempt attemptId run.runId (nextAttemptNumber store run.runId) now)
    updateRun options.completionRule
      (RunUpdate.plain run.runId run.status run.recoveryState (some attemptId) run.startedAt
        none now)
    let _ ← appendEventWithRepositories
      (lifecycleEvent run.runId (some attemptId) "run.attempt.prepared"
        (.object
          [("previousAttemptId", .text previousId),
            ("previousRecoveryReason", optionalText previous.recoveryReason)]) none now)
      (createId 1)
    let prepared ← inspect (fun store => store.attempts.find attemptId)
    expect prepared (invalidState "prepared run attempt is missing")
  else do
    demand (preparableAttempt run previous) (invalidState "created run attempt is not preparable")
    pure previous

structure StartInput where
  runId : String
  providerId : String
  modelId : String
  budget : ExecutionBudget

def rootEnvelope (run : RunRow) (workspaceId : String) (budget : ExecutionBudget)
    (now : Nat) : EnvelopeRow where
  runId := run.runId
  rootRunId := run.runId
  parentRunId := none
  depth := 0
  budget :=
    { execution := budget, maxDelegationDepth := 0, maxActiveChildren := 0, maxTotalChildren := 0 }
  deadlineAt := run.startedAt.getD now + budget.maxDurationMs
  scope :=
    { workspaceIds := [workspaceId], skillIds := [], toolNames := [] }
  used := 0
  delegatedUsed := 0
  createdAt := now
  updatedAt := now
  depthBounded := by simp

def jsonNumber (value : Nat) : Json := .number (toString value)

def ExecutionBudget.json (budget : ExecutionBudget) : Json :=
  .object
    [("maxDurationMs", jsonNumber budget.maxDurationMs),
      ("maxModelCalls", jsonNumber budget.maxModelCalls),
      ("maxOutputTokens", jsonNumber budget.maxOutputTokens),
      ("maxToolCalls", jsonNumber budget.maxToolCalls),
      ("maxTotalTokens", jsonNumber budget.maxTotalTokens),
      ("maxTurns", jsonNumber budget.maxTurns)]

/-- A run has one envelope, whose execution budget does not change. -/
def openEnvelope (existing : Option EnvelopeRow) (row : EnvelopeRow) : RunTransaction Unit :=
  match existing with
  | some existing =>
    demand (existing.budget.execution = row.budget.execution)
      (.service .delegationBudgetConflict
        "execution budget differs from the durable run budget envelope")
  | none => onDelegations (insertBudgetEnvelope row)

def startExecution (options : RunOptions) (input : StartInput) (now : Nat)
    (createId : Nat → String) : RunTransaction RunRow := do
  let tables ← inspect id
  let run ← expect (tables.ledger.runs.find input.runId) runNotFound
  demand (run.status = .created) (invalidState ("run is not executable: " ++ statusText run.status))
  let attempt := run.currentAttemptId.bind tables.ledger.attempts.find
  let fresh := attempt.all (fun row => decide (row.status = .aborted))
  let attemptId := if fresh then createId 0 else run.currentAttemptId.getD (createId 0)
  onLedger (whenever (fresh = true)
    (insertAttempt
      (emptyAttempt attemptId run.runId (nextAttemptNumber tables.ledger run.runId) now)))
  let conversation ← expect (tables.ledger.conversations.find run.conversationId)
    (.service .conversationNotFound "conversation not found")
  openEnvelope (tables.delegations.envelopes.find run.runId)
    (rootEnvelope run conversation.workspaceId input.budget now)
  onLedger do
    configureAttempt attemptId input.providerId input.modelId input.budget now
    updateAttempt attemptId .running (some now) none none now
    updateRun options.completionRule
      (RunUpdate.plain run.runId .running .none (some attemptId) (some now) none now)
    let _ ← appendEventWithRepositories
      (lifecycleEvent run.runId (some attemptId) "run.started"
        (.object
          [("budget", ExecutionBudget.json input.budget), ("modelId", .text input.modelId),
            ("providerId", .text input.providerId)])
        (some ("run-start:" ++ attemptId)) now)
      (createId 1)
    let reached ← inspect id
    expect (reached.runs.find run.runId) runNotFound

/-- `Math.max(0, usage - prior)` in every counter. -/
def usageBeyond (usage prior : Usage) : Usage where
  turns := usage.turns - prior.turns
  inputTokens := usage.inputTokens - prior.inputTokens
  outputTokens := usage.outputTokens - prior.outputTokens
  modelCalls := usage.modelCalls - prior.modelCalls
  toolCalls := usage.toolCalls - prior.toolCalls

/-- The attempt records what exceeds the other attempts; the envelope, if the run
has one, records the reported usage as it is. -/
def updateExecutionUsage (runId : String) (usage : Usage) (terminalReason : Option String)
    (now : Nat) : RunTransaction Unit := do
  let tables ← inspect id
  let run ← expect (tables.ledger.runs.find runId) missingAttempt
  let attemptId ← expect run.currentAttemptId missingAttempt
  onLedger (updateAttemptUsage attemptId
    (usageBeyond usage (aggregateRunUsageExcluding tables.ledger runId attemptId))
    terminalReason now)
  onDelegations (whenever ((tables.delegations.envelopes.find runId).isSome)
    (updateBudgetUsage runId usage now))

structure TransitionInput where
  runId : String
  status : RunStatus
  eventType : Option String
  payload : Payload
  completionText : Option String

def defaultEventType : RunStatus → String
  | .created => "run.created"
  | .running => "run.running"
  | .waitingApproval => "run.waiting_approval"
  | .completed => "run.completed"
  | .failed => "run.failed"
  | .cancelled => "run.cancelled"

def endTime (status : RunStatus) (now : Nat) : Option Nat :=
  if status.terminal then some now else none

/-- `startedAt` of an attempt or run that goes to `RUNNING`. -/
def startTime (status : RunStatus) (now : Nat) (otherwise : Option Nat) : Option Nat :=
  if status = .running then some now else otherwise

def setAttempt (attemptId : Option String) (status : AttemptStatus)
    (startedAt endedAt : Option Nat) (recoveryReason : Option String) (now : Nat) :
    LedgerTransaction Unit :=
  match attemptId with
  | some attemptId => updateAttempt attemptId status startedAt endedAt recoveryReason now
  | none => pure ()

def transitionRun (options : RunOptions) (input : TransitionInput) (now : Nat)
    (createId : Nat → String) : LedgerTransaction RunRow := do
  let store ← inspect id
  let run ← expect (store.runs.find input.runId) runNotFound
  demand (input.status ∈ transitions run.status)
    (invalidState
      ("invalid run transition " ++ statusText run.status ++ " -> " ++ statusText input.status))
  let attempt := run.currentAttemptId.bind store.attempts.find
  let fresh := decide (input.status = .running) &&
    attempt.all (fun row => decide (row.status = .aborted))
  let currentAttemptId := if fresh then some (createId 0) else run.currentAttemptId
  whenever (fresh = true)
    (insertAttempt (emptyAttempt (createId 0) run.runId (nextAttemptNumber store run.runId) now))
  updateRun options.completionRule
    { runId := run.runId
      status := input.status
      recoveryState := .none
      currentAttemptId := currentAttemptId
      startedAt := startTime input.status now run.startedAt
      endedAt := endTime input.status now
      updatedAt := now
      lost := none
      completionText := input.completionText }
  setAttempt currentAttemptId (attemptStatusOf input.status)
    (startTime input.status now none) (endTime input.status now) none now
  let _ ← appendEventWithRepositories
    (lifecycleEvent run.runId currentAttemptId
      (input.eventType.getD (defaultEventType input.status)) input.payload none now)
    (createId 1)
  let reached ← inspect id
  expect (reached.runs.find run.runId) runNotFound

def usageJson (usage : Usage) : Json :=
  .object
    [("inputTokens", jsonNumber usage.inputTokens),
      ("modelCalls", jsonNumber usage.modelCalls),
      ("outputTokens", jsonNumber usage.outputTokens),
      ("toolCalls", jsonNumber usage.toolCalls),
      ("turns", jsonNumber usage.turns)]

/-- The transition of `waitForApproval`, after its usage update. -/
def approvalWait (runId requestId : String) : TransitionInput where
  runId := runId
  status := .waitingApproval
  eventType := some "approval.requested"
  payload := .object [("requestId", .text requestId)]
  completionText := none

def completion (runId : String) (usage : Usage) (terminalReason : String)
    (completionText : Option String) : TransitionInput where
  runId := runId
  status := .completed
  eventType := some "run.completed"
  payload := .object [("terminalReason", .text terminalReason), ("usage", usageJson usage)]
  completionText := completionText

def failureOf (runId errorCode message : String) : TransitionInput where
  runId := runId
  status := .failed
  eventType := some "run.failed"
  payload := .object [("errorCode", .text errorCode), ("message", .text message)]
  completionText := none

/-- The second transaction of `waitForDelegation`. -/
def waitForDelegation (options : RunOptions) (runId delegationId toolCallId : String)
    (now : Nat) (createId : Nat → String) : RunTransaction RunRow := do
  let tables ← inspect id
  let run ← expect (tables.ledger.runs.find runId) missingAttempt
  let attemptId ← expect run.currentAttemptId missingAttempt
  demand (run.status = .running) (invalidState ("run is not running: " ++ statusText run.status))
  let conflict := invalidState
    "durable delegation wait delivery is missing or conflicts with the current Tool call"
  let wait ← expect (tables.delegations.resultDeliveries.find delegationId) conflict
  demand
    (wait.parentRunId = run.runId ∧ wait.parentAttemptId = attemptId ∧
      wait.parentToolCallId = toolCallId ∧ wait.state = .pending)
    conflict
  onLedger do
    updateAttempt attemptId .aborted none (some now) (some "DELEGATION_WAIT") now
    updateRun options.completionRule
      (RunUpdate.plain run.runId .created .resumable (some attemptId) run.startedAt none now)
    let _ ← appendEventWithRepositories
      (lifecycleEvent run.runId (some attemptId) "delegation.waiting"
        (.object [("delegationId", .text delegationId), ("toolCallId", .text toolCallId)])
        (some ("delegation-wait:" ++ delegationId)) now)
      (createId 0)
    let reached ← inspect id
    expect (reached.runs.find run.runId) runNotFound

def resumeExecution (options : RunOptions) (runId : String) (now : Nat)
    (createId : Nat → String) : LedgerTransaction RunRow := do
  let store ← inspect id
  let run ← expect (store.runs.find runId) runNotFound
  let notWaiting := invalidState ("run is not waiting for approval: " ++ statusText run.status)
  demand (run.status = .waitingApproval) notWaiting
  let attemptId ← expect run.currentAttemptId notWaiting
  let attempt ← expect (store.attempts.find attemptId)
    (invalidState "waiting run attempt is missing")
  demand (attempt.status = .waitingApproval) (invalidState "waiting run attempt is missing")
  updateRun options.completionRule
    (RunUpdate.plain runId .running .none (some attemptId) (some (run.startedAt.getD now)) none now)
  updateAttempt attemptId .running (some (attempt.startedAt.getD now)) none none now
  let _ ← appendEventWithRepositories
    (lifecycleEvent runId (some attemptId) "run.resumed"
      (.object [("from", .text "WAITING_APPROVAL")]) none now)
    (createId 0)
  let reached ← inspect id
  expect (reached.runs.find runId) runNotFound

structure CancelInput where
  workspaceId : String
  conversationId : String
  runId : String

/-- The run and whether it had ended already. -/
def cancel (options : RunOptions) (input : CancelInput) (now : Nat)
    (createId : Nat → String) : LedgerTransaction (RunRow × Bool) := do
  authorize options input.workspaceId
  let store ← inspect id
  let conversation ← expect (store.conversations.find input.conversationId)
    (.service .conversationNotFound "conversation not found")
  demand (conversation.workspaceId = input.workspaceId)
    (.service .workspaceAccessDenied "conversation belongs to a different workspace")
  let run ← expect (store.runs.find input.runId) runNotFound
  demand (run.conversationId = conversation.conversationId) runNotFound
  if run.status.terminal then pure (run, true)
  else do
    updateRun options.completionRule
      (RunUpdate.plain run.runId .cancelled .none run.currentAttemptId run.startedAt (some now) now)
    setAttempt run.currentAttemptId .cancelled none (some now) none now
    let _ ← appendEventWithRepositories
      (lifecycleEvent run.runId run.currentAttemptId "run.cancelled"
        (.object [("reason", .text "user")]) (some "cancel") now)
      (createId 0)
    let reached ← inspect id
    let cancelled ← expect (reached.runs.find run.runId) runNotFound
    pure (cancelled, false)

structure RecoveryClassification where
  runId : String
  previousStatus : RunStatus
  status : RunStatus
  recoveryState : RecoveryState
  deriving DecidableEq

def RunRow.unchanged (run : RunRow) : RecoveryClassification where
  runId := run.runId
  previousStatus := run.status
  status := run.status
  recoveryState := run.recoveryState

/-- The last checkpoint is followed by model requests and retries only. -/
def hasRecoverableCheckpoint (events : List EventRow) : Bool :=
  events.any (fun row => row.eventType == "run.checkpoint") &&
    (events.reverse.takeWhile (fun row => row.eventType != "run.checkpoint")).all
      (fun row => row.eventType == "model.requested" || row.eventType == "model.retry")

def loseAttempt (attempt : Option AttemptRow) (errorCode : String) (now : Nat) :
    LedgerTransaction Unit :=
  match attempt with
  | none => pure ()
  | some attempt => do
      whenever (attempt.status.ended = false)
        (updateAttempt attempt.attemptId .aborted attempt.startedAt (some now) (some errorCode) now)
      updateAttemptUsage attempt.attemptId attempt.used (some errorCode) now

def markExecutionLost (options : RunOptions) (runId errorCode : String) (now : Nat)
    (createId : Nat → String) : LedgerTransaction RecoveryClassification := do
  bounded errorCode "execution lost errorCode" 128 matchesErrorPattern
  let store ← inspect id
  let run ← expect (store.runs.find runId) runNotFound
  if run.status.terminal then pure (RunRow.unchanged run)
  else do
    demand (run.status ≠ .waitingApproval)
      (invalidState "waiting approval run cannot be marked lost")
    loseAttempt (run.currentAttemptId.bind store.attempts.find) errorCode now
    updateRun options.completionRule
      { runId := run.runId
        status := .failed
        recoveryState := .nonResumable
        currentAttemptId := run.currentAttemptId
        startedAt := run.startedAt
        endedAt := some now
        updatedAt := now
        lost := some errorCode
        completionText := none }
    let _ ← appendEventWithRepositories
      (lifecycleEvent run.runId run.currentAttemptId "run.execution_lost"
        (.object
          [("errorCode", .text errorCode),
            ("previousStatus", .text (statusText run.status)),
            ("recoveryState", .text "NON_RESUMABLE"), ("status", .text "FAILED")])
        (some "execution-lost") now)
      (createId 0)
    pure
      { runId := run.runId
        previousStatus := run.status
        status := .failed
        recoveryState := .nonResumable }

/-- A recoverable run goes back to `CREATED`, any other one fails. -/
def classify (recoverable : Bool) : RunStatus × RecoveryState :=
  if recoverable then (.created, .resumable) else (.failed, .nonResumable)

def interruptExecution (options : RunOptions) (runId recoveryReason : String) (now : Nat)
    (createId : Nat → String) : LedgerTransaction RecoveryClassification := do
  let store ← inspect id
  let run ← expect (store.runs.find runId) runNotFound
  if run.status ≠ .running then pure (RunRow.unchanged run)
  else do
    let recoverable := hasRecoverableCheckpoint (listEvents store run.runId)
    let classified := classify recoverable
    setAttempt run.currentAttemptId .aborted none (some now) (some recoveryReason) now
    updateRun options.completionRule
      (RunUpdate.plain run.runId classified.1 classified.2 run.currentAttemptId run.startedAt
        (if classified.1 = .failed then some now else none) now)
    let _ ← appendEventWithRepositories
      (lifecycleEvent run.runId run.currentAttemptId "run.interrupted"
        (.object
          [("checkpointRecoverable", .flag recoverable),
            ("previousStatus", .text (statusText run.status)),
            ("recoveryReason", .text recoveryReason),
            ("recoveryState", .text (recoveryText classified.2)),
            ("status", .text (statusText classified.1))]) none now)
      (createId 0)
    pure
      { runId := run.runId
        previousStatus := run.status
        status := classified.1
        recoveryState := classified.2 }

/-- How a restart classifies an incomplete run. -/
def classifyIncomplete (tables : RunTables) (run : RunRow) : RunStatus × RecoveryState :=
  if run.status = .waitingApproval then (.waitingApproval, .resumable)
  else
    classify (hasRecoverableCheckpoint (listEvents tables.ledger run.runId) ||
      hasActiveWait tables.delegations run.runId)

def recoverRun (options : RunOptions) (now : Nat) (createId : Nat → String)
    (output : List RecoveryClassification) (run : RunRow) :
    RunTransaction (List RecoveryClassification) := do
  let tables ← inspect id
  let classified := classifyIncomplete tables run
  onLedger do
    whenever (run.status = .running)
      (setAttempt run.currentAttemptId .aborted none (some now) (some "HOST_RESTART") now)
    updateRun options.completionRule
      (RunUpdate.plain run.runId classified.1 classified.2 run.currentAttemptId run.startedAt
        (if classified.1 = .failed then some now else none) now)
    let _ ← appendEventWithRepositories
      (lifecycleEvent run.runId run.currentAttemptId "run.recovery_classified"
        (.object
          [("previousStatus", .text (statusText run.status)),
            ("recoveryState", .text (recoveryText classified.2)),
            ("status", .text (statusText classified.1)),
            ("waitingDelegation", .flag (hasActiveWait tables.delegations run.runId))])
        (some ("recovery:" ++ toString run.lastEventSequence)) now)
      (createId output.length)
    pure ()
  pure (output ++
    [{ runId := run.runId
       previousStatus := run.status
       status := classified.1
       recoveryState := classified.2 }])

def recoverIncompleteRuns (options : RunOptions) (now : Nat) (createId : Nat → String) :
    RunTransaction (List RecoveryClassification) := do
  let tables ← inspect id
  forEach (listIncompleteRuns tables.ledger) [] (recoverRun options now createId)

end OpenRill.Runs.Lifecycle
