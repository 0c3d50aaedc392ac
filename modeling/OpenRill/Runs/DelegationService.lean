import OpenRill.Runs.Lifecycle

/-!
# The delegation service

Every operation of `DelegationService` that writes: the root budget, the child
graph of a delegated run, the wait of a parent, and the ways in which a child
ends and its reservation is released. An operation that opens two transactions
in the source is two transactions here.
-/

namespace OpenRill.Runs.DelegationService

open Lib Lib.Text Lib.Transaction State Ledger Delegations Lifecycle

def invalidArgument (message : String) : RunFailure := .service .invalidArgument message

def delegationNotFound : RunFailure :=
  .service .delegationNotFound "delegation not found"

def foreignDelegation : RunFailure :=
  .service .delegationNotFound "delegation not found for parent run"

def outcomeText : DelegationOutcome → String
  | .completed => "COMPLETED"
  | .failed => "FAILED"
  | .cancelled => "CANCELLED"
  | .timedOut => "TIMED_OUT"

def delegationText : DelegationStatus → String
  | .created => "CREATED"
  | .running => "RUNNING"
  | .waiting => "WAITING"
  | .ended outcome => outcomeText outcome

variable {Store : Type}

def positive (value : Nat) (label : String) : Transaction Store RunFailure Unit :=
  demand (1 ≤ value) (invalidArgument (label ++ " must be a positive integer"))

/-- A budget inside the hard limit of depth. -/
abbrev NormalBudget := { budget : DelegationBudget // budget.maxDelegationDepth ≤ 16 }

def normalizeBudget (input : DelegationBudget) :
    Transaction Store RunFailure NormalBudget := do
  positive input.execution.maxTurns "maxTurns"
  positive input.execution.maxModelCalls "maxModelCalls"
  positive input.execution.maxOutputTokens "maxOutputTokens"
  positive input.execution.maxTotalTokens "maxTotalTokens"
  positive input.execution.maxDurationMs "maxDurationMs"
  if safe : input.maxDelegationDepth ≤ 16 ∧ input.maxActiveChildren ≤ 64 ∧
      input.maxTotalChildren ≤ 1024 then do
    demand (input.maxActiveChildren ≤ input.maxTotalChildren)
      (invalidArgument "maxTotalChildren must be >= maxActiveChildren")
    demand (input.execution.maxOutputTokens ≤ input.execution.maxTotalTokens)
      (invalidArgument "maxOutputTokens must be <= maxTotalTokens")
    pure ⟨input, safe.1⟩
  else fail (invalidArgument "delegation budget exceeds hard safety limits")

/-- `normalizedSet`: bounded distinct values in order. -/
def normalizedSet (values : List String) (label : String) (pattern : String → Bool) :
    Transaction Store RunFailure (List String) := do
  demand (values.length ≤ 256) (invalidArgument ("invalid " ++ label))
  demand (∀ value ∈ values, 1 ≤ utf16Length value ∧ utf16Length value ≤ 128 ∧
      pattern value = true)
    (invalidArgument ("invalid " ++ label))
  demand values.Nodup (invalidArgument (label ++ " must not contain duplicates"))
  pure (values.insertionSort (fun first second => first ≤ second))

def normalizeScope (scope : DelegationScope) :
    Transaction Store RunFailure DelegationScope := do
  let workspaceIds ← normalizedSet scope.workspaceIds "workspaceId" matchesWorkspacePattern
  let skillIds ← normalizedSet scope.skillIds "skillId" (matchesIdPattern 127)
  let toolNames ← normalizedSet scope.toolNames "toolName" matchesToolPattern
  pure { workspaceIds := workspaceIds, skillIds := skillIds, toolNames := toolNames }

structure RootBudgetInput where
  runId : String
  budget : DelegationBudget
  scope : DelegationScope

def unusedEnvelope (runId rootRunId : String) (parentRunId : Option String) (depth : Nat)
    (budget : NormalBudget) (scope : DelegationScope) (now : Nat) : EnvelopeRow where
  runId := runId
  rootRunId := rootRunId
  parentRunId := parentRunId
  depth := depth
  budget := budget.val
  deadlineAt := now + budget.val.execution.maxDurationMs
  scope := scope
  used := 0
  delegatedUsed := 0
  createdAt := now
  updatedAt := now
  depthBounded := budget.property

def configureRootBudget (options : RunOptions) (input : RootBudgetInput) (now : Nat) :
    RunTransaction EnvelopeRow := do
  let budget ← normalizeBudget input.budget
  let scope ← normalizeScope input.scope
  let tables ← inspect id
  let run ← expect (tables.ledger.runs.find input.runId) runNotFound
  let conversation ← expect (tables.ledger.conversations.find run.conversationId)
    (.service .conversationNotFound "conversation not found")
  demand (conversation.workspaceId ∈ options.workspaceIds ∧
      conversation.workspaceId ∈ scope.workspaceIds)
    (.service .workspaceAccessDenied
      "root delegation scope must include the conversation workspace")
  match tables.delegations.envelopes.find run.runId with
  | some existing => do
      demand (existing.budget = budget.val ∧ existing.scope = scope)
        (.service .delegationBudgetConflict
          "run budget envelope already exists with different limits or scope")
      pure existing
  | none => do
      let row := unusedEnvelope run.runId run.runId none 0 budget scope now
      onDelegations (insertBudgetEnvelope row)
      pure row

structure CreateDelegatedRunInput where
  parentRunId : String
  parentAttemptId : String
  idempotencyKey : String
  task : String
  workspaceId : String
  budget : DelegationBudget
  scope : DelegationScope
  expectedOutput : ExpectedOutput
  parentToolCallId : Option String

/-- What a delegation key stands for. -/
def sameRequest (options : RunOptions) (input : CreateDelegatedRunInput)
    (requested : DelegationBudget) (scope : DelegationScope) (existing : DelegationRow)
    (child : EnvelopeRow) : Prop :=
  existing.taskSha256 = options.sha256 input.task ∧
    existing.parentAttemptId = input.parentAttemptId ∧
    existing.parentToolCallId = input.parentToolCallId ∧
    existing.expectedOutput = input.expectedOutput ∧ existing.scope = scope ∧
    child.budget = requested

instance (options : RunOptions) (input : CreateDelegatedRunInput)
    (requested : DelegationBudget) (scope : DelegationScope) (existing : DelegationRow)
    (child : EnvelopeRow) :
    Decidable (sameRequest options input requested scope existing child) := by
  unfold sameRequest
  infer_instance

def scopeWithin (child parent : DelegationScope) : Prop :=
  (∀ value ∈ child.workspaceIds, value ∈ parent.workspaceIds) ∧
    (∀ value ∈ child.skillIds, value ∈ parent.skillIds) ∧
    (∀ value ∈ child.toolNames, value ∈ parent.toolNames)

instance (child parent : DelegationScope) : Decidable (scopeWithin child parent) := by
  unfold scopeWithin
  infer_instance

def admitChild (parent : EnvelopeRow) (requested : DelegationBudget)
    (reserved : ReservationSummary) (now : Nat) : RunTransaction Unit := do
  demand (requested.maxDelegationDepth ≤ parent.budget.maxDelegationDepth ∧
      requested.maxActiveChildren ≤ parent.budget.maxActiveChildren ∧
      requested.maxTotalChildren ≤ parent.budget.maxTotalChildren)
    (.service .delegationBudgetEscalation "child delegation limits exceed parent limits")
  demand (requested.execution.maxOutputTokens ≤ parent.budget.execution.maxOutputTokens)
    (.service .delegationBudgetEscalation "child output-token limit exceeds parent limit")
  demand (now < parent.deadlineAt ∧
      now + requested.execution.maxDurationMs ≤ parent.deadlineAt)
    (.service .delegationTimeBudgetExceeded "child duration exceeds the parent deadline")
  demand (reserved.activeChildren < parent.budget.maxActiveChildren)
    (.service .delegationActiveChildLimit "active child limit exceeded")
  demand (reserved.totalChildren < parent.budget.maxTotalChildren)
    (.service .delegationTotalChildLimit "total child limit exceeded")
  demand (requested.capacity + parent.used.spent + parent.delegatedUsed.spent +
      reserved.reserved ≤ parent.budget.capacity)
    (.service .delegationBudgetExceeded "child budget exceeds parent remaining capacity")

structure ChildIds where
  delegationId : String
  conversationId : String
  messageId : String
  runId : String
  attemptId : String
  eventId : String

def ChildIds.from (createId : Nat → String) : ChildIds where
  delegationId := createId 0
  conversationId := createId 1
  messageId := createId 2
  runId := createId 3
  attemptId := createId 4
  eventId := createId 5

/-- The conversation, message, run, attempt, event and submission of a child. -/
def insertChildRun (options : RunOptions) (input : CreateDelegatedRunInput)
    (ids : ChildIds) (now : Nat) : LedgerTransaction Unit := do
  createConversation
    { conversationId := ids.conversationId
      workspaceId := input.workspaceId }
  insertMessage
    { messageId := ids.messageId
      conversationId := ids.conversationId
      role := .user
      content := .text input.task
      createdAt := now }
  insertRun (createdRun ids.runId ids.conversationId ids.messageId ids.attemptId now)
  insertAttempt (emptyAttempt ids.attemptId ids.runId 1 now)
  let sequence ← nextEventSequence ids.runId now
  insertEvent
    { runId := ids.runId
      sequence := sequence
      eventId := ids.eventId
      attemptId := some ids.attemptId
      eventType := "run.created"
      payload := .object
        [("delegatedFromRunId", .text input.parentRunId),
          ("delegationId", .text ids.delegationId),
          ("triggerMessageId", .text ids.messageId)]
      idempotencyKey := some ("delegation:" ++ ids.delegationId)
      emittedAt := now }
  insertSubmission
    { conversationId := ids.conversationId
      submissionKey := "delegation:" ++ ids.delegationId
      inputHash := options.sha256 input.task
      messageId := ids.messageId
      runId := ids.runId
      createdAt := now }

def newDelegation (options : RunOptions) (input : CreateDelegatedRunInput)
    (scope : DelegationScope) (ids : ChildIds) (parent : EnvelopeRow) (now : Nat)
    (shallow : parent.depth + 1 ≤ parent.budget.maxDelegationDepth) : DelegationRow where
  delegationId := ids.delegationId
  idempotencyKey := input.idempotencyKey
  rootRunId := parent.rootRunId
  parentRunId := parent.runId
  parentAttemptId := input.parentAttemptId
  parentToolCallId := input.parentToolCallId
  childConversationId := ids.conversationId
  childRunId := ids.runId
  depth := parent.depth + 1
  status := .created
  taskSha256 := options.sha256 input.task
  scope := scope
  expectedOutput := input.expectedOutput
  resultSummarySha256 := none
  createdAt := now
  startedAt := none
  endedAt := none
  updatedAt := now
  depthBounded := ⟨by omega, le_trans shallow parent.depthBounded⟩

def newReservation (ids : ChildIds) (parentRunId : String) (requested : DelegationBudget)
    (now : Nat) : ReservationRow where
  delegationId := ids.delegationId
  parentRunId := parentRunId
  childRunId := ids.runId
  reserved := requested.capacity
  state := .reserved
  createdAt := now
  updatedAt := now

/-- A delegated child is background work of its parent's task. -/
def delegatedTask (delegationId parentRunId : String) : Classification where
  runtime := .delegation
  taskKind := "agent.delegation"
  sourceId := some delegationId
  parentRunId := some parentRunId
  notifyPolicy := none

structure CreateDelegatedRunResult where
  delegation : DelegationRow
  childBudget : EnvelopeRow
  replayed : Bool

def insertChild (options : RunOptions) (input : CreateDelegatedRunInput)
    (requested : NormalBudget) (scope : DelegationScope) (ids : ChildIds)
    (parent : EnvelopeRow) (now : Nat)
    (shallow : parent.depth + 1 ≤ parent.budget.maxDelegationDepth) :
    RunTransaction CreateDelegatedRunResult := do
  let delegation := newDelegation options input scope ids parent now shallow
  let childBudget := unusedEnvelope ids.runId parent.rootRunId (some parent.runId)
    (parent.depth + 1) requested scope now
  onLedger (insertChildRun options input ids now)
  onDelegations do
    insertBudgetEnvelope childBudget
    insertDelegation delegation
  onLedger (classifyRun ids.runId (delegatedTask ids.delegationId parent.runId) now)
  onDelegations (insertBudgetReservation (newReservation ids parent.runId requested.val now))
  pure { delegation := delegation, childBudget := childBudget, replayed := false }

def checkToolCallId : Option String → RunTransaction Unit
  | some toolCallId => bounded toolCallId "parentToolCallId" 128 (fun _ => true)
  | none => pure ()

def normalizeRequest (options : RunOptions) (input : CreateDelegatedRunInput) :
    RunTransaction (NormalBudget × DelegationScope) := do
  bounded input.idempotencyKey "delegation idempotencyKey" 128 matchesKeyPattern
  bounded input.task "delegation task" 65536 (fun _ => true)
  bounded input.parentAttemptId "parentAttemptId" 128 (fun _ => true)
  checkToolCallId input.parentToolCallId
  let requested ← normalizeBudget input.budget
  let scope ← normalizeScope input.scope
  demand (input.workspaceId ∈ scope.workspaceIds ∧ input.workspaceId ∈ options.workspaceIds)
    (.service .workspaceAccessDenied "delegated workspace is outside the requested scope")
  pure (requested, scope)

def createDelegatedRun (options : RunOptions) (input : CreateDelegatedRunInput) (now : Nat)
    (createId : Nat → String) : RunTransaction CreateDelegatedRunResult := do
  let (requested, scope) ← normalizeRequest options input
  let tables ← inspect id
  let parentRun ← expect (tables.ledger.runs.find input.parentRunId)
    (.service .runNotFound "parent run not found")
  demand (parentRun.status.terminal = false)
    (invalidState ("parent run is terminal: " ++ statusText parentRun.status))
  demand (parentRun.currentAttemptId = some input.parentAttemptId)
    (invalidState "delegation parent attempt is not current")
  let attempt ← expect (tables.ledger.attempts.find input.parentAttemptId)
    (invalidState "delegation parent attempt is missing")
  demand (attempt.runId = parentRun.runId) (invalidState "delegation parent attempt is missing")
  let parent ← expect (tables.delegations.envelopes.find parentRun.runId)
    (.service .delegationBudgetNotConfigured "parent run has no delegation budget envelope")
  match getDelegationByIdempotency tables.delegations parentRun.runId input.idempotencyKey with
  | some existing => do
      let child ← expect (tables.delegations.envelopes.find existing.childRunId)
        (invalidState "delegation child budget envelope is missing")
      demand (sameRequest options input requested.val scope existing child)
        (.service .delegationIdempotencyConflict "delegation key reused with different request")
      pure { delegation := existing, childBudget := child, replayed := true }
  | none => do
      demand (scopeWithin scope parent.scope)
        (.service .delegationScopeEscalation "child scope must be a subset of the parent scope")
      if shallow : parent.depth + 1 ≤ parent.budget.maxDelegationDepth then do
        admitChild parent requested.val (reservationSummary tables.delegations parentRun.runId) now
        insertChild options input requested scope (ChildIds.from createId) parent now shallow
      else fail (.service .delegationDepthExceeded "delegation depth limit exceeded")

structure ToolWaitIdentity where
  parentAttemptId : String
  parentToolCallId : String
  toolName : String

/-- `ORDER BY created_at, delegation_id`. -/
def waitsEarlier (first second : WaitRow) : Prop :=
  first.createdAt < second.createdAt ∨
    (first.createdAt = second.createdAt ∧ first.delegationId ≤ second.delegationId)

instance : DecidableRel waitsEarlier := fun first second => by
  unfold waitsEarlier
  infer_instance

def listWaits (store : DelegationStore) (parentRunId : String) : List WaitRow :=
  (store.waits.rows.filter (fun row => decide (row.parentRunId = parentRunId))).insertionSort
    waitsEarlier

def checkIdentity (parentRun : RunRow) : Option ToolWaitIdentity → RunTransaction Unit
  | none => pure ()
  | some identity => do
      bounded identity.parentAttemptId "parentAttemptId" 128 (fun _ => true)
      bounded identity.parentToolCallId "parentToolCallId" 128 (fun _ => true)
      demand (identity.toolName = "agent.wait")
        (invalidArgument "delegation wait Tool must be agent.wait")
      demand (parentRun.currentAttemptId = some identity.parentAttemptId)
        (invalidState "delegation wait attempt is not current")

def newResultDelivery (parentRunId delegationId : String) (identity : ToolWaitIdentity)
    (now : Nat) : ResultDeliveryRow where
  delegationId := delegationId
  parentRunId := parentRunId
  parentAttemptId := identity.parentAttemptId
  parentToolCallId := identity.parentToolCallId
  toolName := identity.toolName
  state := .pending
  createdAt := now
  updatedAt := now

/-- The result of the delegation answers the call of `agent.wait`. -/
def bindResultDelivery (parentRunId delegationId : String) (now : Nat) :
    Option ToolWaitIdentity → DelegationTransaction Unit
  | none => pure ()
  | some identity => do
      let store ← inspect id
      match store.resultDeliveries.find delegationId <|>
          getResultDeliveryByToolCall store parentRunId identity.parentToolCallId with
      | some existing =>
        demand (existing.delegationId = delegationId ∧ existing.parentRunId = parentRunId ∧
            existing.parentAttemptId = identity.parentAttemptId ∧
            existing.parentToolCallId = identity.parentToolCallId ∧
            existing.toolName = identity.toolName)
          (.service .delegationIdempotencyConflict
            "delegation wait Tool identity conflicts with durable delivery")
      | none => insertResultDelivery (newResultDelivery parentRunId delegationId identity now)

def markWaiting (parentRunId delegationId : String) (identity : Option ToolWaitIdentity)
    (now : Nat) : RunTransaction (List WaitRow) := do
  let tables ← inspect id
  let delegation ← expect (tables.delegations.delegations.find delegationId) foreignDelegation
  demand (delegation.parentRunId = parentRunId) foreignDelegation
  demand (delegation.status.active = true)
    (invalidState ("cannot wait on terminal delegation: " ++ delegationText delegation.status))
  let noAttempt := invalidState "parent run has no current attempt"
  let parentRun ← expect (tables.ledger.runs.find parentRunId) noAttempt
  demand (parentRun.currentAttemptId.isSome) noAttempt
  checkIdentity parentRun identity
  onDelegations do
    whenever (delegation.status ≠ .waiting)
      (updateDelegationStatus delegationId .waiting (some now) none none now)
    insertWait parentRunId delegationId now
    bindResultDelivery parentRunId delegationId now identity
    let reached ← inspect id
    pure (listWaits reached parentRunId)

def clearWait (parentRunId delegationId : String) : DelegationTransaction (List WaitRow) := do
  let _ ← deleteWait parentRunId delegationId
  let reached ← inspect id
  pure (listWaits reached parentRunId)

/-- `DELEGATION_TRANSITIONS`, by whether it allows the target. -/
def delegationAllowed : DelegationStatus → DelegationStatus → Bool
  | .created, .running => true
  | .created, .ended outcome => outcome != .completed
  | .running, .waiting => true
  | .running, .ended _ => true
  | .waiting, .running => true
  | .waiting, .ended _ => true
  | _, _ => false

/-- Charges the parent with what the child and its descendants have used. -/
def releaseReservation (delegation : DelegationRow) (reason : DelegationOutcome)
    (now : Nat) : DelegationTransaction Bool := do
  let envelope ← inspect (fun store => store.envelopes.find delegation.childRunId)
  let child ← expect envelope (invalidState "delegation child budget envelope is missing")
  releaseBudgetReservation delegation.delegationId reason child.effectiveUsage now

def settleTransition (current : DelegationRow) (now : Nat) :
    DelegationStatus → DelegationTransaction Unit
  | .ended outcome => do
      let _ ← releaseReservation current outcome now
      let _ ← deleteWait current.parentRunId current.delegationId
      pure ()
  | _ => pure ()

def transitionDelegation (options : RunOptions) (delegationId : String)
    (status : DelegationStatus) (resultSummary : Option String) (now : Nat) :
    DelegationTransaction DelegationRow := do
  let found ← inspect (fun store => store.delegations.find delegationId)
  let current ← expect found delegationNotFound
  demand (delegationAllowed current.status status = true)
    (invalidState
      ("invalid delegation transition " ++ delegationText current.status ++ " -> " ++
        delegationText status))
  updateDelegationStatus delegationId status (some now)
    (if status.active then none else some now) (resultSummary.map options.sha256) now
  settleTransition current now status
  let updated ← inspect (fun store => store.delegations.find delegationId)
  expect updated (invalidState "delegation disappeared after transition")

def terminalStatusForRun (status : RunStatus) (terminalReason : Option String) :
    DelegationOutcome :=
  match status with
  | .completed => .completed
  | .cancelled => .cancelled
  | _ =>
    if terminalReason = some "AGENT_TIME_BUDGET_EXCEEDED" then .timedOut else .failed

def lastAssistantText (messages : List MessageRow) : Option String :=
  messages.reverse.findSome? (fun row =>
    match row.role, row.content with
    | .assistant, .assistant text => if text = "" then none else some text
    | _, _ => none)

def payloadErrorCode (payload : Payload) : Option String :=
  payload.textMember "errorCode"

def recordedErrorCode (events : List EventRow) : Option String :=
  (events.reverse.find? (fun row => row.eventType == "run.failed")).bind
    (fun row => payloadErrorCode row.payload)

def resultErrorCode (outcome : DelegationOutcome) (recorded terminalReason : Option String) :
    Option String :=
  if recorded.getD "" = "" ∧ outcome ≠ .completed then
    some (terminalReason.getD (outcomeText outcome))
  else recorded

/-- `#terminalResult` of a delegation that ended with `outcome`. -/
def terminalResult (delegation : DelegationRow) (outcome : DelegationOutcome) :
    LedgerTransaction TerminalResult := do
  let store ← inspect id
  let notTerminal := invalidState "delegation child Run is not terminal"
  let child ← expect (store.runs.find delegation.childRunId) notTerminal
  demand (child.status.terminal = true) notTerminal
  let text := lastAssistantText (listMessages store delegation.childConversationId)
  let artifacts :=
    (store.artifacts.filter (fun row => decide (row.runId = delegation.childRunId))).map
      ArtifactRow.reference
  let reason := attemptReason store child.currentAttemptId
  pure
    { delegationId := delegation.delegationId
      childRunId := delegation.childRunId
      status := outcome
      expectedOutput := delegation.expectedOutput
      summary := text.map (sliceUnits 8192)
      artifacts := artifacts.take 32
      usage := aggregateRunUsage store delegation.childRunId
      errorCode := resultErrorCode outcome
        (recordedErrorCode (listEvents store delegation.childRunId)) reason
      truncated := text.any (fun text => decide (8192 < utf16Length text)) ||
        decide (32 < artifacts.length) }

/-- `#appendRunEvent`: a repeated event must say the same. -/
def appendRunEvent (runId : String) (attemptId : Option String) (eventType : String)
    (payload : Payload) (idempotencyKey : String) (now : Nat) (eventId : String) :
    LedgerTransaction Unit := do
  let existing ← inspect (fun store => getEventByIdempotency store runId idempotencyKey)
  let input := lifecycleEvent runId attemptId eventType payload (some idempotencyKey) now
  match existing with
  | some row =>
    demand (input.repeats row)
      (.service .eventIdempotencyConflict
        "delegation result event conflicts with the durable event")
  | none => do
      let sequence ← nextEventSequence runId now
      insertEvent (input.toRow sequence eventId)

structure DelegationCompletion where
  delegation : DelegationRow
  result : TerminalResult
  parentRunId : String
  resumeParent : Bool
  replayed : Bool

def resultMessage (delivery : ResultDeliveryRow) (result : TerminalResult) : MessageContent :=
  .toolResult delivery.parentToolCallId delivery.toolName (.delegation result) false

/-- The durable answer to the call, if the conversation has one. -/
def findToolResult (messages : List MessageRow) (toolCallId : String) : Option MessageRow :=
  messages.find? (fun row =>
    match row.role, row.content with
    | .tool, .toolResult answered _ _ _ => decide (answered = toolCallId)
    | _, _ => false)

/-- The answer of the child as a message of its parent's conversation, stored once. -/
def storeResult (delivery : ResultDeliveryRow) (result : TerminalResult) (parentRun : RunRow)
    (now : Nat) (messageId : String) : LedgerTransaction Unit := do
  let store ← inspect id
  match findToolResult (listMessages store parentRun.conversationId) delivery.parentToolCallId with
  | some existing =>
    demand (existing.content = resultMessage delivery result)
      (.service .eventIdempotencyConflict
        "delegation Tool result conflicts with the durable message")
  | none =>
    insertMessage
      { messageId := messageId
        conversationId := parentRun.conversationId
        role := .tool
        content := resultMessage delivery result
        createdAt := now }

def deliverResult (current : DelegationRow) (delivery : ResultDeliveryRow)
    (outcome : DelegationOutcome) (result : TerminalResult) (parentRun : RunRow) (now : Nat)
    (createId : Nat → String) : LedgerTransaction Unit := do
  storeResult delivery result parentRun now (createId 0)
  appendRunEvent parentRun.runId (some delivery.parentAttemptId) "delegation.resolved"
    (.object
      [("childRunId", .text current.childRunId), ("delegationId", .text current.delegationId),
        ("status", .text (outcomeText outcome))])
    ("delegation-result:" ++ current.delegationId) now (createId 1)
  appendRunEvent parentRun.runId (some delivery.parentAttemptId) "tool.completed"
    (.object
      [("isError", .flag false), ("name", .text delivery.toolName),
        ("resumedFromDelegation", .flag true),
        ("toolCallId", .text delivery.parentToolCallId)])
    ("tool-complete:" ++ delivery.parentToolCallId) now (createId 2)
  appendRunEvent parentRun.runId (some delivery.parentAttemptId) "run.checkpoint"
    (.object
      [("isError", .flag false), ("kind", .text "tool.completed"),
        ("name", .text delivery.toolName), ("toolCallId", .text delivery.parentToolCallId)])
    ("checkpoint:tool:" ++ delivery.parentToolCallId) now (createId 3)

/-- The delegation row follows its child, or already has its result. -/
def settleDelegation (current : DelegationRow) (outcome : DelegationOutcome)
    (resultSha256 : String) (now : Nat) : DelegationTransaction DelegationRow := do
  if current.status.active = true then do
    updateDelegationStatus current.delegationId (.ended outcome) (some now) (some now)
      (some resultSha256) now
    let refreshed ← inspect (fun store => store.delegations.find current.delegationId)
    expect refreshed (invalidState "delegation disappeared after child completion")
  else do
    demand (∀ recorded ∈ current.resultSummarySha256, recorded ≠ "" →
        recorded = resultSha256)
      (.service .eventIdempotencyConflict "terminal delegation result changed after persistence")
    pure current

/-- The end of a child: its result, the release of its reservation, and the
delivery of the result to a parent that waits. -/
def completeEnded (options : RunOptions) (current : DelegationRow)
    (outcome : DelegationOutcome) (now : Nat) (createId : Nat → String) :
    RunTransaction DelegationCompletion := do
  let result ← onLedger (terminalResult current outcome)
  let resultSha256 := options.resultSha256 result
  let _ ← onDelegations (releaseReservation current outcome now)
  let updated ← onDelegations (settleDelegation current outcome resultSha256 now)
  let tables ← inspect id
  let settled : DelegationCompletion :=
    { delegation := updated
      result := result
      parentRunId := current.parentRunId
      resumeParent := false
      replayed := false }
  match tables.delegations.resultDeliveries.find current.delegationId with
  | none => pure settled
  | some delivery =>
    match delivery.state with
    | .delivered deliveredSha256 _ => do
        demand (deliveredSha256 = resultSha256)
          (.service .eventIdempotencyConflict "delegation result delivery hash changed")
        pure { settled with replayed := true }
    | .pending => do
        let parentRun ← expect (tables.ledger.runs.find delivery.parentRunId)
          (.service .runNotFound "delegation parent run not found during result delivery")
        onLedger (deliverResult current delivery outcome result parentRun now createId)
        onDelegations do
          markResultDelivered current.delegationId resultSha256 now
          let _ ← deleteWait parentRun.runId current.delegationId
          pure ()
        pure
          { settled with
            parentRunId := parentRun.runId
            resumeParent := !parentRun.status.terminal }

def completeChild (options : RunOptions) (childRunId : String) (now : Nat)
    (createId : Nat → String) : RunTransaction (Option DelegationCompletion) := do
  let tables ← inspect id
  match getDelegationByChildRun tables.delegations childRunId with
  | none => pure none
  | some current =>
    match tables.ledger.runs.find childRunId with
    | none => pure none
    | some childRun =>
      if childRun.status.terminal = true then do
        let outcome := terminalStatusForRun childRun.status
          (attemptReason tables.ledger childRun.currentAttemptId)
        let completion ← completeEnded options current outcome now createId
        pure (some completion)
      else pure none

/-- The child's run and attempt fail before they were scheduled. -/
def failUnstartedRun (options : RunOptions) (delegation : DelegationRow) (childRun : RunRow)
    (attemptId errorCode : String) (now : Nat) (createId : Nat → String) :
    LedgerTransaction Unit := do
  updateAttempt attemptId .failed none (some now) none now
  updateAttemptUsage attemptId 0 (some errorCode) now
  updateRun options.completionRule
    (RunUpdate.plain childRun.runId .failed .none (some attemptId) childRun.startedAt
      (some now) now)
  appendRunEvent childRun.runId (some attemptId) "run.failed"
    (.object [("errorCode", .text errorCode)])
    ("delegation-schedule-failed:" ++ delegation.delegationId) now (createId 0)

/-- Fails a child that could not be scheduled. The guard is on the delegation
alone: whatever the status of the child's run is, it becomes `FAILED`. -/
def failChildBeforeStart (options : RunOptions) (delegationId errorCode : String) (now : Nat)
    (createId : Nat → String) : RunTransaction DelegationRow := do
  bounded errorCode "delegation scheduler errorCode" 128 matchesErrorPattern
  let tables ← inspect id
  let delegation ← expect (tables.delegations.delegations.find delegationId) delegationNotFound
  if delegation.status.active = false then pure delegation
  else do
    let noAttempt := invalidState "delegation child run attempt is missing"
    let childRun ← expect (tables.ledger.runs.find delegation.childRunId) noAttempt
    let attemptId ← expect childRun.currentAttemptId noAttempt
    onLedger (failUnstartedRun options delegation childRun attemptId errorCode now createId)
    let result ← onLedger (terminalResult delegation .failed)
    onDelegations do
      let _ ← releaseReservation delegation .failed now
      updateDelegationStatus delegationId (.ended .failed) (some now) (some now)
        (some (options.resultSha256 result)) now
      let updated ← inspect (fun store => store.delegations.find delegationId)
      expect updated (invalidState "delegation disappeared after scheduler failure")

/-- `terminalStatus: "CANCELLED" | "TIMED_OUT"`. -/
inductive Termination where
  | cancelled
  | timedOut
  deriving DecidableEq

def Termination.runStatus : Termination → RunStatus
  | .cancelled => .cancelled
  | .timedOut => .failed

def Termination.reason (errorCode : String) : Termination → String
  | .cancelled => errorCode
  | .timedOut => "AGENT_TIME_BUDGET_EXCEEDED"

def Termination.eventType : Termination → String
  | .cancelled => "run.cancelled"
  | .timedOut => "run.failed"

def Termination.payload (errorCode : String) : Termination → Payload
  | .cancelled => .object [("reason", .text errorCode)]
  | .timedOut => .object [("errorCode", .text errorCode)]

def Termination.text : Termination → String
  | .cancelled => "CANCELLED"
  | .timedOut => "TIMED_OUT"

/-- The attempt keeps its usage and gets the reason. -/
def terminateAttempt (attempt : Option AttemptRow) (termination : Termination)
    (errorCode : String) (now : Nat) : LedgerTransaction Unit :=
  match attempt with
  | none => pure ()
  | some attempt => do
      updateAttemptUsage attempt.attemptId attempt.used (some (termination.reason errorCode)) now
      updateAttempt attempt.attemptId (attemptStatusOf termination.runStatus) none (some now)
        none now

/-- The first transaction of `terminateChild`: whether the delegation exists. -/
def terminateRun (options : RunOptions) (childRunId : String) (termination : Termination)
    (errorCode : String) (now : Nat) (createId : Nat → String) : RunTransaction Bool := do
  bounded errorCode "delegation terminal errorCode" 128 matchesErrorPattern
  let tables ← inspect id
  match getDelegationByChildRun tables.delegations childRunId with
  | none => pure false
  | some delegation => do
      let childRun ← expect (tables.ledger.runs.find childRunId)
        (.service .runNotFound "delegation child run not found")
      if childRun.status.terminal = true then pure true
      else do
        onLedger do
          terminateAttempt (childRun.currentAttemptId.bind tables.ledger.attempts.find)
            termination errorCode now
          updateRun options.completionRule
            (RunUpdate.plain childRun.runId termination.runStatus .none
              childRun.currentAttemptId childRun.startedAt (some now) now)
          appendRunEvent childRun.runId childRun.currentAttemptId termination.eventType
            (termination.payload errorCode)
            ("delegation-terminal:" ++ delegation.delegationId ++ ":" ++ termination.text)
            now (createId 0)
        pure true

def completeTerminated (options : RunOptions) (childRunId : String) (now : Nat)
    (createId : Nat → String) (known : Bool) : RunTransaction (Option DelegationCompletion) :=
  if known = true then completeChild options childRunId now createId else pure none

end OpenRill.Runs.DelegationService
