import OpenRill.Approvals.Ledger

/-!
# The approval service

`matchExecutionPolicy` and the transactions of `ApprovalService`. A canonical text is the
list of tokens of a document with its members in key order, and `sha256` gives the digest
of such a text. `expirePending` is also the first part of `list` and of `cancelRun`, which
then read, and cancel what they read one after the other.
-/

namespace OpenRill.Approvals.Service

open Lib Lib.Checked Ledger

structure ApprovalOptions where
  sha256 : List Token → String
  timeoutMs : Nat
  shellExecutable : String

inductive PolicyDecision where
  | deny
  | prompt
  | allow
  deriving DecidableEq

def PolicyDecision.text : PolicyDecision → String
  | .deny => "DENY"
  | .prompt => "PROMPT"
  | .allow => "ALLOW"

theorem PolicyDecision.text_injective {first second : PolicyDecision}
    (same : first.text = second.text) : first = second := by
  cases first <;> cases second <;> first | rfl | exact absurd same (by decide)

structure ExecutionPolicyRule where
  decision : PolicyDecision
  toolName : Option String
  commandKind : Option CommandKind
  executable : Option String
  workspaceId : Option String

structure ExecutionPolicy where
  defaultDecision : PolicyDecision
  rules : List ExecutionPolicyRule

structure PolicyRequest where
  toolName : String
  commandKind : CommandKind
  executable : String
  workspaceId : String

def optionalMember (key : String) (value : Option String) : List (String × Json) :=
  (value.map (fun text => (key, Json.text text))).toList

def ExecutionPolicyRule.json (rule : ExecutionPolicyRule) : Json :=
  .object
    ([("decision", .text rule.decision.text)] ++
      optionalMember "toolName" rule.toolName ++
      optionalMember "commandKind" (rule.commandKind.map CommandKind.text) ++
      optionalMember "executable" rule.executable ++
      optionalMember "workspaceId" rule.workspaceId)

def PolicyRequest.json (subject : PolicyRequest) : Json :=
  .object
    [ ("toolName", .text subject.toolName),
      ("workspaceId", .text subject.workspaceId),
      ("commandKind", .text subject.commandKind.text),
      ("executable", .text subject.executable) ]

def ExecutionPolicyRule.fits (rule : ExecutionPolicyRule) (subject : PolicyRequest) : Bool :=
  decide (∀ name ∈ rule.toolName, name = subject.toolName) &&
    decide (∀ kind ∈ rule.commandKind, kind = subject.commandKind) &&
    decide (∀ executable ∈ rule.executable, executable = subject.executable) &&
    decide (∀ workspaceId ∈ rule.workspaceId, workspaceId = subject.workspaceId)

def approvalSha256 (options : ApprovalOptions) (value : Json) : String :=
  options.sha256 value.sorted.print

structure PolicyMatch where
  decision : PolicyDecision
  fingerprint : String
  deriving DecidableEq

def fingerprintOf (options : ApprovalOptions) (decision : PolicyDecision)
    (subject : PolicyRequest) (rule : Option ExecutionPolicyRule) : String :=
  approvalSha256 options
    (.object
      [ ("decision", .text decision.text),
        ("subject", subject.json),
        ("rule", (rule.map ExecutionPolicyRule.json).getD .null) ])

def matchExecutionPolicy (options : ApprovalOptions) (policy : ExecutionPolicy)
    (subject : PolicyRequest) : PolicyMatch :=
  let rule := policy.rules.find? (fun candidate => candidate.fits subject)
  let decision := (rule.map ExecutionPolicyRule.decision).getD policy.defaultDecision
  { decision := decision
    fingerprint := fingerprintOf options decision subject rule }

structure PolicySubject where
  commandKind : CommandKind
  executable : String
  cwd : String
  background : Bool

def PolicySubject.json (subject : PolicySubject) : Json :=
  .object
    [ ("commandKind", .text subject.commandKind.text),
      ("executable", .text subject.executable),
      ("cwd", .text subject.cwd),
      ("background", .flag subject.background) ]

structure BindingInput where
  context : ToolContext
  toolName : String
  input : Json
  toolSchema : Json
  policySubject : PolicySubject
  policy : ExecutionPolicy
  continuation : Continuation

structure Binding where
  inputHash : String
  schemaHash : String
  bindingDigest : String

def bindingOf (options : ApprovalOptions) (input : BindingInput) : Binding :=
  let inputHash := approvalSha256 options input.input
  let schemaHash := approvalSha256 options input.toolSchema
  { inputHash := inputHash
    schemaHash := schemaHash
    bindingDigest := approvalSha256 options
      (.object
        [ ("runId", .text input.context.runId),
          ("attemptId", .text input.context.attemptId),
          ("conversationId", .text input.context.conversationId),
          ("workspaceId", .text input.context.workspaceId),
          ("toolCallId", .text input.context.toolCallId),
          ("toolName", .text input.toolName),
          ("inputHash", .text inputHash),
          ("schemaHash", .text schemaHash),
          ("policySubject", input.policySubject.json) ]) }

def policyOf (options : ApprovalOptions) (input : BindingInput) : PolicyMatch :=
  matchExecutionPolicy options input.policy
    { toolName := input.toolName
      commandKind := input.policySubject.commandKind
      executable := input.policySubject.executable
      workspaceId := input.context.workspaceId }

inductive Authorization where
  | allow (bindingDigest policyFingerprint toolExecutionId : String)
      (grantedByConversation : Bool)
  | deny (bindingDigest policyFingerprint toolExecutionId : String)
  | prompt (request : ApprovalRow) (toolExecutionId : String)

def Authorization.toolExecutionId : Authorization → String
  | .allow _ _ toolExecutionId _ => toolExecutionId
  | .deny _ _ toolExecutionId => toolExecutionId
  | .prompt _ toolExecutionId => toolExecutionId

def effectiveDecision (granted : Bool) (decision : PolicyDecision) : PolicyDecision :=
  if granted = true then .allow else decision

def initialStatus : PolicyDecision → ToolCallStatus
  | .prompt => .pendingApproval
  | .deny => .denied
  | .allow => .approved

def newToolCall (options : ApprovalOptions) (input : BindingInput) (toolExecutionId : String)
    (effective : PolicyDecision) (now : Nat) : ToolCallRow where
  toolExecutionId := toolExecutionId
  context := input.context
  toolName := input.toolName
  inputHash := (bindingOf options input).inputHash
  schemaHash := (bindingOf options input).schemaHash
  bindingDigest := (bindingOf options input).bindingDigest
  status := initialStatus effective
  result := none
  errorCode := if effective = .deny then some "PROCESS_POLICY_DENIED" else none
  createdAt := now
  updatedAt := now

def newRequest (options : ApprovalOptions) (input : BindingInput)
    (requestId toolExecutionId : String) (now : Nat) : ApprovalRow where
  requestId := requestId
  version := 1
  toolExecutionId := toolExecutionId
  context := input.context
  toolName := input.toolName
  bindingDigest := (bindingOf options input).bindingDigest
  policyFingerprint := (policyOf options input).fingerprint
  status := .pending
  decision := none
  continuation := input.continuation
  expiresAt := now + options.timeoutMs
  resolvedAt := none
  consumedAt := none
  createdAt := now
  updatedAt := now

def answer (options : ApprovalOptions) (tables : ApprovalTables) (input : BindingInput)
    (toolExecutionId : String) (granted : Bool) (now : Nat) (createId : Nat → String) :
    Except ApprovalFailure (ApprovalTables × Authorization) :=
  let bindingDigest := (bindingOf options input).bindingDigest
  let policy := policyOf options input
  match effectiveDecision granted policy.decision with
  | .allow => .ok (tables, .allow bindingDigest policy.fingerprint toolExecutionId granted)
  | .deny => .ok (tables, .deny bindingDigest policy.fingerprint toolExecutionId)
  | .prompt => do
      let request := newRequest options input (createId 1) toolExecutionId now
      let asked ← insertApproval tables request
      pure (asked, .prompt request toolExecutionId)

def pendingRequest (tables : ApprovalTables) (toolExecutionId : String) : Option ApprovalRow :=
  (getApprovalByToolExecution tables toolExecutionId).filter
    (fun row => decide (row.status = .pending))

def authorizeOrRequest (options : ApprovalOptions) (tables : ApprovalTables)
    (input : BindingInput) (now : Nat) (createId : Nat → String) :
    Except ApprovalFailure (ApprovalTables × Authorization) :=
  let bindingDigest := (bindingOf options input).bindingDigest
  let policy := policyOf options input
  let granted := hasConversationGrant tables input.context.conversationId policy.fingerprint
  match getToolCall tables input.context.runId input.context.toolCallId with
  | some existing => do
      require (existing.bindingDigest = bindingDigest)
        (.service .toolCallConflict "tool call id reused with different approval binding")
      match pendingRequest tables existing.toolExecutionId with
      | some approval => pure (tables, .prompt approval existing.toolExecutionId)
      | none =>
        if existing.status = .running ∨ existing.status = .completed then
          pure (tables, .allow bindingDigest policy.fingerprint existing.toolExecutionId false)
        else answer options tables input existing.toolExecutionId granted now createId
  | none => do
      let toolExecutionId := createId 0
      let stored ← insertToolCall tables
        (newToolCall options input toolExecutionId (effectiveDecision granted policy.decision) now)
      answer options stored input toolExecutionId granted now createId

def approvalOf (tables : ApprovalTables) (requestId : String) :
    Except ApprovalFailure ApprovalRow :=
  fetch (tables.approvals.find requestId) (.service .notFound "approval request not found")

def resolvedStatus : ApprovalDecision → ApprovalStatus
  | .deny => .denied
  | _ => .approved

def resolvedCallStatus : ApprovalDecision → ToolCallStatus
  | .deny => .denied
  | _ => .approved

def grantOf (row : ApprovalRow) (now : Nat) : GrantRow where
  conversationId := row.context.conversationId
  policyFingerprint := row.policyFingerprint
  createdFromRequestId := row.requestId
  createdAt := now

/-- `resolve`; the flag says that a resolution was replayed. What it writes of an expired
request is rolled back by the error that follows. -/
def resolve (tables : ApprovalTables) (requestId : String) (expectedVersion : Nat)
    (decision : ApprovalDecision) (now : Nat) :
    Except ApprovalFailure (ApprovalTables × ApprovalRow × Bool) := do
  let row ← approvalOf tables requestId
  if row.status ≠ .pending then
    require (row.replays decision = true)
      (.service .stateInvalid ("approval is not pending: " ++ row.status.text))
    pure (tables, row, true)
  else
    require (now < row.expiresAt) (.service .stateInvalid "approval request expired")
    require (row.version = expectedVersion) (.service .versionConflict "approval version conflict")
    let resolved ← fetch
      (resolveApproval tables requestId expectedVersion (resolvedStatus decision) decision now)
      (.service .versionConflict "approval was resolved concurrently")
    let called ← updateToolCall resolved
      { toolExecutionId := row.toolExecutionId
        status := resolvedCallStatus decision
        result := none
        errorCode := if decision = .deny then some "APPROVAL_DENIED" else none
        updatedAt := now }
    let granted :=
      if decision = .allowForConversation then insertConversationGrant called (grantOf row now)
      else called
    let reread ← approvalOf granted requestId
    pure (granted, reread, false)

structure Consumption where
  request : ApprovalRow
  toolCall : ToolCallRow
  continuation : Continuation

def consume (tables : ApprovalTables) (requestId : String) (expectedVersion : Nat)
    (bindingDigest : String) (now : Nat) :
    Except ApprovalFailure (ApprovalTables × Consumption) := do
  let row ← approvalOf tables requestId
  require (row.bindingDigest = bindingDigest)
    (.service .bindingMismatch "approval binding changed before execution")
  require (row.status ≠ .consumed) (.service .stateInvalid "approval has already been consumed")
  require (row.status = .approved)
    (.service .stateInvalid ("approval is not executable: " ++ row.status.text))
  let consumed ← fetch (consumeApproval tables requestId expectedVersion bindingDigest now)
    (.service .versionConflict "approval consume conflict")
  let running ← updateToolCall consumed
    { toolExecutionId := row.toolExecutionId
      status := .running
      result := none
      errorCode := none
      updatedAt := now }
  let request ← approvalOf running requestId
  let toolCall ← fetch (running.toolCalls.find row.toolExecutionId)
    (.unexpected "tool call not found")
  pure (running, { request := request, toolCall := toolCall, continuation := row.continuation })

def beginAllowedToolCall (tables : ApprovalTables) (toolExecutionId : String) (now : Nat) :
    Except ApprovalFailure (ApprovalTables × Unit) := do
  let row ← fetch (tables.toolCalls.find toolExecutionId) (.service .notFound "tool call not found")
  if row.status = .running then pure (tables, ())
  else
    require (row.status = .approved)
      (.service .stateInvalid ("tool call is not allowed: " ++ row.status.text))
    let running ← updateToolCall tables
      { toolExecutionId := toolExecutionId
        status := .running
        result := none
        errorCode := none
        updatedAt := now }
    pure (running, ())

def completeToolCall (tables : ApprovalTables) (toolExecutionId : String) (result : Json)
    (isError : Bool) (errorCode : Option String) (now : Nat) :
    Except ApprovalFailure (ApprovalTables × Unit) := do
  let completed ← updateToolCall tables
    { toolExecutionId := toolExecutionId
      status := if isError = true then .failed else .completed
      result := some result
      errorCode := errorCode
      updatedAt := now }
  pure (completed, ())

/-- `status: "DENIED" | "CANCELLED"`. -/
inductive TerminalResult where
  | denied
  | cancelled
  deriving DecidableEq

def TerminalResult.toStatus : TerminalResult → ToolCallStatus
  | .denied => .denied
  | .cancelled => .cancelled

def recordApprovalTerminalResult (tables : ApprovalTables) (requestId : String)
    (status : TerminalResult) (result : Json) (errorCode : String) (now : Nat) :
    Except ApprovalFailure (ApprovalTables × ApprovalRow) := do
  let row ← approvalOf tables requestId
  let recorded ← updateToolCall tables
    { toolExecutionId := row.toolExecutionId
      status := status.toStatus
      result := some result
      errorCode := some errorCode
      updatedAt := now }
  pure (recorded, row)

/-- The update of a call whose request ended without an answer. -/
def cancelledCall (toolExecutionId errorCode : String) (now : Nat) : ToolCallUpdate where
  toolExecutionId := toolExecutionId
  status := .cancelled
  result := none
  errorCode := some errorCode
  updatedAt := now

def cancel (tables : ApprovalTables) (requestId : String) (now : Nat) :
    Except ApprovalFailure (ApprovalTables × ApprovalRow) := do
  let row ← approvalOf tables requestId
  if row.status = .pending then
    let cancelled ← updateToolCall (markApprovalTerminal tables requestId .cancelled now)
      (cancelledCall row.toolExecutionId "APPROVAL_CANCELLED" now)
    let reread ← approvalOf cancelled requestId
    pure (cancelled, reread)
  else pure (tables, row)

def cancelExpiredCalls (now : Nat) : ApprovalTables → List String →
    Except ApprovalFailure ApprovalTables
  | tables, [] => .ok tables
  | tables, requestId :: rest =>
    match tables.approvals.find requestId with
    | none => cancelExpiredCalls now tables rest
    | some row => do
        let cancelled ← updateToolCall tables
          (cancelledCall row.toolExecutionId "APPROVAL_EXPIRED" now)
        cancelExpiredCalls now cancelled rest

def expirePending (tables : ApprovalTables) (now : Nat) :
    Except ApprovalFailure (ApprovalTables × List String) := do
  let ids := listOverdue tables now
  let expired ← cancelExpiredCalls now (expireApprovals now tables ids) ids
  pure (expired, ids)

end OpenRill.Approvals.Service
