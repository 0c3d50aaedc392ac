import OpenRill.Lib.Checked
import OpenRill.Lib.Json
import OpenRill.Lib.Table
import OpenRill.State.Failure

/-!
# The tables of process approvals

Tool calls, approval requests, conversation grants and process records with
`StateApprovalProcessRepository`. The rows that a tool call refers to (its run, attempt,
conversation and workspace) are taken to exist. The stored input, the summary of a
request, and the paths, display texts and backend columns of a process are written and
shown, and no operation decides by them; they are left out.
-/

namespace OpenRill.Approvals.Ledger

open Lib Lib.Checked State

inductive ApprovalErrorCode where
  | notFound
  | versionConflict
  | stateInvalid
  | bindingMismatch
  | toolCallConflict
  deriving DecidableEq

abbrev ApprovalFailure := Failure ApprovalErrorCode

inductive ToolCallStatus where
  | pendingApproval
  | approved
  | running
  | completed
  | failed
  | denied
  | cancelled
  deriving DecidableEq

def ToolCallStatus.text : ToolCallStatus → String
  | .pendingApproval => "PENDING_APPROVAL"
  | .approved => "APPROVED"
  | .running => "RUNNING"
  | .completed => "COMPLETED"
  | .failed => "FAILED"
  | .denied => "DENIED"
  | .cancelled => "CANCELLED"

inductive ApprovalStatus where
  | pending
  | approved
  | denied
  | expired
  | consumed
  | cancelled
  deriving DecidableEq

def ApprovalStatus.text : ApprovalStatus → String
  | .pending => "PENDING"
  | .approved => "APPROVED"
  | .denied => "DENIED"
  | .expired => "EXPIRED"
  | .consumed => "CONSUMED"
  | .cancelled => "CANCELLED"

def ApprovalStatus.final : ApprovalStatus → Bool
  | .denied => true
  | .expired => true
  | .consumed => true
  | .cancelled => true
  | _ => false

inductive ApprovalDecision where
  | allowOnce
  | allowForConversation
  | deny
  deriving DecidableEq

inductive ProcessStatus where
  | starting
  | running
  | exited
  | failedToStart
  | cancelled
  | orphaned
  deriving DecidableEq

inductive CommandKind where
  | argv
  | shell
  deriving DecidableEq

def CommandKind.text : CommandKind → String
  | .argv => "argv"
  | .shell => "shell"

inductive CommandSpec where
  | argv (executable : String) (args : Option (List String))
  | shell (script : String)

def CommandSpec.kind : CommandSpec → CommandKind
  | .argv _ _ => .argv
  | .shell _ => .shell

structure ProcessRunInput where
  command : CommandSpec
  cwd : Option String
  env : Option Json
  background : Option Bool
  timeoutMs : Option Nat

structure ToolContext where
  runId : String
  attemptId : String
  conversationId : String
  workspaceId : String
  toolCallId : String
  deriving DecidableEq

structure ToolCallRow where
  toolExecutionId : String
  context : ToolContext
  toolName : String
  inputHash : String
  schemaHash : String
  bindingDigest : String
  status : ToolCallStatus
  result : Option Json
  errorCode : Option String
  createdAt : Nat
  updatedAt : Nat

structure Continuation where
  input : ProcessRunInput
  context : ToolContext

structure ApprovalRow where
  requestId : String
  version : Nat
  toolExecutionId : String
  context : ToolContext
  toolName : String
  bindingDigest : String
  policyFingerprint : String
  status : ApprovalStatus
  decision : Option ApprovalDecision
  continuation : Continuation
  expiresAt : Nat
  resolvedAt : Option Nat
  consumedAt : Option Nat
  createdAt : Nat
  updatedAt : Nat

def ApprovalRow.replays (row : ApprovalRow) (decision : ApprovalDecision) : Bool :=
  decide (row.decision = some decision) &&
    decide (row.status = .approved ∨ row.status = .denied ∨ row.status = .consumed)

structure GrantRow where
  conversationId : String
  policyFingerprint : String
  createdFromRequestId : String
  createdAt : Nat
  deriving DecidableEq

def GrantRow.key (row : GrantRow) : String × String :=
  (row.conversationId, row.policyFingerprint)

inductive ProcessMode where
  | foreground
  | background
  deriving DecidableEq

structure ProcessRow where
  processId : String
  toolExecutionId : String
  context : ToolContext
  mode : ProcessMode
  commandKind : CommandKind
  status : ProcessStatus
  startedAt : Option Nat
  endedAt : Option Nat
  updatedAt : Nat
  deriving DecidableEq

structure ApprovalTables where
  toolCalls : Table ToolCallRow.toolExecutionId
  approvals : Table ApprovalRow.requestId
  grants : Table GrantRow.key
  processes : Table ProcessRow.processId

def ApprovalTables.empty : ApprovalTables where
  toolCalls := Table.empty
  approvals := Table.empty
  grants := Table.empty
  processes := Table.empty

def ToolCallRow.isCall (row : ToolCallRow) (runId toolCallId : String) : Bool :=
  decide (row.context.runId = runId ∧ row.context.toolCallId = toolCallId)

def getToolCall (tables : ApprovalTables) (runId toolCallId : String) : Option ToolCallRow :=
  tables.toolCalls.rows.find? (fun row => row.isCall runId toolCallId)

/-- `UNIQUE (run_id, tool_call_id)` next to the primary key. -/
def insertToolCall (tables : ApprovalTables) (row : ToolCallRow) :
    Except ApprovalFailure ApprovalTables := do
  require (getToolCall tables row.context.runId row.context.toolCallId = none)
    (.constraint "tool_calls.run_id, tool_calls.tool_call_id")
  let toolCalls ← fetch (tables.toolCalls.insert row) (.constraint "tool_calls.tool_execution_id")
  pure { tables with toolCalls := toolCalls }

structure ToolCallUpdate where
  toolExecutionId : String
  status : ToolCallStatus
  result : Option Json
  errorCode : Option String
  updatedAt : Nat

/-- An absent result keeps the stored one; the error code is always given. -/
def ToolCallRow.updated (row : ToolCallRow) (input : ToolCallUpdate) : ToolCallRow :=
  { row with
    status := input.status
    result := input.result.or row.result
    errorCode := input.errorCode
    updatedAt := input.updatedAt }

def updateToolCall (tables : ApprovalTables) (input : ToolCallUpdate) :
    Except ApprovalFailure ApprovalTables := do
  let current ← fetch (tables.toolCalls.find input.toolExecutionId)
    (.state .schemaInconsistent "tool call update target missing")
  pure { tables with toolCalls := tables.toolCalls.update (current.updated input) }

def getApprovalByToolExecution (tables : ApprovalTables) (toolExecutionId : String) :
    Option ApprovalRow :=
  tables.approvals.rows.find? (fun row => decide (row.toolExecutionId = toolExecutionId))

/-- `tool_execution_id TEXT NOT NULL UNIQUE`, referring to a tool call. -/
def insertApproval (tables : ApprovalTables) (row : ApprovalRow) :
    Except ApprovalFailure ApprovalTables := do
  require (getApprovalByToolExecution tables row.toolExecutionId = none)
    (.constraint "approval_requests.tool_execution_id")
  require ((tables.toolCalls.find row.toolExecutionId).isSome)
    (.constraint "FOREIGN KEY constraint failed")
  let approvals ← fetch (tables.approvals.insert row) (.constraint "approval_requests.request_id")
  pure { tables with approvals := approvals }

def ApprovalRow.resolvedAs (row : ApprovalRow) (status : ApprovalStatus)
    (decision : ApprovalDecision) (resolvedAt : Nat) : ApprovalRow :=
  { row with
    version := row.version + 1
    status := status
    decision := some decision
    resolvedAt := some resolvedAt
    updatedAt := resolvedAt }

def ApprovalRow.consumedBy (row : ApprovalRow) (consumedAt : Nat) : ApprovalRow :=
  { row with
    version := row.version + 1
    status := .consumed
    consumedAt := some consumedAt
    updatedAt := consumedAt }

def ApprovalRow.ended (row : ApprovalRow) (status : ApprovalStatus) (updatedAt : Nat) :
    ApprovalRow :=
  { row with version := row.version + 1, status := status, updatedAt := updatedAt }

def writeApproval (tables : ApprovalTables) (row : ApprovalRow) : ApprovalTables :=
  { tables with approvals := tables.approvals.update row }

/-- `… WHERE request_id=? AND version=? AND status='PENDING'`, `none` for no change. -/
def resolveApproval (tables : ApprovalTables) (requestId : String) (expectedVersion : Nat)
    (status : ApprovalStatus) (decision : ApprovalDecision) (resolvedAt : Nat) :
    Option ApprovalTables :=
  match tables.approvals.find requestId with
  | none => none
  | some row =>
    if row.version = expectedVersion ∧ row.status = .pending then
      some (writeApproval tables (row.resolvedAs status decision resolvedAt))
    else none

def consumeApproval (tables : ApprovalTables) (requestId : String) (expectedVersion : Nat)
    (bindingDigest : String) (consumedAt : Nat) : Option ApprovalTables :=
  match tables.approvals.find requestId with
  | none => none
  | some row =>
    if row.version = expectedVersion ∧ row.status = .approved ∧
        row.bindingDigest = bindingDigest then
      some (writeApproval tables (row.consumedBy consumedAt))
    else none

/-- `… WHERE request_id=? AND status='PENDING'`. -/
def markApprovalTerminal (tables : ApprovalTables) (requestId : String)
    (status : ApprovalStatus) (updatedAt : Nat) : ApprovalTables :=
  match tables.approvals.find requestId with
  | none => tables
  | some row =>
    if row.status = .pending then writeApproval tables (row.ended status updatedAt)
    else tables

def ApprovalRow.overdue (row : ApprovalRow) (now : Nat) : Bool :=
  decide (row.status = .pending ∧ row.expiresAt ≤ now)

def listOverdue (tables : ApprovalTables) (now : Nat) : List String :=
  (tables.approvals.rows.filter (fun row => row.overdue now)).map ApprovalRow.requestId

def expireApprovals (now : Nat) : ApprovalTables → List String → ApprovalTables
  | tables, [] => tables
  | tables, requestId :: rest =>
    expireApprovals now (markApprovalTerminal tables requestId .expired now) rest

/-- `INSERT … ON CONFLICT(conversation_id,policy_fingerprint) DO NOTHING`. -/
def insertConversationGrant (tables : ApprovalTables) (row : GrantRow) : ApprovalTables :=
  match tables.grants.insert row with
  | some grants => { tables with grants := grants }
  | none => tables

def hasConversationGrant (tables : ApprovalTables) (conversationId policyFingerprint : String) :
    Bool :=
  (tables.grants.find (conversationId, policyFingerprint)).isSome

def getProcessByToolExecution (tables : ApprovalTables) (toolExecutionId : String) :
    Option ProcessRow :=
  tables.processes.rows.find? (fun row => decide (row.toolExecutionId = toolExecutionId))

/-- `tool_execution_id TEXT NOT NULL UNIQUE`, referring to a tool call. -/
def insertProcess (tables : ApprovalTables) (row : ProcessRow) :
    Except ApprovalFailure ApprovalTables := do
  require (getProcessByToolExecution tables row.toolExecutionId = none)
    (.constraint "process_records.tool_execution_id")
  require ((tables.toolCalls.find row.toolExecutionId).isSome)
    (.constraint "FOREIGN KEY constraint failed")
  let processes ← fetch (tables.processes.insert row) (.constraint "process_records.process_id")
  pure { tables with processes := processes }

structure ProcessUpdate where
  processId : String
  status : ProcessStatus
  startedAt : Option Nat
  endedAt : Option Nat
  updatedAt : Nat

def ProcessRow.updated (row : ProcessRow) (input : ProcessUpdate) : ProcessRow :=
  { row with
    status := input.status
    startedAt := input.startedAt.or row.startedAt
    endedAt := input.endedAt.or row.endedAt
    updatedAt := input.updatedAt }

def updateProcess (tables : ApprovalTables) (input : ProcessUpdate) :
    Except ApprovalFailure ApprovalTables := do
  let current ← fetch (tables.processes.find input.processId)
    (.state .schemaInconsistent "process update target missing")
  pure { tables with processes := tables.processes.update (current.updated input) }

def ProcessRow.active (row : ProcessRow) : Bool :=
  decide (row.status = .starting ∨ row.status = .running)

def listActiveProcesses (tables : ApprovalTables) : List ProcessRow :=
  tables.processes.rows.filter ProcessRow.active

def ProcessRow.orphanedAt (row : ProcessRow) (now : Nat) : ProcessRow :=
  { row with status := .orphaned, endedAt := some now, updatedAt := now }

def markOrphaned (now : Nat) : ApprovalTables → List ProcessRow → ApprovalTables
  | tables, [] => tables
  | tables, row :: rest =>
    markOrphaned now { tables with processes := tables.processes.update (row.orphanedAt now) } rest

def markActiveProcessesOrphaned (tables : ApprovalTables) (now : Nat) : ApprovalTables :=
  markOrphaned now tables (listActiveProcesses tables)

end OpenRill.Approvals.Ledger
