import OpenRill.Lib.Table

/-!
# The ledger of browser operations

`withLedger` stores a row before a browser tool runs and completes it afterwards; a restart
interrupts the rows that are still open. A step is what runs between two awaits, and a call of
the ledger is one transaction. `refused` says that a statement of it fails for a reason outside
the rows modelled here.

`createOperationId` gives a new id at each call, here the next number. Left out are the columns
that nothing reads, the payloads of the events, and the evidence.
-/

namespace OpenRill.Browser.OperationLedger

open Lib

inductive OperationStatus where
  | started
  | succeeded
  | failed
  | interrupted
  deriving DecidableEq

/-- What a tool execution hands to `begin`. -/
structure ToolCall where
  runId : String
  attemptId : String
  conversationId : Option String
  toolCallId : Option String
  toolName : String
  inputSha256 : String
  sessionId : Option String
  pageId : Option String
  deriving DecidableEq

structure OperationRow where
  operationId : Nat
  call : ToolCall
  status : OperationStatus
  errorCode : Option String
  documentGeneration : Option Int
  url : Option String
  artifactId : Option String
  startedAt : Nat
  completedAt : Option Nat
  updatedAt : Nat

structure OperationEvent where
  operationId : Nat
  sequence : Nat
  eventType : OperationStatus
  emittedAt : Nat

structure Ledger where
  operations : Table OperationRow.operationId
  events : List OperationEvent

/-- `operationNotFound` and `identityConflict` are the two texts of `STATE_CONFLICT`. -/
inductive LedgerFailure where
  | conversationRequired
  | identityConflict (toolCallId : Option String)
  | operationNotFound (operationId : Nat)
  | writeRefused
  deriving DecidableEq

structure Completion where
  status : OperationStatus
  errorCode : Option String
  documentGeneration : Option Int
  url : Option String
  artifactId : Option String

def isCall (runId toolCallId : String) (row : OperationRow) : Bool :=
  decide (row.call.runId = runId ∧ row.call.toolCallId = some toolCallId)

def getOperationByToolCall (ledger : Ledger) (runId toolCallId : String) : Option OperationRow :=
  ledger.operations.rows.find? (isCall runId toolCallId)

/-- An empty tool call id is not looked up. -/
def storedCall (ledger : Ledger) (call : ToolCall) : Option OperationRow :=
  (call.toolCallId.filter (fun toolCallId => toolCallId ≠ "")).bind
    (getOperationByToolCall ledger call.runId)

/-- The unique index on run and tool call. -/
def callTaken (ledger : Ledger) (call : ToolCall) : Bool :=
  call.toolCallId.any
    (fun toolCallId => (getOperationByToolCall ledger call.runId toolCallId).isSome)

def startedRow (operationId : Nat) (call : ToolCall) (startedAt : Nat) : OperationRow where
  operationId := operationId
  call := call
  status := .started
  errorCode := none
  documentGeneration := none
  url := none
  artifactId := none
  startedAt := startedAt
  completedAt := none
  updatedAt := startedAt

def beginOperation (ledger : Ledger) (operationId : Nat) (call : ToolCall) (startedAt : Nat)
    (refused : Bool) : Except LedgerFailure Ledger :=
  match storedCall ledger call with
  | some existing =>
    if existing.call.toolName ≠ call.toolName ∨ existing.call.inputSha256 ≠ call.inputSha256 then
      .error (.identityConflict call.toolCallId)
    else .ok ledger
  | none =>
    if refused = true ∨ callTaken ledger call = true then .error .writeRefused
    else
      match ledger.operations.insert (startedRow operationId call startedAt) with
      | none => .error .writeRefused
      | some operations =>
        .ok
          { operations := operations
            events := ledger.events ++ [⟨operationId, 1, .started, startedAt⟩] }

def begin (ledger : Ledger) (operationId : Nat) (call : ToolCall) (startedAt : Nat)
    (refused : Bool) : Except LedgerFailure Ledger :=
  if call.conversationId.all (fun conversationId => conversationId = "") = true then
    .error .conversationRequired
  else beginOperation ledger operationId call startedAt refused

def endedRow (row : OperationRow) (completion : Completion) (completedAt : Nat) : OperationRow :=
  { row with
    status := completion.status
    errorCode := completion.errorCode
    documentGeneration := completion.documentGeneration
    url := completion.url
    artifactId := completion.artifactId
    completedAt := some completedAt
    updatedAt := completedAt }

/-- The update of an open row, with its event; nothing when no row changes. -/
def endOperation (ledger : Ledger) (operationId : Nat)
    (completion : OperationRow → Completion) (completedAt : Nat) : Option Ledger :=
  match ledger.operations.find operationId with
  | some row =>
    if row.status = .started then
      some
        { operations := ledger.operations.update (endedRow row (completion row) completedAt)
          events := ledger.events ++ [⟨operationId, 2, (completion row).status, completedAt⟩] }
    else none
  | none => none

def consistent (completion : Completion) : Bool :=
  completion.errorCode.isSome == decide (completion.status ≠ .succeeded)

def completeOperation (ledger : Ledger) (operationId : Nat) (completion : Completion)
    (completedAt : Nat) (refused : Bool) : Except LedgerFailure Ledger :=
  if refused = true then .error .writeRefused
  else
    match endOperation ledger operationId (fun _ => completion) completedAt with
    | some ended => if consistent completion = true then .ok ended else .error .writeRefused
    | none =>
      if (ledger.operations.find operationId).isSome = true then .ok ledger
      else .error (.operationNotFound operationId)

def interruption (row : OperationRow) : Completion where
  status := .interrupted
  errorCode := some "BROWSER_INTERRUPTED_BY_RESTART"
  documentGeneration := row.documentGeneration
  url := row.url
  artifactId := row.artifactId

def interruptOperation (recoveredAt : Nat) (ledger : Ledger) (row : OperationRow) : Ledger :=
  (endOperation ledger row.operationId interruption recoveredAt).getD ledger

def recoverInterruptedOperations (ledger : Ledger) (recoveredAt : Nat) : Ledger :=
  (orderBy OperationRow.startedAt (orderBy OperationRow.operationId
    (ledger.operations.rows.filter (fun row => row.status = .started)))).foldl
      (interruptOperation recoveredAt) ledger

/-- A result, with what the ledger reads of its output; the url is redacted. -/
structure ToolExecutionResult where
  isError : Bool
  errorCode : Option String
  documentGeneration : Option Int
  url : Option String
  artifactId : Option String
  deriving DecidableEq

/-- A tool throws a `BrowserRuntimeError` with its code, or something else. -/
inductive ToolEnding where
  | returned (result : ToolExecutionResult)
  | threw (code : Option String)
  deriving DecidableEq

inductive Thrown where
  | tool (code : Option String)
  | ledger (failure : LedgerFailure)
  deriving DecidableEq

abbrev Outcome := Except Thrown ToolExecutionResult

def ledgerCompletion (result : ToolExecutionResult) : Completion where
  status := if result.isError = true then .failed else .succeeded
  errorCode := result.errorCode.or
    (if result.isError = true then some "BROWSER_TOOL_ERROR" else none)
  documentGeneration := result.documentGeneration
  url := result.url
  artifactId := result.artifactId

def failedCompletion (thrown : Thrown) : Completion where
  status := .failed
  errorCode :=
    match thrown with
    | .tool (some code) => some code
    | _ => some "BROWSER_TOOL_EXECUTION_FAILED"
  documentGeneration := none
  url := none
  artifactId := none

/-- The `catch` block: when it throws itself, its own error is what the caller gets. -/
def catchError (ledger : Ledger) (operationId : Nat) (thrown : Thrown) (completedAt : Nat)
    (refused : Bool) : Ledger × Outcome :=
  match completeOperation ledger operationId (failedCompletion thrown) completedAt refused with
  | .ok ended => (ended, .error thrown)
  | .error failure => (ledger, .error (.ledger failure))

/-- The rest of `execute` once the tool has ended. -/
def finishExecution (ledger : Ledger) (operationId : Nat) (ending : ToolEnding)
    (completedAt : Nat) (refused refusedAgain : Bool) : Ledger × Outcome :=
  match ending with
  | .returned result =>
    match completeOperation ledger operationId (ledgerCompletion result) completedAt refused with
    | .ok ended => (ended, .ok result)
    | .error failure => catchError ledger operationId (.ledger failure) completedAt refusedAgain
  | .threw code => catchError ledger operationId (.tool code) completedAt refused

/-- Where an execution stands whose `begin` returned; `lost` with the process it ran in. -/
inductive Phase where
  | running
  | ended (ending : ToolEnding)
  | settled (ending : ToolEnding) (outcome : Outcome)
  | lost (ending : Option ToolEnding)

structure Execution where
  call : ToolCall
  phase : Phase

/-- The executions are those whose operation id `createOperationId` has given out. -/
structure Host where
  ledger : Ledger
  executions : Nat → Option Execution
  nextOperationId : Nat

def Host.empty : Host where
  ledger :=
    { operations := Table.empty
      events := [] }
  executions := fun _ => none
  nextOperationId := 0

inductive HostOp where
  | execute (call : ToolCall) (startedAt : Nat) (refused : Bool)
  | toolEnds (operationId : Nat) (ending : ToolEnding)
  | settle (operationId : Nat) (completedAt : Nat) (refused refusedAgain : Bool)
  | restart (recoveredAt : Nat) (refused : Bool)

def putExecution (host : Host) (operationId : Nat) (execution : Execution) : Host :=
  { host with
    executions := fun other =>
      if other = operationId then some execution else host.executions other }

def Execution.lose (execution : Execution) : Execution :=
  { execution with
    phase :=
      match execution.phase with
      | .running => .lost none
      | .ended ending => .lost (some ending)
      | phase => phase }

def step (host : Host) : HostOp → Host
  | .execute call startedAt refused =>
    match begin host.ledger host.nextOperationId call startedAt refused with
    | .error _ => { host with nextOperationId := host.nextOperationId + 1 }
    | .ok ledger =>
      { putExecution host host.nextOperationId ⟨call, .running⟩ with
        ledger := ledger
        nextOperationId := host.nextOperationId + 1 }
  | .toolEnds operationId ending =>
    match host.executions operationId with
    | some ⟨call, .running⟩ => putExecution host operationId ⟨call, .ended ending⟩
    | _ => host
  | .settle operationId completedAt refused refusedAgain =>
    match host.executions operationId with
    | some ⟨call, .ended ending⟩ =>
      let (ledger, outcome) :=
        finishExecution host.ledger operationId ending completedAt refused refusedAgain
      { putExecution host operationId ⟨call, .settled ending outcome⟩ with ledger := ledger }
    | _ => host
  | .restart recoveredAt refused =>
    { host with
      ledger :=
        if refused = true then host.ledger
        else recoverInterruptedOperations host.ledger recoveredAt
      executions := fun operationId => (host.executions operationId).map Execution.lose }

end OpenRill.Browser.OperationLedger
