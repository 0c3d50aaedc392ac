import Mathlib.Data.List.Infix
import OpenRill.Automation.SchedulerProcess
import OpenRill.Runs.Coordinator

/-!
# The executor of automation runs

`AutomationConversationExecutor.execute` between the scheduler that calls it and the
conversations it writes: a run that is not bound gets a conversation, the prompt is sent
to it and the agent Run of the submission is bound; a bound one is taken up again. Each
of these is a transaction of its own, and a step here, so that a process may end between
any two. The model profile and the title of a conversation are left out.

`sent` and `executed` are no fields of the source: they record the prompts sent and the
agent Runs handed to the coordinator, and no operation reads them.
-/

namespace OpenRill.Automation.Executor

open Lib
open OpenRill.Lib.Transaction (Transaction)
open OpenRill.Runs.Ledger (ConversationErrorCode RunFailure LedgerTransaction)
open OpenRill.Runs.Delegations (RunTables)
open OpenRill.Runs.Lifecycle (RunOptions SendInput CancelInput)
open OpenRill.Runs.Operations (Call)
open OpenRill.Runs.WaitProtocol (failureMessage)
open OpenRill.Runs.Coordinator (ResultStatus)
open Ledger SchedulerProcess

/-- `AutomationConversationTemplate`, as far as a run is decided by it. -/
structure ConversationTemplate where
  workspaceId : String
  prompt : String

/-- Where the execution of the run in hand stands. -/
inductive Execution where
  | idle
  /-- With the `runId` of the run that was marked running. -/
  | begun (runId : Option String)
  | conversing (template : ConversationTemplate) (conversationId : String)
  | sent (submission : CancelInput)
  | bound (submission : CancelInput)
  /-- `executeUntilTerminal` is to be called; a run taken up again has no conversation. -/
  | ready (submission : Option CancelInput) (runId : String)
  /-- In the await, since the coordinator had told as much as `heard` counts. -/
  | awaiting (submission : Option CancelInput) (runId : String) (heard : Nat)
  | returned (result : ExecutionResult)

/-- A prompt of an automation run, with what the submission answered. -/
structure Sending where
  automationRunId : String
  conversationId : String
  runId : String
  deriving DecidableEq

structure Executed where
  automationRunId : String
  runId : String
  deriving DecidableEq

structure Desk where
  process : ProcessState
  execution : Execution
  runs : RunTables
  sent : List Sending
  executed : List Executed

def codeText : ConversationErrorCode → String
  | .invalidArgument => "INVALID_ARGUMENT"
  | .workspaceAccessDenied => "WORKSPACE_ACCESS_DENIED"
  | .conversationNotFound => "CONVERSATION_NOT_FOUND"
  | .runNotFound => "RUN_NOT_FOUND"
  | .submissionConflict => "SUBMISSION_CONFLICT"
  | .runStateInvalid => "RUN_STATE_INVALID"
  | .eventSequenceConflict => "EVENT_SEQUENCE_CONFLICT"
  | .eventIdempotencyConflict => "EVENT_IDEMPOTENCY_CONFLICT"
  | .delegationBudgetConflict => "DELEGATION_BUDGET_CONFLICT"
  | .delegationBudgetNotConfigured => "DELEGATION_BUDGET_NOT_CONFIGURED"
  | .delegationIdempotencyConflict => "DELEGATION_IDEMPOTENCY_CONFLICT"
  | .delegationScopeEscalation => "DELEGATION_SCOPE_ESCALATION"
  | .delegationBudgetEscalation => "DELEGATION_BUDGET_ESCALATION"
  | .delegationDepthExceeded => "DELEGATION_DEPTH_EXCEEDED"
  | .delegationTimeBudgetExceeded => "DELEGATION_TIME_BUDGET_EXCEEDED"
  | .delegationActiveChildLimit => "DELEGATION_ACTIVE_CHILD_LIMIT"
  | .delegationTotalChildLimit => "DELEGATION_TOTAL_CHILD_LIMIT"
  | .delegationBudgetExceeded => "DELEGATION_BUDGET_EXCEEDED"
  | .delegationNotFound => "DELEGATION_NOT_FOUND"

def saysClosing (message : String) : Bool :=
  decide ("closing".toList <:+: message.toList)

/-- The error code of an error that is no `ConversationError`. -/
def otherErrorCode (message : String) : String :=
  if saysClosing message = true then "AUTOMATION_HOST_SHUTDOWN"
  else "AUTOMATION_CONVERSATION_EXECUTION_FAILED"

def errorCodeOf : RunFailure → String
  | .service code _ => "AUTOMATION_CONVERSATION_" ++ codeText code
  | failure => otherErrorCode (failureMessage failure)

def resultText : ResultStatus → String
  | .completed => "COMPLETED"
  | .failed => "FAILED"
  | .cancelled => "CANCELLED"
  | .waitingApproval => "WAITING_APPROVAL"
  | .waitingDelegation => "WAITING_DELEGATION"
  | .interrupted => "INTERRUPTED"

inductive Outcome where
  | resolved (status : ResultStatus)
  | rejected (message : String)
  deriving DecidableEq

def resultOf (runId : String) : Outcome → ExecutionResult
  | .resolved .completed => .succeeded (some runId)
  | .resolved status => .failed (some runId) ("AUTOMATION_AGENT_RUN_" ++ resultText status)
  | .rejected message => .failed (some runId) (otherErrorCode message)

def executes : Stage → Option String
  | .executing _ _ automationRunId _ _ => some automationRunId
  | _ => none

def Desk.withProcess (desk : Desk) (process : ProcessState) : Desk :=
  { desk with
    process := process
    execution :=
      if executes process.stage = executes desk.process.stage then desk.execution else .idle }

def Desk.fails (desk : Desk) (runId : Option String) (errorCode : String) : Desk :=
  { desk with execution := .returned (.failed runId errorCode) }

/-- What `recoverExpiredRuns` reads of the agent Run bound to a run. -/
def linkedRun (runs : RunTables) (runId : String) : Option LinkedRun :=
  (runs.ledger.runs.find runId).map (fun run =>
    { status := run.status
      recoveryState := run.recoveryState })

variable (options : SchedulerOptions) (runOptions : RunOptions)

/-- The operations of the scheduler that have no part in an execution. -/
def schedules : ProcessOp → Bool
  | .wake _ => true
  | .materialize _ => true
  | .claim _ => true
  | .renew _ => true
  | .throw => true
  | .close => true
  | .define _ => true
  | _ => false

def schedule (op : ProcessOp) (desk : Desk) : Desk :=
  if schedules op = true then desk.withProcess (SchedulerProcess.step options desk.process op)
  else desk

def start (now : Nat) (desk : Desk) : Desk :=
  desk.withProcess (SchedulerProcess.start options desk.process now (linkedRun desk.runs))

/-- The run as `runDomain(running)` shows it to the executor. -/
def startedWith (process : ProcessState) : Execution :=
  match executes process.stage with
  | none => .idle
  | some automationRunId =>
    .begun ((process.tables.runs.find automationRunId).bind AutomationRunRow.runId)

def markRunning (runningAt : Nat) (desk : Desk) : Desk :=
  match desk.process.stage with
  | .claimed _ _ _ =>
    { desk with
      process := SchedulerProcess.markRunning options desk.process runningAt
      execution :=
        startedWith (SchedulerProcess.markRunning options desk.process runningAt) }
  | _ => desk

def create (template : ConversationTemplate) (conversationId : String) :
    LedgerTransaction Unit := do
  Runs.Lifecycle.authorize runOptions template.workspaceId
  Runs.Ledger.createConversation
    { conversationId := conversationId
      workspaceId := template.workspaceId }

def createConversation (template : ConversationTemplate) (call : Call) (desk : Desk) : Desk :=
  match desk.execution with
  | .begun none =>
    match (create runOptions template (call.createId 0)).run desk.runs.ledger with
    | .ok (_, ledger) =>
      { desk with
        runs := desk.runs.withLedger ledger
        execution := .conversing template (call.createId 0) }
    | .error failure => desk.fails none (errorCodeOf failure)
  | _ => desk

def submission (automationRunId conversationId : String) (template : ConversationTemplate) :
    SendInput where
  workspaceId := template.workspaceId
  conversationId := conversationId
  submissionKey := "automation:" ++ automationRunId
  text := template.prompt

def send (call : Call) (desk : Desk) : Desk :=
  match desk.execution, executes desk.process.stage with
  | .conversing template conversationId, some automationRunId =>
    match (Runs.Lifecycle.send runOptions (submission automationRunId conversationId template)
      call.now call.createId).run desk.runs.ledger with
    | .ok (run, ledger) =>
      { desk with
        runs := desk.runs.withLedger ledger
        execution := .sent
          { workspaceId := template.workspaceId
            conversationId := conversationId
            runId := run.runId }
        sent := desk.sent ++
          [{ automationRunId := automationRunId
             conversationId := conversationId
             runId := run.runId }] }
    | .error failure => desk.fails none (errorCodeOf failure)
  | _, _ => desk

/-- `context.bindRunId`. A refusal is an `AutomationError`, no `ConversationError`. -/
def bind (boundAt : Nat) (desk : Desk) : Desk :=
  match desk.execution, executes desk.process.stage with
  | .sent submission, some automationRunId =>
    match bindRunId desk.process.tables automationRunId desk.process.ownerId submission.runId
      boundAt with
    | .ok (tables, some _) =>
      { desk with process := desk.process.withTables tables, execution := .bound submission }
    | .ok (_, none) =>
      desk.fails (some submission.runId) "AUTOMATION_CONVERSATION_EXECUTION_FAILED"
    | .error _ =>
      desk.fails (some submission.runId) "AUTOMATION_CONVERSATION_EXECUTION_FAILED"
  | _, _ => desk

def classify (now : Nat) (desk : Desk) : Desk :=
  match desk.execution, executes desk.process.stage with
  | .bound submission, some automationRunId =>
    match (Runs.Ledger.classifyRun submission.runId
      { runtime := .automation
        taskKind := "automation.run"
        sourceId := some automationRunId
        parentRunId := none
        notifyPolicy := none } now).run desk.runs.ledger with
    | .ok (_, ledger) =>
      { desk with
        runs := desk.runs.withLedger ledger
        execution := .ready (some submission) submission.runId }
    | .error failure => desk.fails (some submission.runId) (errorCodeOf failure)
  | _, _ => desk

def resume (desk : Desk) : Desk :=
  match desk.execution with
  | .begun (some runId) => { desk with execution := .ready none runId }
  | _ => desk

/-- The call of `executeUntilTerminal`, when the coordinator has told `heard` reports. -/
def await (heard : Nat) (desk : Desk) : Desk :=
  match desk.execution, executes desk.process.stage with
  | .ready submission runId, some automationRunId =>
    { desk with
      execution := .awaiting submission runId heard
      executed := desk.executed ++
        [{ automationRunId := automationRunId
           runId := runId }] }
  | _, _ => desk

def settle (outcome : Outcome) (desk : Desk) : Desk :=
  match desk.execution with
  | .awaiting _ runId _ => { desk with execution := .returned (resultOf runId outcome) }
  | _ => desk

def finish (terminalAt : Nat) (desk : Desk) : Desk :=
  match desk.execution with
  | .returned result =>
    desk.withProcess (SchedulerProcess.finish desk.process result terminalAt)
  | _ => desk

inductive DeskOp where
  | schedule (op : ProcessOp)
  | start (now : Nat)
  | markRunning (runningAt : Nat)
  | createConversation (template : ConversationTemplate) (call : Call)
  | send (call : Call)
  | bind (boundAt : Nat)
  | classify (now : Nat)
  | resume
  | await (heard : Nat)
  | settle (outcome : Outcome)
  | finish (terminalAt : Nat)

def step (options : SchedulerOptions) (runOptions : RunOptions) (desk : Desk) : DeskOp → Desk
  | .schedule op => schedule options op desk
  | .start now => start options now desk
  | .markRunning runningAt => markRunning options runningAt desk
  | .createConversation template call => createConversation runOptions template call desk
  | .send call => send runOptions call desk
  | .bind boundAt => bind boundAt desk
  | .classify now => classify now desk
  | .resume => resume desk
  | .await heard => await heard desk
  | .settle outcome => settle outcome desk
  | .finish terminalAt => finish terminalAt desk

def reboot (ownerId : String) (desk : Desk) : Desk :=
  { desk with process := boot desk.process ownerId, execution := .idle }

end OpenRill.Automation.Executor
