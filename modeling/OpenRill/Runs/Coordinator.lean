import OpenRill.Runs.Projections
import OpenRill.Runs.StatusMoves
import OpenRill.Runs.WaitProtocol

/-!
# The coordinator of agent runs

`AgentRunCoordinator` with the executions it has in flight, over the tables of runs
and delegations. An execution is a chain of awaits: each of them is a phase here, and
one operation of the host is what happens between two awaits of one execution, a call
of the coordinator, or an operation of another service. Of the kernel the beginning
and the end are modelled; what it writes in between does not touch the status of its
run and is among the operations of the other services. The messages of a result are
left out.
-/

namespace OpenRill.Runs.Coordinator

open Lib Lib.Transaction State Ledger Delegations Lifecycle DelegationService Operations
open Projections StatusMoves
open OpenRill.Runs.LedgerRules (Executes)
open OpenRill.Runs.WaitProtocol (failureMessage)

/-- `AgentKernelExecutionResult["status"]`. -/
inductive ResultStatus where
  | completed
  | failed
  | cancelled
  | waitingApproval
  | waitingDelegation
  | interrupted
  deriving DecidableEq

/-- The terminal status of the run that a result speaks of, if it speaks of one. -/
def ResultStatus.ended : ResultStatus → Option RunStatus
  | .completed => some .completed
  | .failed => some .failed
  | .cancelled => some .cancelled
  | .waitingApproval => none
  | .waitingDelegation => none
  | .interrupted => none

structure ExecutionResult where
  runId : String
  status : ResultStatus
  terminalReason : String
  usage : Usage
  deriving DecidableEq

structure ExecutionContext where
  conversation : ConversationRow
  run : RunRow
  attempt : AttemptRow
  budgetEnvelope : Option EnvelopeRow

def executionContext (runId : String) : RunTransaction ExecutionContext := do
  let tables ← inspect id
  let run ← expect (tables.ledger.runs.find runId) runNotFound
  let conversation ← expect (tables.ledger.conversations.find run.conversationId)
    (.service .conversationNotFound "conversation not found")
  let attemptId ← expect run.currentAttemptId (invalidState "run has no current attempt")
  let attempt ← expect (tables.ledger.attempts.find attemptId)
    (invalidState "run current attempt is missing")
  pure
    { conversation := conversation
      run := run
      attempt := attempt
      budgetEnvelope := tables.delegations.envelopes.find run.runId }

/-- What a reader of the context sees, or `none` when the read throws. -/
def contextOf (tables : RunTables) (runId : String) : Option ExecutionContext :=
  match (executionContext runId).run tables with
  | .ok (context, _) => some context
  | .error _ => none

/-- What `modelAdapters.resolve` answers, with the names of `modelToolDefinitions`. -/
structure ModelResolution where
  provider : String
  model : String
  maxOutputTokens : Nat
  toolNames : List String

def defaultBudget : ExecutionBudget where
  maxTurns := 8
  maxModelCalls := 10
  maxToolCalls := 16
  maxOutputTokens := 4096
  maxTotalTokens := 65536
  maxDurationMs := 15 * 60 * 1000

/-- The ceilings of the envelope, else those of the attempt when none of them that must
be positive is zero. -/
def configuredBudget (initial : ExecutionContext) : Option ExecutionBudget :=
  match initial.budgetEnvelope with
  | some envelope => some envelope.budget.execution
  | none =>
    initial.attempt.budget.filter (fun budget =>
      decide (budget.maxTurns ≠ 0 ∧ budget.maxModelCalls ≠ 0 ∧ budget.maxOutputTokens ≠ 0 ∧
        budget.maxTotalTokens ≠ 0 ∧ budget.maxDurationMs ≠ 0))

/-- `resolveBudget`; only the number of tool calls may be zero. -/
def resolveBudget (configured : Option ExecutionBudget) (maxOutputTokens : Nat) :
    Option ExecutionBudget :=
  some (configured.getD { defaultBudget with maxOutputTokens := maxOutputTokens }) |>.filter
    (fun budget =>
      decide (1 ≤ budget.maxTurns ∧ 1 ≤ budget.maxModelCalls ∧ 1 ≤ budget.maxOutputTokens ∧
        1 ≤ budget.maxTotalTokens ∧ 1 ≤ budget.maxDurationMs))

/-- The input of `configureRootBudget` for a run without an envelope. -/
def rootBudget (initial : ExecutionContext) (resolution : ModelResolution)
    (budget : ExecutionBudget) : RootBudgetInput where
  runId := initial.run.runId
  budget :=
    { execution := budget, maxDelegationDepth := 2, maxActiveChildren := 4, maxTotalChildren := 8 }
  scope :=
    { workspaceIds := [initial.conversation.workspaceId]
      skillIds := []
      toolNames := resolution.toolNames }

def openRoot (options : RunOptions) (initial : ExecutionContext) (resolution : ModelResolution)
    (budget : ExecutionBudget) (call : Call) : Procedure RunTables RunFailure Unit :=
  match initial.budgetEnvelope with
  | some _ => pure ()
  | none => do
      let _ ← commit (configureRootBudget options (rootBudget initial resolution budget) call.now)
      pure ()

/-- `executeAgentRun` between the resolution of the model and its loop. A run that waited
for an approval when its context was read is resumed, any other one is started. -/
def startKernel (options : RunOptions) (runId : String) (initial : ExecutionContext)
    (resolution : ModelResolution) (call : Call) : Procedure RunTables RunFailure RunRow := do
  let budget ← commit (expect
    (resolveBudget (configuredBudget initial) resolution.maxOutputTokens)
    (.unexpected "budget must be a positive integer"))
  openRoot options initial resolution budget call
  if initial.run.status = .waitingApproval then
    commit (onLedger (resumeExecution options runId call.now call.createId))
  else
    commit (startExecution options
      { runId := runId
        providerId := resolution.provider
        modelId := resolution.model
        budget := budget }
      call.now call.createId)

/-- How the loop of the kernel ends: by the last step of the model, by a tool that has
to wait, or by an error. -/
inductive Ending where
  | complete (reason text : String)
  | approval (requestId : String)
  | delegation (delegationId toolCallId : String)
  | hostShutdown
  | cancelled
  | error (code message : String)
  deriving DecidableEq

/-- `completeExecution`, `failExecution`, `waitForApproval` and `waitForDelegation`: the
usage is reported in one transaction and the run is moved in a second one. -/
def endRun (options : RunOptions) (runId : String) (usage : Usage) (outcome : Outcome)
    (call : Call) : Procedure RunTables RunFailure RunRow := do
  commit (updateExecutionUsage runId usage (some outcome.reason) call.now)
  commit (moveRun options runId usage call outcome)

def resultOf (runId : String) (usage : Usage) (status : ResultStatus) (terminalReason : String) :
    ExecutionResult where
  runId := runId
  status := status
  terminalReason := terminalReason
  usage := usage

/-- The end by an error that is neither a cancellation nor a shutdown: the run fails
unless it has ended. The result is `FAILED` in any case. -/
def failRun (options : RunOptions) (runId : String) (usage : Usage) (code message : String)
    (call : Call) : Procedure RunTables RunFailure ExecutionResult := do
  let current ← commit (executionContext runId)
  if current.run.status.terminal = true then
    pure (resultOf runId usage .failed code)
  else do
    let _ ← endRun options runId usage (.failed code message) call
    pure (resultOf runId usage .failed code)

/-- The end by a cancellation: a run that is running or waits is cancelled. The result is
`CANCELLED` in any case. -/
def cancelRun (options : RunOptions) (runId : String) (usage : Usage) (call : Call) :
    Procedure RunTables RunFailure ExecutionResult := do
  let current ← commit (executionContext runId)
  commit (updateExecutionUsage runId usage (some "CANCELLED") call.now)
  if current.run.status = .running ∨ current.run.status = .waitingApproval then do
    let _ ← commit (onLedger (transitionRun options
      { runId := runId
        status := .cancelled
        eventType := some "run.cancelled"
        payload := .object [("reason", .text "abort-signal")]
        completionText := none }
      call.now call.createId))
    pure (resultOf runId usage .cancelled "CANCELLED")
  else pure (resultOf runId usage .cancelled "CANCELLED")

/-- The end by a shutdown of the host: a run that can be resumed is interrupted, for any
other one the result is `FAILED`. -/
def interruptRun (options : RunOptions) (runId : String) (usage : Usage) (call : Call) :
    Procedure RunTables RunFailure ExecutionResult := do
  let _ ← commit (executionContext runId)
  let interrupted ← commit
    (onLedger (interruptExecution options runId "HOST_SHUTDOWN" call.now call.createId))
  if interrupted.status = .created ∧ interrupted.recoveryState = .resumable then
    pure (resultOf runId usage .interrupted "HOST_SHUTDOWN_RESUMABLE")
  else pure (resultOf runId usage .failed "HOST_SHUTDOWN_NON_RESUMABLE")

/-- An ending of the loop that moves the run itself; what it throws is an error of the
loop like any other. -/
def concludeRun (options : RunOptions) (runId : String) (usage : Usage) (outcome : Outcome)
    (result : ExecutionResult) (call : Call) : Procedure RunTables RunFailure ExecutionResult :=
  rescue
    (do
      let _ ← endRun options runId usage outcome call
      pure result)
    (fun failure =>
      failRun options runId usage "AGENT_MODEL_FAILED" (failureMessage failure) call)

/-- The end of `executeAgentRun`. -/
def endKernel (options : RunOptions) (runId : String) (usage : Usage) (call : Call) :
    Ending → Procedure RunTables RunFailure ExecutionResult
  | .complete reason text =>
    concludeRun options runId usage (.completed reason (some text))
      (resultOf runId usage .completed reason) call
  | .approval requestId =>
    concludeRun options runId usage (.waitingApproval requestId)
      (resultOf runId usage .waitingApproval "APPROVAL_REQUIRED") call
  | .delegation delegationId toolCallId =>
    concludeRun options runId usage (.waitingDelegation delegationId toolCallId)
      (resultOf runId usage .waitingDelegation "DELEGATION_WAIT") call
  | .hostShutdown => interruptRun options runId usage call
  | .cancelled => cancelRun options runId usage call
  | .error code message => failRun options runId usage code message call

/-- The reason with which the signal of an execution was aborted. -/
inductive AbortReason where
  | requested
  | hostShutdown
  deriving DecidableEq

/-- Where the execution of a run stands: the await it is in. -/
inductive Phase where
  /-- `resolveRunPreparation`. -/
  | preparing
  /-- `modelAdapters.resolve`. -/
  | resolving (initial : ExecutionContext)
  /-- The loop of the kernel. -/
  | running
  /-- The kernel has returned, `then` is to run. -/
  | returned (result : ExecutionResult)
  /-- `onRunTerminal`. -/
  | notifying (result : ExecutionResult)
  /-- Something threw, `catch` is to run. -/
  | rejected
  /-- `finally` is to run. -/
  | settling

structure ActiveRun where
  runId : String
  abort : Option AbortReason
  phase : Phase

/-- The status of a `run.updated` notice: that of the run, or of the result when the run
cannot be read. -/
inductive ShownStatus where
  | run (status : RunStatus)
  | execution (status : ResultStatus)
  deriving DecidableEq

/-- `run.updated`. -/
structure RunNotice where
  runId : String
  status : ShownStatus
  executionStatus : Option ResultStatus
  terminalReason : String
  recoveryState : Option RecoveryState
  usage : Option Usage

/-- What the coordinator tells: a notice to every client, or the end of a promise that
`executeUntilTerminal` returned. -/
inductive Report where
  | updated (notice : RunNotice)
  | resolved (result : ExecutionResult)
  | rejected (runId : String)

def Report.runId : Report → String
  | .updated notice => notice.runId
  | .resolved result => result.runId
  | .rejected runId => runId

/-- A report with the durable status of its run at that moment. -/
structure Told where
  report : Report
  durable : Option RunStatus

structure Host where
  tables : RunTables
  active : List ActiveRun
  pendingResume : List String
  /-- The runs that `#terminalWaiters` holds a waiter for. -/
  waiters : List String
  closing : Bool
  /-- `close` has returned. -/
  closed : Bool
  told : List Told

def Host.start (tables : RunTables) : Host where
  tables := tables
  active := []
  pendingResume := []
  waiters := []
  closing := false
  closed := false
  told := []

def statusOf (host : Host) (runId : String) : Option RunStatus :=
  statuses host.tables.ledger runId

def find (host : Host) (runId : String) : Option ActiveRun :=
  host.active.find? (fun execution => decide (execution.runId = runId))

def isActive (host : Host) (runId : String) : Prop :=
  ∃ execution ∈ host.active, execution.runId = runId

instance (host : Host) (runId : String) : Decidable (isActive host runId) := by
  unfold isActive
  infer_instance

def tell (report : Report) (host : Host) : Host :=
  { host with
    told := host.told ++ [{ report := report, durable := statusOf host report.runId }] }

def advance (runId : String) (phase : Phase) (host : Host) : Host :=
  { host with
    active := host.active.map (fun execution =>
      if execution.runId = runId then { execution with phase := phase } else execution) }

variable (options : RunOptions)

/-- `#settleTerminal`; a waiting or interrupted run keeps its waiter. -/
def settleTerminal (result : ExecutionResult) (host : Host) : Host :=
  if result.status.ended.isSome = true ∧ result.runId ∈ host.waiters then
    tell (.resolved result)
      { host with
        waiters := host.waiters.filter (fun waiter => decide (waiter ≠ result.runId)) }
  else host

/-- The preparation of the run threw: the run fails, and when that throws too the whole
execution is rejected. -/
def failPreparation (runId message : String) (call : Call) (tables : RunTables) :
    Phase × RunTables :=
  match (endRun options runId 0 (.failed "SKILL_PREPARATION_FAILED" message) call).run.run
      tables with
  | (.ok _, reached) =>
    (.returned (resultOf runId 0 .failed "SKILL_PREPARATION_FAILED"), reached)
  | (.error _, reached) => (.rejected, reached)

/-- The part of `#start` that runs at once. -/
def prepare (runId : String) (call : Call) (tables : RunTables) : Phase × RunTables :=
  match (prepareExecutionAttempt options runId call.now call.createId).run tables.ledger with
  | .ok (_, ledger) => (.preparing, tables.withLedger ledger)
  | .error failure => failPreparation options runId (failureMessage failure) call tables

def start (runId : String) (call : Call) (host : Host) : Host :=
  if host.closing = true ∨ isActive host runId then host
  else
    { host with
      tables := (prepare options runId call host.tables).2
      active := host.active ++
        [{ runId := runId, abort := none, phase := (prepare options runId call host.tables).1 }] }

def resume (runId : String) (call : Call) (host : Host) : Host :=
  if host.closing = true then host
  else if isActive host runId then
    { host with pendingResume := host.pendingResume.insert runId }
  else start options runId call host

def terminalWaiter (runId : String) (host : Host) : Host :=
  if runId ∈ host.waiters then host else { host with waiters := host.waiters ++ [runId] }

/-- A closing coordinator answers with a rejection of its own and makes no waiter. -/
def executeUntilTerminal (runId : String) (call : Call) (host : Host) : Host :=
  if host.closing = true then host else start options runId call (terminalWaiter runId host)

def abort (reason : AbortReason) (execution : ActiveRun) : ActiveRun :=
  { execution with abort := execution.abort <|> some reason }

def resultStatusOf : RunStatus → Option ResultStatus
  | .completed => some .completed
  | .failed => some .failed
  | .cancelled => some .cancelled
  | _ => none

/-- A run in flight is aborted. An idle run that has ended settles its waiter. -/
def cancel (runId : String) (host : Host) : Host :=
  if isActive host runId then
    { host with
      active := host.active.map (fun execution =>
        if execution.runId = runId then abort .requested execution else execution) }
  else
    match contextOf host.tables runId with
    | none => host
    | some context =>
      match resultStatusOf context.run.status with
      | none => host
      | some status =>
        settleTerminal (resultOf runId 0 status (statusText context.run.status)) host

/-- `close` up to its await. -/
def close (host : Host) : Host :=
  if host.closing = true then host
  else
    { host with
      closing := true
      pendingResume := []
      active := host.active.map (abort .hostShutdown) }

/-- `close` after every execution has settled. -/
def finishClose (host : Host) : Host :=
  if host.closing = true ∧ host.closed = false ∧ host.active = [] then
    { host.waiters.foldl (fun current waiter => tell (.rejected waiter) current) host with
      waiters := []
      closed := true }
  else host

/-- The preparation has been resolved, or threw. -/
def prepared (runId : String) (failure : Option String) (call : Call) (host : Host) : Host :=
  match find host runId with
  | some { phase := .preparing, .. } =>
    match failure with
    | some message =>
      advance runId (failPreparation options runId message call host.tables).1
        { host with tables := (failPreparation options runId message call host.tables).2 }
    | none =>
      match contextOf host.tables runId with
      | some initial => advance runId (.resolving initial) host
      | none => advance runId .rejected host
  | _ => host

/-- The model has been resolved, or the resolver threw. -/
def resolved (runId : String) (answer : Option ModelResolution) (call : Call) (host : Host) :
    Host :=
  match find host runId with
  | some { phase := .resolving initial, .. } =>
    match answer with
    | none => advance runId .rejected host
    | some resolution =>
      match (startKernel options runId initial resolution call).run.run host.tables with
      | (.ok _, reached) => advance runId .running { host with tables := reached }
      | (.error _, reached) => advance runId .rejected { host with tables := reached }
  | _ => host

/-- An execution ends by a shutdown only when its signal was aborted for one. -/
def admits (execution : ActiveRun) (ending : Ending) : Prop :=
  ending = .hostShutdown → execution.abort = some .hostShutdown

instance (execution : ActiveRun) (ending : Ending) : Decidable (admits execution ending) := by
  unfold admits
  infer_instance

def ends (runId : String) (usage : Usage) (ending : Ending) (call : Call) (host : Host) :
    Host :=
  match find host runId with
  | some execution =>
    match execution.phase with
    | .running =>
      if admits execution ending then
        match (endKernel options runId usage call ending).run.run host.tables with
        | (.ok result, reached) =>
          advance runId (.returned result) { host with tables := reached }
        | (.error _, reached) => advance runId .rejected { host with tables := reached }
      else host
    | _ => host
  | none => host

/-- The notice of a result, with the durable status when the run can be read. -/
def noticeOf (tables : RunTables) (result : ExecutionResult) : RunNotice where
  runId := result.runId
  status :=
    match contextOf tables result.runId with
    | some context => .run context.run.status
    | none => .execution result.status
  executionStatus := some result.status
  terminalReason := result.terminalReason
  recoveryState := (contextOf tables result.runId).map (fun context => context.run.recoveryState)
  usage := some result.usage

/-- `then`, up to `onRunTerminal` when the run has ended. -/
def reported (runId : String) (host : Host) : Host :=
  match find host runId with
  | some { phase := .returned result, .. } =>
    advance runId
      (if result.status.ended.isSome = true then .notifying result else .settling)
      (tell (.updated (noticeOf host.tables result)) host)
  | _ => host

/-- `onRunTerminal` has been resolved, or threw. -/
def handled (runId : String) (threw : Bool) (host : Host) : Host :=
  match find host runId with
  | some { phase := .notifying result, .. } =>
    if threw = true then advance runId .rejected host
    else advance runId .settling (settleTerminal result host)
  | _ => host

def errorNotice (runId : String) : RunNotice where
  runId := runId
  status := .execution .failed
  executionStatus := none
  terminalReason := "COORDINATOR_ERROR"
  recoveryState := none
  usage := none

def rejectWaiter (runId : String) (host : Host) : Host :=
  if runId ∈ host.waiters then
    tell (.rejected runId)
      { host with waiters := host.waiters.filter (fun waiter => decide (waiter ≠ runId)) }
  else host

def caught (runId : String) (host : Host) : Host :=
  match find host runId with
  | some { phase := .rejected, .. } =>
    advance runId .settling (rejectWaiter runId (tell (.updated (errorNotice runId)) host))
  | _ => host

def leave (runId : String) (host : Host) : Host :=
  { host with
    active := host.active.filter (fun execution => decide (execution.runId ≠ runId))
    pendingResume := host.pendingResume.filter (fun pending => decide (pending ≠ runId)) }

def finished (runId : String) (call : Call) (host : Host) : Host :=
  match find host runId with
  | some { phase := .settling, .. } =>
    if runId ∈ host.pendingResume then start options runId call (leave runId host)
    else leave runId host
  | _ => host

def other (op : RunOp) (host : Host) : Host :=
  if Executes op then host
  else { host with tables := Operations.step options host.tables op }

/-- `conversations.cancel` and then, in the same turn, `cancel` of the coordinator. -/
def operatorCancel (input : CancelInput) (call : Call) (host : Host) : Host :=
  match (Lifecycle.cancel options input call.now call.createId).run host.tables.ledger with
  | .ok (_, ledger) =>
    cancel input.runId { host with tables := host.tables.withLedger ledger }
  | .error _ => host

inductive HostOp where
  | schedule (runId : String) (call : Call)
  | ensureScheduled (runId : String) (call : Call)
  | resume (runId : String) (call : Call)
  | executeUntilTerminal (runId : String) (call : Call)
  | cancel (runId : String)
  | close
  | finishClose
  | prepared (runId : String) (failure : Option String) (call : Call)
  | resolved (runId : String) (answer : Option ModelResolution) (call : Call)
  | ends (runId : String) (usage : Usage) (ending : Ending) (call : Call)
  | reported (runId : String)
  | handled (runId : String) (threw : Bool)
  | caught (runId : String)
  | finished (runId : String) (call : Call)
  | other (op : RunOp)
  | operatorCancel (input : CancelInput) (call : Call)

def step (options : RunOptions) (host : Host) : HostOp → Host
  | .schedule runId call => start options runId call host
  | .ensureScheduled runId call => start options runId call host
  | .resume runId call => resume options runId call host
  | .executeUntilTerminal runId call => executeUntilTerminal options runId call host
  | .cancel runId => cancel runId host
  | .close => close host
  | .finishClose => finishClose host
  | .prepared runId failure call => prepared options runId failure call host
  | .resolved runId answer call => resolved options runId answer call host
  | .ends runId usage ending call => ends options runId usage ending call host
  | .reported runId => reported runId host
  | .handled runId threw => handled runId threw host
  | .caught runId => caught runId host
  | .finished runId call => finished options runId call host
  | .other op => other options op host
  | .operatorCancel input call => operatorCancel options input call host

/-- A coordinator made over the tables that a history of the host left, after its
operations. -/
def reach (options : RunOptions) (history : List RunOp) (ops : List HostOp) : Host :=
  Lib.Runs.run (step options) (Host.start (Operations.reach options history)) ops

end OpenRill.Runs.Coordinator
