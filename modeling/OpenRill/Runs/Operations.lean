import OpenRill.Lib.Runs
import OpenRill.Runs.DelegationService

/-!
# The run machine

One operation of the host on the tables of runs and delegations, with the clock
reading and the fresh identifiers of its call. A run of the machine is any
interleaving of such operations: a throw rolls its transaction back, and an
operation of several transactions keeps those that committed.
-/

namespace OpenRill.Runs.Operations

open Lib.Transaction State Ledger Delegations Lifecycle DelegationService

structure Call where
  now : Nat
  createId : Nat → String

inductive RunOp where
  | createConversation (row : ConversationInput)
  | appendMessage (row : MessageInput)
  | recordArtifact (row : ArtifactRow)
  | classifyRun (runId : String) (input : Classification) (call : Call)
  | linkTask (row : FlowLinkRow)
  | appendEvent (input : EventInput) (call : Call)
  | send (input : SendInput) (call : Call)
  | prepareExecutionAttempt (runId : String) (call : Call)
  | startExecution (input : StartInput) (call : Call)
  | updateExecutionUsage (runId : String) (usage : Usage) (reason : Option String) (call : Call)
  | transitionRun (input : TransitionInput) (call : Call)
  | waitForApproval (runId requestId : String) (usage : Usage) (call : Call)
  | waitForDelegation (runId delegationId toolCallId : String) (usage : Usage) (call : Call)
  | completeExecution (runId : String) (usage : Usage) (reason : String)
      (completionText : Option String) (call : Call)
  | failExecution (runId : String) (usage : Usage) (errorCode message : String) (call : Call)
  | resumeExecution (runId : String) (call : Call)
  | cancel (input : CancelInput) (call : Call)
  | markExecutionLost (runId errorCode : String) (call : Call)
  | interruptExecution (runId reason : String) (call : Call)
  | recoverIncompleteRuns (call : Call)
  | configureRootBudget (input : RootBudgetInput) (call : Call)
  | createDelegatedRun (input : CreateDelegatedRunInput) (call : Call)
  | markWaiting (parentRunId delegationId : String) (identity : Option ToolWaitIdentity)
      (call : Call)
  | clearWait (parentRunId delegationId : String)
  | transitionDelegation (delegationId : String) (status : DelegationStatus)
      (resultSummary : Option String) (call : Call)
  | completeChild (childRunId : String) (call : Call)
  | failChildBeforeStart (delegationId errorCode : String) (call : Call)
  | terminateChild (childRunId : String) (termination : Termination) (errorCode : String)
      (call : Call)

def recordArtifact (row : ArtifactRow) : LedgerTransaction Unit :=
  change (fun store => { store with artifacts := store.artifacts ++ [row] })

def linkTask (row : FlowLinkRow) : LedgerTransaction Unit :=
  tryChange
    (fun store => (store.flowLinks.insert row).map
      (fun flowLinks => { store with flowLinks := flowLinks }))
    (.constraint "task_flow_tasks.task_id")

/-- A usage update and then, in a transaction of its own, a run transition. -/
def reportThenTransition (options : RunOptions) (usage : Usage) (reason : String)
    (input : TransitionInput) (call : Call) : RunTables → RunTables :=
  performThen (updateExecutionUsage input.runId usage (some reason) call.now)
    (fun _ => onLedger (transitionRun options input call.now call.createId))

def step (options : RunOptions) (tables : RunTables) : RunOp → RunTables
  | .createConversation row => perform (onLedger (Ledger.createConversation row)) tables
  | .appendMessage row => perform (onLedger (insertMessage row)) tables
  | .recordArtifact row => perform (onLedger (recordArtifact row)) tables
  | .classifyRun runId input call =>
    perform (onLedger (Ledger.classifyRun runId input call.now)) tables
  | .linkTask row => perform (onLedger (linkTask row)) tables
  | .appendEvent input call =>
    perform (onLedger (appendEventWithRepositories input (call.createId 0))) tables
  | .send input call =>
    perform (onLedger (Lifecycle.send options input call.now call.createId)) tables
  | .prepareExecutionAttempt runId call =>
    perform
      (onLedger (Lifecycle.prepareExecutionAttempt options runId call.now call.createId))
      tables
  | .startExecution input call =>
    perform (Lifecycle.startExecution options input call.now call.createId) tables
  | .updateExecutionUsage runId usage reason call =>
    perform (Lifecycle.updateExecutionUsage runId usage reason call.now) tables
  | .transitionRun input call =>
    perform (onLedger (Lifecycle.transitionRun options input call.now call.createId)) tables
  | .waitForApproval runId requestId usage call =>
    reportThenTransition options usage "WAITING_APPROVAL" (approvalWait runId requestId) call tables
  | .waitForDelegation runId delegationId toolCallId usage call =>
    performThen
      (Lifecycle.updateExecutionUsage runId usage (some "WAITING_DELEGATION") call.now)
      (fun _ => Lifecycle.waitForDelegation options runId delegationId toolCallId call.now
        call.createId)
      tables
  | .completeExecution runId usage reason completionText call =>
    reportThenTransition options usage reason
      (completion runId usage reason completionText) call tables
  | .failExecution runId usage errorCode message call =>
    reportThenTransition options usage errorCode (failureOf runId errorCode message) call tables
  | .resumeExecution runId call =>
    perform (onLedger (Lifecycle.resumeExecution options runId call.now call.createId)) tables
  | .cancel input call =>
    perform (onLedger (Lifecycle.cancel options input call.now call.createId)) tables
  | .markExecutionLost runId errorCode call =>
    perform
      (onLedger (Lifecycle.markExecutionLost options runId errorCode call.now call.createId))
      tables
  | .interruptExecution runId reason call =>
    perform
      (onLedger (Lifecycle.interruptExecution options runId reason call.now call.createId))
      tables
  | .recoverIncompleteRuns call =>
    perform (Lifecycle.recoverIncompleteRuns options call.now call.createId) tables
  | .configureRootBudget input call =>
    perform (DelegationService.configureRootBudget options input call.now) tables
  | .createDelegatedRun input call =>
    perform (DelegationService.createDelegatedRun options input call.now call.createId) tables
  | .markWaiting parentRunId delegationId identity call =>
    perform (DelegationService.markWaiting parentRunId delegationId identity call.now) tables
  | .clearWait parentRunId delegationId =>
    perform (onDelegations (DelegationService.clearWait parentRunId delegationId)) tables
  | .transitionDelegation delegationId status resultSummary call =>
    perform
      (onDelegations
        (DelegationService.transitionDelegation options delegationId status resultSummary call.now))
      tables
  | .completeChild childRunId call =>
    perform (DelegationService.completeChild options childRunId call.now call.createId) tables
  | .failChildBeforeStart delegationId errorCode call =>
    perform
      (DelegationService.failChildBeforeStart options delegationId errorCode call.now call.createId)
      tables
  | .terminateChild childRunId termination errorCode call =>
    performThen
      (terminateRun options childRunId termination errorCode call.now call.createId)
      (completeTerminated options childRunId call.now call.createId) tables

def reach (options : RunOptions) (ops : List RunOp) : RunTables :=
  Lib.Runs.run (step options) RunTables.empty ops

def mainHost : RunOptions where
  workspaceIds := ["main"]
  sha256 := id
  resultSha256 := fun result => result.childRunId ++ ":" ++ outcomeText result.status
  completionRule := fun _ => (.succeeded, "Completed")

def callAt (now : Nat) (ids : List String) : Call where
  now := now
  createId := fun index => ids.getD index ""

def smallBudget : DelegationBudget where
  execution :=
    { maxTurns := 8
      maxModelCalls := 10
      maxToolCalls := 16
      maxOutputTokens := 100
      maxTotalTokens := 1000
      maxDurationMs := 1000 }
  maxDelegationDepth := 2
  maxActiveChildren := 4
  maxTotalChildren := 8

def mainScope : DelegationScope where
  workspaceIds := ["main"]
  skillIds := []
  toolNames := []

def delegatedOps : List RunOp :=
  [ .createConversation
      { conversationId := "c1"
        workspaceId := "main" },
    .send
      { workspaceId := "main", conversationId := "c1", submissionKey := "s1", text := "go" }
      (callAt 1 ["m1", "r1", "a1", "e1"]),
    .configureRootBudget
      { runId := "r1", budget := smallBudget, scope := mainScope }
      (callAt 2 []),
    .createDelegatedRun
      { parentRunId := "r1"
        parentAttemptId := "a1"
        idempotencyKey := "k1"
        task := "look"
        workspaceId := "main"
        budget := { smallBudget with
          execution := { smallBudget.execution with maxDurationMs := 500 } }
        scope := mainScope
        expectedOutput := .text
        parentToolCallId := none }
      (callAt 3 ["d1", "c2", "m2", "r2", "a2", "e2"]) ]

end OpenRill.Runs.Operations
