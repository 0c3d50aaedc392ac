import OpenRill.Runs.Operations

/-!
# Waiting for a delegated child

A parent run waits in two transactions: the tool `agent.wait` records the wait
and throws, and the kernel that catches the throw suspends the run. Between the
two the kernel holds the wait in memory only. A completion of the child decides
from the durable delivery alone whether it answers the call of its parent. One
operation of the host below is one of these transactions, a restart, or any
other operation of the run machine that does not speak for a call that waits.
-/

namespace OpenRill.Runs.WaitProtocol

open Lib Lib.Transaction State Ledger Delegations Lifecycle DelegationService Operations

/-- A kernel that has caught the wait of a call and has not suspended its run. -/
structure Suspension where
  runId : String
  attemptId : String
  delegationId : String
  toolCallId : String
  deriving DecidableEq

structure Host where
  tables : RunTables
  suspending : List Suspension
  /-- The delegations whose completion let their parent run resume. -/
  resumed : List String

def Host.empty : Host where
  tables := RunTables.empty
  suspending := []
  resumed := []

inductive WaitOp where
  | agentWait (runId delegationId toolCallId : String) (call : Call)
  | suspend (runId : String) (usage : Usage) (call : Call)
  | completeChild (childRunId : String) (call : Call)
  | terminateChild (childRunId : String) (termination : Termination) (errorCode : String)
      (call : Call)
  | restart (call : Call)
  | other (op : RunOp)

def answersCall (toolCallId : String) (row : MessageRow) : Bool :=
  match row.role, row.content with
  | .tool, .toolResult answered _ _ _ => decide (answered = toolCallId)
  | _, _ => false

def closesCall (toolCallId : String) (row : EventRow) : Bool :=
  row.eventType == "run.checkpoint" && row.payload.hasMember "toolCallId" (.text toolCallId)

def answers (store : RunStore) (conversationId toolCallId : String) : Nat :=
  (listMessages store conversationId).countP (answersCall toolCallId)

def checkpoints (store : RunStore) (runId toolCallId : String) : Nat :=
  (listEvents store runId).countP (closesCall toolCallId)

def conversationOf (tables : RunTables) (delivery : ResultDeliveryRow) : Option String :=
  (tables.ledger.runs.find delivery.parentRunId).map RunRow.conversationId

/-- The call is new in its conversation: `completedTools` has no answer to it, and
its identifier is that of no other call. -/
def NewCall (tables : RunTables) (run : RunRow) (toolCallId : String) : Prop :=
  answers tables.ledger run.conversationId toolCallId = 0 ∧
    checkpoints tables.ledger run.runId toolCallId = 0 ∧
    ∀ delivery ∈ tables.delegations.resultDeliveries.rows,
      delivery.parentToolCallId = toolCallId →
        conversationOf tables delivery ≠ some run.conversationId

instance (tables : RunTables) (run : RunRow) (toolCallId : String) :
    Decidable (NewCall tables run toolCallId) := by
  unfold NewCall
  infer_instance

/-- An entry that speaks for a call that waits, or may. The kernel makes none: a
call that waits is answered by its completion. -/
def Meddles (tables : RunTables) : RunOp → Prop
  | .appendMessage row =>
    ∃ delivery ∈ tables.delegations.resultDeliveries.rows,
      answersCall delivery.parentToolCallId (row.toRow 0) = true ∧
        conversationOf tables delivery = some row.conversationId
  | .appendEvent input _ =>
    ∃ delivery ∈ tables.delegations.resultDeliveries.rows,
      delivery.parentRunId = input.runId ∧
        closesCall delivery.parentToolCallId (input.toRow 0 "") = true
  | .transitionRun input _ => input.eventType = some "run.checkpoint"
  | _ => False

instance (tables : RunTables) (op : RunOp) : Decidable (Meddles tables op) := by
  induction op using RunOp.casesOn <;> dsimp only [Meddles] <;> infer_instance

/-- An operation that has an operation of its own below. -/
def HasOwn : RunOp → Prop
  | .markWaiting _ _ identity _ => identity.isSome = true
  | .waitForDelegation _ _ _ _ _ => True
  | .completeChild _ _ => True
  | .terminateChild _ _ _ _ => True
  | .recoverIncompleteRuns _ => True
  | _ => False

instance (op : RunOp) : Decidable (HasOwn op) := by
  induction op using RunOp.casesOn <;> dsimp only [HasOwn] <;> infer_instance

def failureMessage : RunFailure → String
  | .service _ message => message
  | .state _ message => message
  | .unexpected message => message
  | .constraint name => name

def waitIdentity (attemptId toolCallId : String) : ToolWaitIdentity where
  parentAttemptId := attemptId
  parentToolCallId := toolCallId
  toolName := "agent.wait"

/-- The kernel of a running run executes a new call of `agent.wait`, when it is not
busy with another: the wait is recorded, or the tool answers with an error. -/
def agentWait (runId delegationId toolCallId : String) (call : Call) (host : Host) : Host :=
  match host.tables.ledger.runs.find runId with
  | none => host
  | some run =>
    match run.currentAttemptId with
    | none => host
    | some attemptId =>
      if run.status = .running ∧ (∀ other ∈ host.suspending, other.runId ≠ runId) ∧
          NewCall host.tables run toolCallId then
        match (markWaiting runId delegationId
            (some (waitIdentity attemptId toolCallId)) call.now).run host.tables with
        | .error _ => host
        | .ok (_, reached) =>
          { host with
            tables := reached
            suspending := host.suspending ++
              [{ runId := runId
                 attemptId := attemptId
                 delegationId := delegationId
                 toolCallId := toolCallId }] }
      else host

/-- The end of a kernel by an error that is not its own: the run fails unless it
has ended. -/
def failKernel (options : RunOptions) (runId : String) (usage : Usage)
    (failure : RunFailure) (call : Call) (tables : RunTables) : RunTables :=
  match tables.ledger.runs.find runId with
  | none => tables
  | some run =>
    if run.status.terminal = true then tables
    else
      reportThenTransition options usage "AGENT_MODEL_FAILED"
        (failureOf runId "AGENT_MODEL_FAILED" (failureMessage failure)) call tables

/-- The kernel calls `waitForDelegation`, and what that throws ends the kernel. -/
def suspendRun (options : RunOptions) (suspension : Suspension) (usage : Usage)
    (call : Call) (tables : RunTables) : RunTables :=
  match (updateExecutionUsage suspension.runId usage (some "WAITING_DELEGATION") call.now).run
      tables with
  | .error failure => failKernel options suspension.runId usage failure call tables
  | .ok (_, reported) =>
    match (waitForDelegation options suspension.runId suspension.delegationId
        suspension.toolCallId call.now call.createId).run reported with
    | .error failure => failKernel options suspension.runId usage failure call reported
    | .ok (_, reached) => reached

def suspend (options : RunOptions) (runId : String) (usage : Usage) (call : Call)
    (host : Host) : Host :=
  match host.suspending.find? (fun other => decide (other.runId = runId)) with
  | none => host
  | some suspension =>
    { host with
      tables := suspendRun options suspension usage call host.tables
      suspending := host.suspending.filter (fun other => decide (other.runId ≠ runId)) }

/-- `publishDelegationCompletion`, as far as it resumes the parent. -/
def publish (host : Host) (tables : RunTables) : Option DelegationCompletion → Host
  | none => { host with tables := tables }
  | some completion =>
    { host with
      tables := tables
      resumed :=
        if completion.resumeParent = true then
          host.resumed ++ [completion.delegation.delegationId]
        else host.resumed }

def completeAndPublish (options : RunOptions) (childRunId : String) (call : Call)
    (host : Host) : Host :=
  match (DelegationService.completeChild options childRunId call.now call.createId).run
      host.tables with
  | .error _ => host
  | .ok (completion, reached) => publish host reached completion

def terminateAndPublish (options : RunOptions) (childRunId : String)
    (termination : Termination) (errorCode : String) (call : Call) (host : Host) : Host :=
  match (terminateRun options childRunId termination errorCode call.now call.createId).run
      host.tables with
  | .error _ => host
  | .ok (known, reached) =>
    if known = true then
      completeAndPublish options childRunId call { host with tables := reached }
    else { host with tables := reached }

/-- A crash loses what the kernels hold, and the restart classifies the runs it
finds incomplete. -/
def restart (options : RunOptions) (call : Call) (host : Host) : Host :=
  { host with
    tables := perform (recoverIncompleteRuns options call.now call.createId) host.tables
    suspending := [] }

def step (options : RunOptions) (host : Host) : WaitOp → Host
  | .agentWait runId delegationId toolCallId call =>
    agentWait runId delegationId toolCallId call host
  | .suspend runId usage call => suspend options runId usage call host
  | .completeChild childRunId call => completeAndPublish options childRunId call host
  | .terminateChild childRunId termination errorCode call =>
    terminateAndPublish options childRunId termination errorCode call host
  | .restart call => restart options call host
  | .other op =>
    if HasOwn op ∨ Meddles host.tables op then host
    else { host with tables := Operations.step options host.tables op }

def reach (options : RunOptions) (ops : List WaitOp) : Host :=
  Lib.Runs.run (step options) Host.empty ops

end OpenRill.Runs.WaitProtocol
