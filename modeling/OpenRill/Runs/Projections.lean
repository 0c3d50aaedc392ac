import OpenRill.Runs.Operations

/-!
# Ending and parking an execution

`completeExecution`, `failExecution`, `waitForApproval` and `waitForDelegation`
report the usage of the run in one transaction and move the run in a second one,
which also rebuilds the projection of the conversation. An operation is a procedure
of two transactions here, over the tables with their projections.
-/

namespace OpenRill.Runs.Projections

open Lib Lib.Transaction State Ledger Delegations Lifecycle Operations

structure ProjectionRow where
  conversationId : String
  messageCount : Nat
  lastMessageSequence : Nat
  lastRunId : Option String
  lastRunStatus : Option RunStatus
  rebuiltAt : Nat
  deriving DecidableEq

structure HostTables where
  tables : RunTables
  projections : Table ProjectionRow.conversationId

abbrev HostTransaction := Transaction HostTables RunFailure

def HostTables.withTables (host : HostTables) (tables : RunTables) : HostTables :=
  { host with tables := tables }

def onTables {Value : Type} (body : RunTransaction Value) : HostTransaction Value :=
  focus HostTables.tables HostTables.withTables body

/-- `ORDER BY created_at DESC, run_id DESC LIMIT 1`. -/
def latestRun (store : RunStore) (conversationId : String) : Option RunRow :=
  ((store.runs.rows.filter (fun row => decide (row.conversationId = conversationId))).insertionSort
    createdEarlier).getLast?

def projectionOf (store : RunStore) (conversationId : String) (now : Nat) : ProjectionRow where
  conversationId := conversationId
  messageCount := (listMessages store conversationId).length
  lastMessageSequence :=
    ((listMessages store conversationId).map MessageRow.sequence).foldr max 0
  lastRunId := (latestRun store conversationId).map RunRow.runId
  lastRunStatus := (latestRun store conversationId).map RunRow.status
  rebuiltAt := now

/-- `INSERT … ON CONFLICT(conversation_id) DO UPDATE`. -/
def saveProjection (projections : Table ProjectionRow.conversationId) (row : ProjectionRow) :
    Table ProjectionRow.conversationId :=
  (projections.insert row).getD (projections.update row)

def rebuildProjection (conversationId : String) (now : Nat) : HostTransaction Unit :=
  change (fun host =>
    { host with
      projections := saveProjection host.projections
        (projectionOf host.tables.ledger conversationId now) })

inductive Outcome where
  | completed (reason : String) (completionText : Option String)
  | failed (errorCode message : String)
  | waitingApproval (requestId : String)
  | waitingDelegation (delegationId toolCallId : String)
  deriving DecidableEq

def Outcome.reason : Outcome → String
  | .completed reason _ => reason
  | .failed errorCode _ => errorCode
  | .waitingApproval _ => "WAITING_APPROVAL"
  | .waitingDelegation _ _ => "WAITING_DELEGATION"

def moveRun (options : RunOptions) (runId : String) (usage : Usage) (call : Call) :
    Outcome → RunTransaction RunRow
  | .completed reason completionText =>
    onLedger (transitionRun options (completion runId usage reason completionText) call.now
      call.createId)
  | .failed errorCode message =>
    onLedger (transitionRun options (failureOf runId errorCode message) call.now call.createId)
  | .waitingApproval requestId =>
    onLedger (transitionRun options (approvalWait runId requestId) call.now call.createId)
  | .waitingDelegation delegationId toolCallId =>
    waitForDelegation options runId delegationId toolCallId call.now call.createId

theorem run_onTables {Value : Type} (body : RunTransaction Value) (host : HostTables) :
    (onTables body).run host =
      (body.run host.tables).map (fun result => (result.1, host.withTables result.2)) := by
  unfold onTables focus
  simp only [StateT.run]
  cases body host.tables with
  | error failure => rfl
  | ok pair => rfl

def moveProjected (options : RunOptions) (runId : String) (usage : Usage) (outcome : Outcome)
    (call : Call) : HostTransaction RunRow := do
  let run ← onTables (moveRun options runId usage call outcome)
  rebuildProjection run.conversationId call.now
  pure run

theorem run_moveProjected (options : RunOptions) (runId : String) (usage : Usage)
    (outcome : Outcome) (call : Call) (host : HostTables) :
    (moveProjected options runId usage outcome call).run host =
      ((moveRun options runId usage call outcome).run host.tables).map (fun result =>
        (result.1,
          { tables := result.2
            projections := saveProjection host.projections
              (projectionOf result.2.ledger result.1.conversationId call.now) })) := by
  unfold moveProjected
  rw [StateT.run_bind, run_onTables]
  cases (moveRun options runId usage call outcome).run host.tables with
  | error failure => rfl
  | ok pair => rfl

/-- `completeExecution`, `failExecution`, `waitForApproval` and `waitForDelegation`. -/
def endExecution (options : RunOptions) (runId : String) (usage : Usage) (outcome : Outcome)
    (call : Call) : Procedure HostTables RunFailure RunRow := do
  commit (onTables (updateExecutionUsage runId usage (some outcome.reason) call.now))
  commit (moveProjected options runId usage outcome call)

end OpenRill.Runs.Projections
