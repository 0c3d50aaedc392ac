import OpenRill.Automation.Scheduler
import OpenRill.Lib.Runs

/-!
# The scheduler of one process

`AutomationScheduler` with what it keeps in memory. A start recovers the expired runs
and materializes the overdue jobs; a wake materializes the due ones and then claims and
executes one run after another. A process may end after any transaction, and the next
one begins with nothing but the tables.

`left` is no field of the class: it records the leases that were still running when the
scheduler started and those whose execution it gave up. No operation reads it.
-/

namespace OpenRill.Automation.SchedulerProcess

open Lib Lib.Runs Ledger Schedule Scheduler

structure SchedulerOptions where
  zonedParts : String → Nat → Option ZonedParts
  leaseDurationMs : Nat
  dueJobLimit : Nat
  runLimit : Nat
  leaseBounds : 1000 ≤ leaseDurationMs ∧ leaseDurationMs ≤ 60 * 60 * 1000
  jobBounds : 1 ≤ dueJobLimit ∧ dueJobLimit ≤ 1000
  runBounds : 1 ≤ runLimit ∧ runLimit ≤ 1000

/-- Where the process is; `wakeAt` is the time of the wake in flight. -/
inductive Stage where
  | idle
  | starting
  | materializing (wakeAt : Nat)
  | claiming (wakeAt claimedRuns : Nat)
  | claimed (wakeAt claimedRuns : Nat) (automationRunId : String)
  | executing (wakeAt claimedRuns : Nat) (automationRunId : String) (renewing leaseLost : Bool)
  | woken (wakeAt : Nat)
  deriving DecidableEq

/-- A held lease that no execution of the process will end. -/
structure LeftLease where
  automationRunId : String
  expiresAt : Nat
  deriving DecidableEq

structure ProcessState where
  scheduler : SchedulerState
  ownerId : String
  started : Bool
  closing : Bool
  stage : Stage
  left : List LeftLease

def ProcessState.empty : ProcessState where
  scheduler := SchedulerState.empty
  ownerId := ""
  started := false
  closing := false
  stage := .idle
  left := []

def ProcessState.tables (state : ProcessState) : AutomationTables := state.scheduler.tables

def ProcessState.withTables (state : ProcessState) (tables : AutomationTables) : ProcessState :=
  { state with scheduler := { state.scheduler with tables := tables } }

@[simp] theorem ProcessState.withTables_tables (state : ProcessState)
    (tables : AutomationTables) : (state.withTables tables).tables = tables := rfl

def held (row : AutomationRunRow) : Bool :=
  decide (row.status = .claimed ∨ row.status = .running)

def rowEnd (row : AutomationRunRow) : Option Nat :=
  if held row = true then row.lease.map Lease.expiresAt else none

def leaseEnd (tables : AutomationTables) (automationRunId : String) : Option Nat :=
  (tables.runs.find automationRunId).bind rowEnd

def Stage.inHand : Stage → Option String
  | .claimed _ _ automationRunId => some automationRunId
  | .executing _ _ automationRunId _ _ => some automationRunId
  | _ => none

def leftRow (now : Nat) (row : AutomationRunRow) : Option LeftLease :=
  match rowEnd row with
  | none => none
  | some expiresAt =>
    if now < expiresAt then
      some
        { automationRunId := row.automationRunId
          expiresAt := expiresAt }
    else none

def stillRunning (tables : AutomationTables) (now : Nat) : List LeftLease :=
  tables.runs.rows.filterMap (leftRow now)

/-- What `createJob`, `updateJob`, `resetJobRuntime`, `reserveRun` and `runNow` of the
definition service call. -/
inductive DefinitionCall where
  | create (jobId name : String) (enabled : Bool) (definition : JobDefinition) (now : Nat)
  | update (jobId : String) (expectedRevision : Nat) (name : String) (enabled : Bool)
      (definition : JobDefinition) (now : Nat)
  | updateJobRuntime (input : JobRuntimeUpdate)
  | reserveRun (automationRunId jobId : String) (scheduledFor now : Nat)
  | reserveManualRun (automationRunId jobId requestKey : String) (requestedAt : Nat)

def DefinitionCall.toOp : DefinitionCall → SchedulerOp
  | .create jobId name enabled definition now => .create jobId name enabled definition now
  | .update jobId expectedRevision name enabled definition now =>
    .update jobId expectedRevision name enabled definition now
  | .updateJobRuntime input => .ledger (.updateJobRuntime input)
  | .reserveRun automationRunId jobId scheduledFor now =>
    .ledger (.reserveRun automationRunId jobId scheduledFor now)
  | .reserveManualRun automationRunId jobId requestKey requestedAt =>
    .ledger (.reserveManualRun automationRunId jobId requestKey requestedAt)

/-- `AutomationExecutionResult`; what the executor throws is reported as a failure. -/
inductive ExecutionResult where
  | succeeded (runId : Option String)
  | failed (runId : Option String) (errorCode : String)

def validErrorCode (code : String) : Bool :=
  match code.toList with
  | [] => false
  | first :: rest =>
    first.isUpper && decide (rest.length ≤ 127) &&
      rest.all (fun letter => letter.isUpper || letter.isDigit || letter == '_')

inductive ProcessOp where
  | boot (ownerId : String)
  | start (now : Nat) (linked : String → Option LinkedRun)
  | wake (now : Nat)
  | materialize (createId : Nat → String)
  | claim (claimedAt : Nat)
  | markRunning (runningAt : Nat)
  | renew (renewedAt : Nat)
  | bindRunId (runId : String) (boundAt : Nat)
  | finish (result : ExecutionResult) (terminalAt : Nat)
  | throw
  | close
  | define (call : DefinitionCall)

variable (options : SchedulerOptions) (state : ProcessState)

/-- A new process; the one before it is gone with all it had in memory. -/
def boot (ownerId : String) : ProcessState where
  scheduler := setWake state.scheduler state.ownerId none
  ownerId := ownerId
  started := false
  closing := false
  stage := .idle
  left := []

def start (now : Nat) (linked : String → Option LinkedRun) : ProcessState :=
  if state.closing = true ∨ state.started = true then state
  else
    let recovered := (recoverExpiredRuns linked state.tables now).1
    { state with
      scheduler := Scheduler.wake { state.scheduler with tables := recovered } state.ownerId
        true now options.dueJobLimit
      started := true
      stage := .starting
      left := stillRunning state.tables now }

def Stage.resting : Stage → Bool
  | .idle => true
  | .woken _ => true
  | _ => false

def wake (now : Nat) : ProcessState :=
  if state.started = true ∧ state.closing = false ∧ state.stage.resting = true then
    { state with
      scheduler := Scheduler.wake state.scheduler state.ownerId false now options.dueJobLimit
      stage := .materializing now }
  else state

def Stage.materialized : Stage → Stage
  | .starting => .idle
  | .materializing wakeAt => .claiming wakeAt 0
  | stage => stage

def Stage.thrown : Stage → Stage
  | .starting => .idle
  | .materializing wakeAt => .woken wakeAt
  | .claiming wakeAt _ => .woken wakeAt
  | .claimed wakeAt _ _ => .woken wakeAt
  | .executing wakeAt _ _ _ _ => .woken wakeAt
  | stage => stage

def dropped : List LeftLease :=
  match state.stage.inHand with
  | none => []
  | some automationRunId =>
    match leaseEnd state.tables automationRunId with
    | none => []
    | some expiresAt =>
      [{ automationRunId := automationRunId
         expiresAt := expiresAt }]

def thrown : ProcessState :=
  { state with
    scheduler := setWake state.scheduler state.ownerId none
    stage := state.stage.thrown
    left := state.left ++ dropped state }

def Stage.listing : Stage → Bool
  | .starting => true
  | .materializing _ => true
  | _ => false

def materializeDue (createId : Nat → String) : ProcessState :=
  if state.stage.listing = false then state
  else if state.closing = true ∨ nextTurn state.scheduler state.ownerId = none then
    { state with
      scheduler := setWake state.scheduler state.ownerId none
      stage := state.stage.materialized }
  else
    let scheduler := Scheduler.materialize options.zonedParts state.scheduler state.ownerId createId
    if (scheduler.wakes state.ownerId).isSome then { state with scheduler := scheduler }
    else
      { state with scheduler := scheduler, stage := state.stage.thrown }

def listClaimableRuns (tables : AutomationTables) (limit : Nat) : List AutomationRunRow :=
  ((tables.runs.rows.filter (fun row => decide (row.status = .pending))).insertionSort
    scheduledBefore).take limit

def claim (claimedAt : Nat) : ProcessState :=
  match state.stage with
  | .claiming wakeAt claimedRuns =>
    if state.closing = true ∨ options.runLimit ≤ claimedRuns then
      { state with stage := .woken wakeAt }
    else
      match (listClaimableRuns state.tables 1).head? with
      | none => { state with stage := .woken wakeAt }
      | some candidate =>
        match claimRun state.tables candidate.automationRunId state.ownerId claimedAt
          (claimedAt + options.leaseDurationMs) with
        | .error _ => { state with stage := .woken wakeAt }
        | .ok (tables, none) => { state.withTables tables with stage := .woken wakeAt }
        | .ok (tables, some claimed) =>
          { state.withTables tables with
            stage := .claimed wakeAt (claimedRuns + 1) claimed.automationRunId }
  | _ => state

/-- The begin of `#executeClaimed`, up to the executor. -/
def markRunning (runningAt : Nat) : ProcessState :=
  match state.stage with
  | .claimed wakeAt claimedRuns automationRunId =>
    match markRunRunning state.tables automationRunId state.ownerId runningAt
      (runningAt + options.leaseDurationMs) with
    | .error _ => thrown state
    | .ok (tables, none) => thrown (state.withTables tables)
    | .ok (tables, some running) =>
      if (tables.jobs.find running.jobId).isSome then
        { state.withTables tables with
          stage := .executing wakeAt claimedRuns automationRunId true false }
      else thrown (state.withTables tables)
  | _ => state

/-- The renewal timer; a lost lease ends it, and an exception leaves it unarmed. -/
def renew (renewedAt : Nat) : ProcessState :=
  match state.stage with
  | .executing wakeAt claimedRuns automationRunId true false =>
    match renewRunLease state.tables automationRunId state.ownerId renewedAt
      (renewedAt + options.leaseDurationMs) with
    | .error _ =>
      { state with stage := .executing wakeAt claimedRuns automationRunId false false }
    | .ok (tables, none) =>
      { state.withTables tables with
        stage := .executing wakeAt claimedRuns automationRunId false true }
    | .ok (tables, some _) => state.withTables tables
  | _ => state

/-- `bindRunId` of the execution context; the executor sees what it throws. -/
def bindExecution (runId : String) (boundAt : Nat) : ProcessState :=
  match state.stage with
  | .executing _ _ automationRunId _ _ =>
    state.withTables
      (Checked.commit state.tables
        (Ledger.bindRunId state.tables automationRunId state.ownerId runId boundAt))
  | _ => state

/-- The input of the transaction that finishes a run, `none` when the error code of the
executor is refused before it. -/
def finishInput (automationRunId leaseOwner : String) (terminalAt : Nat) :
    ExecutionResult → Option FinishRunInput
  | .succeeded runId =>
    some
      { automationRunId := automationRunId
        leaseOwner := leaseOwner
        status := .succeeded
        runId := runId
        errorCode := none
        terminalAt := terminalAt }
  | .failed runId errorCode =>
    if validErrorCode errorCode = true then
      some
        { automationRunId := automationRunId
          leaseOwner := leaseOwner
          status := .failed
          runId := runId
          errorCode := some errorCode
          terminalAt := terminalAt }
    else none

def finish (result : ExecutionResult) (terminalAt : Nat) : ProcessState :=
  match state.stage with
  | .executing wakeAt claimedRuns automationRunId _ leaseLost =>
    if leaseLost = true then thrown state
    else
      match finishInput automationRunId state.ownerId terminalAt result with
      | none => thrown state
      | some input =>
        match finishRun state.tables input with
        | .error _ => thrown state
        | .ok (tables, none) => thrown (state.withTables tables)
        | .ok (tables, some _) =>
          { state.withTables tables with stage := .claiming wakeAt claimedRuns }
  | _ => state

def step (state : ProcessState) : ProcessOp → ProcessState
  | .boot ownerId => boot state ownerId
  | .start now linked => start options state now linked
  | .wake now => wake options state now
  | .materialize createId => materializeDue options state createId
  | .claim claimedAt => claim options state claimedAt
  | .markRunning runningAt => markRunning options state runningAt
  | .renew renewedAt => renew options state renewedAt
  | .bindRunId runId boundAt => bindExecution state runId boundAt
  | .finish result terminalAt => finish state result terminalAt
  | .throw => thrown state
  | .close => { state with closing := true }
  | .define call =>
    { state with
      scheduler := Scheduler.step options.zonedParts state.scheduler call.toOp }

def reach (ops : List ProcessOp) : ProcessState :=
  run (step options) ProcessState.empty ops

end OpenRill.Automation.SchedulerProcess
