import OpenRill.Automation.Schedule
import Mathlib.Data.List.Sort

/-!
# Schedulers over the automation tables

A wake lists the due jobs in one transaction and then plans and materializes
each of them in a transaction of its own, so reservations, updates, lease
operations and other schedulers come in between. A restart, a failed plan or a
failed transaction drops what is left of the wake.

`planned` is not a table: it records the occurrences of every plan that was
materialized, and no operation reads it.
-/

namespace OpenRill.Automation.Scheduler

open Ledger Schedule

structure Wake where
  startup : Bool
  now : Nat
  due : List (JobRow × JobDefinition)

structure SchedulerState where
  tables : AutomationTables
  definitions : String → Option JobDefinition
  wakes : String → Option Wake
  planned : List (String × Nat)

def SchedulerState.empty : SchedulerState where
  tables := AutomationTables.empty
  definitions := fun _ => none
  wakes := fun _ => none
  planned := []

inductive LedgerCall where
  | updateJobRuntime (input : JobRuntimeUpdate)
  | reserveRun (automationRunId jobId : String) (scheduledFor now : Nat)
  | reserveManualRun (automationRunId jobId requestKey : String) (requestedAt : Nat)
  | claimRun (automationRunId leaseOwner : String) (claimedAt leaseExpiresAt : Nat)
  | markRunRunning (automationRunId leaseOwner : String) (runningAt leaseExpiresAt : Nat)
  | renewRunLease (automationRunId leaseOwner : String) (renewedAt leaseExpiresAt : Nat)
  | bindRunId (automationRunId leaseOwner runId : String) (boundAt : Nat)
  | finishRun (input : FinishRunInput)
  | recoverExpiredRuns (linked : String → Option LinkedRun) (now : Nat)

def LedgerCall.toOp : LedgerCall → AutomationOp
  | .updateJobRuntime input => .updateJobRuntime input
  | .reserveRun automationRunId jobId scheduledFor now =>
    .reserveRun automationRunId jobId scheduledFor now
  | .reserveManualRun automationRunId jobId requestKey requestedAt =>
    .reserveManualRun automationRunId jobId requestKey requestedAt
  | .claimRun automationRunId leaseOwner claimedAt leaseExpiresAt =>
    .claimRun automationRunId leaseOwner claimedAt leaseExpiresAt
  | .markRunRunning automationRunId leaseOwner runningAt leaseExpiresAt =>
    .markRunRunning automationRunId leaseOwner runningAt leaseExpiresAt
  | .renewRunLease automationRunId leaseOwner renewedAt leaseExpiresAt =>
    .renewRunLease automationRunId leaseOwner renewedAt leaseExpiresAt
  | .bindRunId automationRunId leaseOwner runId boundAt =>
    .bindRunId automationRunId leaseOwner runId boundAt
  | .finishRun input => .finishRun input
  | .recoverExpiredRuns linked now => .recoverExpiredRuns linked now

inductive SchedulerOp where
  | create (jobId name : String) (enabled : Bool) (definition : JobDefinition) (now : Nat)
  | update (jobId : String) (expectedRevision : Nat) (name : String) (enabled : Bool)
      (definition : JobDefinition) (now : Nat)
  | wake (ownerId : String) (startup : Bool) (now dueJobLimit : Nat)
  | materialize (ownerId : String) (createId : Nat → String)
  | restart (ownerId : String)
  | ledger (call : LedgerCall)

/-- `ORDER BY next_scheduled_for, job_id`. -/
def dueBefore (first second : JobRow) : Prop :=
  first.nextScheduledFor.getD 0 < second.nextScheduledFor.getD 0 ∨
    (first.nextScheduledFor.getD 0 = second.nextScheduledFor.getD 0 ∧ first.jobId ≤ second.jobId)

instance : DecidableRel dueBefore := fun first second => by
  unfold dueBefore
  infer_instance

def listDueJobs (tables : AutomationTables) (now limit : Nat) : List JobRow :=
  ((tables.jobs.rows.filter (fun job =>
    job.enabled && job.nextScheduledFor.any (fun next => decide (next ≤ now)))).insertionSort
      dueBefore).take limit

def snapshotDue (state : SchedulerState) (now limit : Nat) : List (JobRow × JobDefinition) :=
  (listDueJobs state.tables now limit).filterMap (fun job =>
    (state.definitions job.jobId).map (fun definition => (job, definition)))

def setWake (state : SchedulerState) (ownerId : String) (wake : Option Wake) :
    SchedulerState :=
  { state with wakes := fun other => if other = ownerId then wake else state.wakes other }

def define (state : SchedulerState) (jobId : String) (definition : JobDefinition) :
    SchedulerState :=
  { state with
    definitions := fun other =>
      if other = jobId then some definition else state.definitions other }

variable (zonedParts : String → Nat → Option ZonedParts)

def create (state : SchedulerState) (jobId name : String) (enabled : Bool)
    (definition : JobDefinition) (now : Nat) : SchedulerState :=
  match firstScheduledFor zonedParts definition enabled now with
  | .error _ => state
  | .ok next =>
    match insertJob state.tables (createdJob jobId name enabled next now) with
    | .error _ => state
    | .ok (tables, _) => define { state with tables := tables } jobId definition

def update (state : SchedulerState) (jobId : String) (expectedRevision : Nat)
    (name : String) (enabled : Bool) (definition : JobDefinition) (now : Nat) :
    SchedulerState :=
  match firstScheduledFor zonedParts definition enabled now with
  | .error _ => state
  | .ok next =>
    let input : JobConfigUpdate :=
      { jobId := jobId
        expectedRevision := expectedRevision
        name := name
        enabled := enabled
        nextScheduledFor := next
        updatedAt := now }
    match updateJobConfig state.tables input with
    | .error _ => state
    | .ok (tables, _) => define { state with tables := tables } jobId definition

def wakePlan (wake : Wake) (job : JobRow) (definition : JobDefinition) :
    Except ScheduleFailure WakePlan :=
  if wake.startup then startupPlan zonedParts definition job.nextScheduledFor wake.now
  else regularPlan zonedParts definition job.nextScheduledFor

/-- The rows of a plan, pending ones first; the `n`-th one gets the `n`-th id. -/
def planOccurrences (plan : WakePlan) (createId : Nat → String) : List Occurrence :=
  (plan.pending.map (fun instant => (instant, false)) ++
    plan.skipped.map (fun instant => (instant, true))).mapIdx (fun index entry =>
      { automationRunId := createId index, scheduledFor := entry.1, skipped := entry.2 })

def planInput (wake : Wake) (job : JobRow) (plan : WakePlan) (createId : Nat → String) :
    MaterializeInput where
  jobId := job.jobId
  expectedNextScheduledFor := job.nextScheduledFor.getD 0
  nextScheduledFor := plan.nextScheduledFor
  lastScheduledFor := plan.lastScheduledFor
  occurrences := planOccurrences plan createId
  updatedAt := wake.now

/-- What one turn of the loop over the due jobs commits: the tables, and the
occurrences of its plan when it was materialized. -/
def materialized (tables : AutomationTables) (wake : Wake) (job : JobRow)
    (definition : JobDefinition) (createId : Nat → String) :
    Option (AutomationTables × List (String × Nat)) :=
  match wakePlan zonedParts wake job definition with
  | .error _ => none
  | .ok plan =>
    match materializeDueJob tables (planInput wake job plan createId) with
    | .error _ => none
    | .ok (reached, none) => some (reached, [])
    | .ok (reached, some _) =>
      some (reached, plan.instants.map (fun instant => (job.jobId, instant)))

def nextTurn (state : SchedulerState) (ownerId : String) :
    Option (Wake × JobRow × JobDefinition) :=
  match state.wakes ownerId with
  | none => none
  | some wake =>
    match wake.due with
    | [] => none
    | (job, definition) :: rest => some ({ wake with due := rest }, job, definition)

def materialize (state : SchedulerState) (ownerId : String) (createId : Nat → String) :
    SchedulerState :=
  match nextTurn state ownerId with
  | none => setWake state ownerId none
  | some (wake, job, definition) =>
    match materialized zonedParts state.tables wake job definition createId with
    | none => setWake state ownerId none
    | some (tables, occurrences) =>
      setWake
        { state with tables := tables, planned := state.planned ++ occurrences }
        ownerId (some wake)

def wake (state : SchedulerState) (ownerId : String) (startup : Bool)
    (now dueJobLimit : Nat) : SchedulerState :=
  match state.wakes ownerId with
  | some _ => state
  | none =>
    setWake state ownerId
      (some { startup := startup, now := now, due := snapshotDue state now dueJobLimit })

def step (state : SchedulerState) : SchedulerOp → SchedulerState
  | .create jobId name enabled definition now =>
    create zonedParts state jobId name enabled definition now
  | .update jobId expectedRevision name enabled definition now =>
    update zonedParts state jobId expectedRevision name enabled definition now
  | .wake ownerId startup now dueJobLimit => wake state ownerId startup now dueJobLimit
  | .materialize ownerId createId => materialize zonedParts state ownerId createId
  | .restart ownerId => setWake state ownerId none
  | .ledger call => { state with tables := Ledger.step state.tables call.toOp }

end OpenRill.Automation.Scheduler
