import OpenRill.Lib.Checked
import OpenRill.Lib.Table
import OpenRill.State.Failure
import OpenRill.State.RunStatus
import Mathlib.Data.List.Sort

/-!
# The automation tables and their repository

Jobs, their materialized runs and the lease operations of
`StateAutomationRepository`. Three columns of a run, `claimed_at`,
`lease_owner` and `lease_expires_at`, are one optional lease: the table's CHECK
says that they are null together and that a lease does not expire before it was
claimed. The schedule, template and policy columns of a job are written and
never read here; they are left out.

`history` is not a table. It records what was written, in order, and no
operation reads it: a run claimed, a run finished by the holder of its lease,
and every terminal status that a write stores.
-/

namespace OpenRill.Automation.Ledger

open Lib Lib.Checked State

/-- The repository throws only errors of the state database. -/
abbrev AutomationFailure := Failure Empty

structure JobRow where
  jobId : String
  name : String
  enabled : Bool
  revision : Nat
  nextScheduledFor : Option Nat
  lastScheduledFor : Option Nat
  consecutiveFailures : Nat
  createdAt : Nat
  updatedAt : Nat
  deriving DecidableEq

inductive TriggerKind where
  | scheduled
  | manual
  deriving DecidableEq

inductive AutomationRunStatus where
  | pending
  | claimed
  | running
  | succeeded
  | failed
  | skipped
  | cancelled
  deriving DecidableEq

def AutomationRunStatus.terminal : AutomationRunStatus → Bool
  | .succeeded => true
  | .failed => true
  | .skipped => true
  | .cancelled => true
  | _ => false

/-- A held lease; one that ends before it begins cannot be built. -/
structure Lease where
  claimedAt : Nat
  owner : String
  expiresAt : Nat
  ordered : claimedAt ≤ expiresAt
  deriving DecidableEq

structure AutomationRunRow where
  automationRunId : String
  jobId : String
  scheduledFor : Nat
  triggerKind : TriggerKind
  requestKey : Option String
  lease : Option Lease
  runId : Option String
  status : AutomationRunStatus
  attempt : Nat
  errorCode : Option String
  createdAt : Nat
  updatedAt : Nat
  deriving DecidableEq

inductive LeaseEvent where
  | claimed (automationRunId : String) (attempt : Nat) (owner : String)
  | finished (automationRunId : String) (attempt : Nat) (owner : String)
  | outcome (jobId automationRunId : String) (status : AutomationRunStatus)
  deriving DecidableEq

structure AutomationTables where
  jobs : Table JobRow.jobId
  runs : Table AutomationRunRow.automationRunId
  history : List LeaseEvent

def AutomationTables.empty : AutomationTables where
  jobs := Table.empty
  runs := Table.empty
  history := []

def AutomationRunRow.outcomes (row : AutomationRunRow) : List LeaseEvent :=
  if row.status.terminal then [.outcome row.jobId row.automationRunId row.status] else []

def writeRun (tables : AutomationTables) (row : AutomationRunRow) : AutomationTables :=
  { tables with runs := tables.runs.update row, history := tables.history ++ row.outcomes }

def insertJob (tables : AutomationTables) (row : JobRow) :
    Except AutomationFailure (AutomationTables × JobRow) := do
  let jobs ← fetch (tables.jobs.insert row) (.constraint "automation_jobs.job_id")
  pure ({ tables with jobs := jobs }, row)

structure JobConfigUpdate where
  jobId : String
  expectedRevision : Nat
  name : String
  enabled : Bool
  nextScheduledFor : Option Nat
  updatedAt : Nat

def JobRow.withConfig (job : JobRow) (input : JobConfigUpdate) : JobRow :=
  { job with
    name := input.name
    enabled := input.enabled
    revision := job.revision + 1
    nextScheduledFor := input.nextScheduledFor
    updatedAt := input.updatedAt }

def updateJobConfig (tables : AutomationTables) (input : JobConfigUpdate) :
    Except AutomationFailure (AutomationTables × JobRow) := do
  let existing ← fetch (tables.jobs.find input.jobId)
    (.state .conflict ("automation job not found: " ++ input.jobId))
  require (existing.revision = input.expectedRevision)
    (.state .conflict
      ("automation job revision conflict: expected=" ++ toString input.expectedRevision ++
        " actual=" ++ toString existing.revision))
  let row := existing.withConfig input
  pure ({ tables with jobs := tables.jobs.update row }, row)

structure JobRuntimeUpdate where
  jobId : String
  nextScheduledFor : Option Nat
  lastScheduledFor : Option Nat
  consecutiveFailures : Nat
  updatedAt : Nat

def JobRow.withRuntime (job : JobRow) (input : JobRuntimeUpdate) : JobRow :=
  { job with
    nextScheduledFor := input.nextScheduledFor
    lastScheduledFor := input.lastScheduledFor
    consecutiveFailures := input.consecutiveFailures
    updatedAt := input.updatedAt }

/-- The operator's reset of the runtime columns. -/
def updateJobRuntime (tables : AutomationTables) (input : JobRuntimeUpdate) :
    Except AutomationFailure (AutomationTables × JobRow) := do
  let existing ← fetch (tables.jobs.find input.jobId)
    (.state .conflict ("automation job not found: " ++ input.jobId))
  let row := existing.withRuntime input
  pure ({ tables with jobs := tables.jobs.update row }, row)

def getRunBySchedule (tables : AutomationTables) (jobId : String) (scheduledFor : Nat) :
    Option AutomationRunRow :=
  tables.runs.rows.find? (fun row =>
    decide (row.jobId = jobId ∧ row.scheduledFor = scheduledFor))

def getRunByRequestKey (tables : AutomationTables) (requestKey : String) :
    Option AutomationRunRow :=
  tables.runs.rows.find? (fun row => decide (row.requestKey = some requestKey))

/-- `INSERT … ON CONFLICT(job_id, scheduled_for) DO NOTHING`, then the stored
row. The other constraints are the primary key, the unique request key and the
reference to the job. -/
def insertRun (tables : AutomationTables) (row : AutomationRunRow) :
    Except AutomationFailure (AutomationTables × Bool × AutomationRunRow) :=
  match getRunBySchedule tables row.jobId row.scheduledFor with
  | some stored => .ok (tables, false, stored)
  | none => do
      require (∀ key ∈ row.requestKey, getRunByRequestKey tables key = none)
        (.constraint "automation_runs.request_key")
      require ((tables.jobs.find row.jobId).isSome) (.constraint "FOREIGN KEY constraint failed")
      let runs ← fetch (tables.runs.insert row) (.constraint "automation_runs.automation_run_id")
      pure ({ tables with runs := runs, history := tables.history ++ row.outcomes }, true, row)

def createRunRow (automationRunId jobId : String) (scheduledFor : Nat)
    (triggerKind : TriggerKind) (requestKey : Option String)
    (status : AutomationRunStatus) (errorCode : Option String) (now : Nat) :
    AutomationRunRow where
  automationRunId := automationRunId
  jobId := jobId
  scheduledFor := scheduledFor
  triggerKind := triggerKind
  requestKey := requestKey
  lease := none
  runId := none
  status := status
  attempt := 0
  errorCode := errorCode
  createdAt := now
  updatedAt := now

/-- The insert attempts of `reserveManualRun`: an occupied occurrence is tried
one millisecond later. -/
def insertManualRun (tables : AutomationTables) (automationRunId jobId requestKey : String)
    (requestedAt : Nat) :
    Nat → Nat → Except AutomationFailure (AutomationTables × Bool × AutomationRunRow)
  | 0, _ =>
    .error (.state .conflict ("automation manual occurrence collision limit exceeded: " ++ jobId))
  | tries + 1, scheduledFor => do
      let inserted ← insertRun tables
        (createRunRow automationRunId jobId scheduledFor .manual (some requestKey) .pending
          none requestedAt)
      if inserted.2.1 then pure inserted
      else
        insertManualRun tables automationRunId jobId requestKey requestedAt tries (scheduledFor + 1)

def reserveManualRun (tables : AutomationTables) (automationRunId jobId requestKey : String)
    (requestedAt : Nat) :
    Except AutomationFailure (AutomationTables × Bool × AutomationRunRow) :=
  match getRunByRequestKey tables requestKey with
  | some replay => do
      require (replay.jobId = jobId ∧ replay.triggerKind = .manual)
        (.state .conflict ("automation manual request conflict: " ++ requestKey))
      pure (tables, false, replay)
  | none => do
      require ((tables.jobs.find jobId).isSome)
        (.state .conflict ("automation job not found: " ++ jobId))
      insertManualRun tables automationRunId jobId requestKey requestedAt 1000 requestedAt

def insertRuns : AutomationTables → List AutomationRunRow →
    Except AutomationFailure (AutomationTables × List AutomationRunRow)
  | tables, [] => .ok (tables, [])
  | tables, row :: rows => do
      let first ← insertRun tables row
      let rest ← insertRuns first.1 rows
      pure (rest.1, first.2.2 :: rest.2)

structure Occurrence where
  automationRunId : String
  scheduledFor : Nat
  skipped : Bool

def Occurrence.toRow (occurrence : Occurrence) (jobId : String) (now : Nat) :
    AutomationRunRow :=
  createRunRow occurrence.automationRunId jobId occurrence.scheduledFor .scheduled none
    (if occurrence.skipped then .skipped else .pending)
    (if occurrence.skipped then some "AUTOMATION_CATCH_UP_SKIPPED" else none) now

structure MaterializeInput where
  jobId : String
  expectedNextScheduledFor : Nat
  nextScheduledFor : Option Nat
  lastScheduledFor : Option Nat
  occurrences : List Occurrence
  updatedAt : Nat

def JobRow.advancedBy (job : JobRow) (input : MaterializeInput) : JobRow :=
  { job with
    nextScheduledFor := input.nextScheduledFor
    lastScheduledFor := input.lastScheduledFor.or job.lastScheduledFor
    updatedAt := input.updatedAt }

/-- `none` is the source's `materialized: false`: the job moved on meanwhile. -/
def materializeDueJob (tables : AutomationTables) (input : MaterializeInput) :
    Except AutomationFailure (AutomationTables × Option (List AutomationRunRow)) :=
  match tables.jobs.find input.jobId with
  | none => .ok (tables, none)
  | some current =>
    if current.enabled = true ∧
        current.nextScheduledFor = some input.expectedNextScheduledFor then do
      let stored ← insertRuns tables
        (input.occurrences.map (fun occurrence =>
          occurrence.toRow input.jobId input.updatedAt))
      pure
        ({ stored.1 with jobs := stored.1.jobs.update (current.advancedBy input) }, some stored.2)
    else .ok (tables, none)

/-- The lease columns that a claim or a renewal writes; `none` when they would
break the table's CHECK. -/
def makeLease (claimedAt : Nat) (owner : String) (expiresAt : Nat) : Option Lease :=
  if ordered : claimedAt ≤ expiresAt then
    some { claimedAt := claimedAt, owner := owner, expiresAt := expiresAt, ordered := ordered }
  else none

def leaseCheck : AutomationFailure := .constraint "automation_runs.lease_expires_at"

def AutomationRunRow.claimedUnder (row : AutomationRunRow) (lease : Lease) (now : Nat) :
    AutomationRunRow :=
  { row with
    lease := some lease
    status := .claimed
    attempt := row.attempt + 1
    errorCode := none
    updatedAt := now }

def recordClaim (tables : AutomationTables) (automationRunId : String) (attempt : Nat)
    (owner : String) : AutomationTables :=
  { tables with history := tables.history ++ [.claimed automationRunId attempt owner] }

def recordFinish (tables : AutomationTables) (automationRunId : String) (attempt : Nat)
    (owner : String) : AutomationTables :=
  { tables with history := tables.history ++ [.finished automationRunId attempt owner] }

def claimRun (tables : AutomationTables) (automationRunId leaseOwner : String)
    (claimedAt leaseExpiresAt : Nat) :
    Except AutomationFailure (AutomationTables × Option AutomationRunRow) :=
  match tables.runs.find automationRunId with
  | none => .ok (tables, none)
  | some current =>
    if current.status = .pending then do
      let lease ← fetch (makeLease claimedAt leaseOwner leaseExpiresAt) leaseCheck
      let row := current.claimedUnder lease claimedAt
      pure (recordClaim (writeRun tables row) automationRunId row.attempt leaseOwner, some row)
    else .ok (tables, none)

/-- The row is held by `owner` under a lease that has not run out at `now`. -/
def AutomationRunRow.heldBy (row : AutomationRunRow) (owner : String) (now : Nat) : Bool :=
  match row.lease with
  | none => false
  | some lease => decide (lease.owner = owner ∧ now ≤ lease.expiresAt)

def AutomationRunRow.extended (row : AutomationRunRow) (expiresAt : Nat) : Option Lease :=
  match row.lease with
  | none => none
  | some lease => makeLease lease.claimedAt lease.owner expiresAt

def AutomationRunRow.startedUnder (row : AutomationRunRow) (lease : Lease) (now : Nat) :
    AutomationRunRow :=
  { row with status := .running, lease := some lease, updatedAt := now }

def AutomationRunRow.renewedUnder (row : AutomationRunRow) (lease : Lease) (now : Nat) :
    AutomationRunRow :=
  { row with lease := some lease, updatedAt := now }

def AutomationRunRow.boundTo (row : AutomationRunRow) (runId : String) (now : Nat) :
    AutomationRunRow :=
  { row with runId := some runId, updatedAt := now }

def markRunRunning (tables : AutomationTables) (automationRunId leaseOwner : String)
    (runningAt leaseExpiresAt : Nat) :
    Except AutomationFailure (AutomationTables × Option AutomationRunRow) :=
  match tables.runs.find automationRunId with
  | none => .ok (tables, none)
  | some current =>
    if current.status = .claimed ∧ current.heldBy leaseOwner runningAt = true then do
      let lease ← fetch (current.extended leaseExpiresAt) leaseCheck
      let row := current.startedUnder lease runningAt
      pure (writeRun tables row, some row)
    else .ok (tables, none)

def renewRunLease (tables : AutomationTables) (automationRunId leaseOwner : String)
    (renewedAt leaseExpiresAt : Nat) :
    Except AutomationFailure (AutomationTables × Option AutomationRunRow) :=
  match tables.runs.find automationRunId with
  | none => .ok (tables, none)
  | some current =>
    if (current.status = .claimed ∨ current.status = .running) ∧
        current.heldBy leaseOwner renewedAt = true then do
      let lease ← fetch (current.extended leaseExpiresAt) leaseCheck
      let row := current.renewedUnder lease renewedAt
      pure (writeRun tables row, some row)
    else .ok (tables, none)

def bindRunId (tables : AutomationTables) (automationRunId leaseOwner runId : String)
    (boundAt : Nat) :
    Except AutomationFailure (AutomationTables × Option AutomationRunRow) :=
  match tables.runs.find automationRunId with
  | none => .ok (tables, none)
  | some current =>
    if current.runId = some runId then .ok (tables, some current)
    else if current.status = .running ∧ current.heldBy leaseOwner boundAt = true ∧
        current.runId = none then
      let row := current.boundTo runId boundAt
      .ok (writeRun tables row, some row)
    else .ok (tables, none)

/-- `status: "SUCCEEDED" | "FAILED" | "CANCELLED"`. -/
inductive FinishStatus where
  | succeeded
  | failed
  | cancelled
  deriving DecidableEq

def FinishStatus.toStatus : FinishStatus → AutomationRunStatus
  | .succeeded => .succeeded
  | .failed => .failed
  | .cancelled => .cancelled

@[simp] theorem FinishStatus.toStatus_terminal (status : FinishStatus) :
    status.toStatus.terminal = true := by
  cases status <;> rfl

/-- `last_scheduled_for` keeps the latest occurrence. -/
def latestOccurrence (current : Option Nat) (scheduledFor : Nat) : Option Nat :=
  match current with
  | none => some scheduledFor
  | some last => if last < scheduledFor then some scheduledFor else some last

/-- The runtime columns of a job after one of its runs ended: a success clears
the failures, a failure counts, a cancellation leaves the job alone. -/
def JobRow.afterOutcome (job : JobRow) (status : AutomationRunStatus) (scheduledFor now : Nat) :
    JobRow :=
  match status with
  | .succeeded =>
    { job with
      lastScheduledFor := latestOccurrence job.lastScheduledFor scheduledFor
      consecutiveFailures := 0
      updatedAt := now }
  | .failed =>
    { job with
      lastScheduledFor := latestOccurrence job.lastScheduledFor scheduledFor
      consecutiveFailures := job.consecutiveFailures + 1
      updatedAt := now }
  | _ => job

def updateJobOutcome (tables : AutomationTables) (jobId : String)
    (status : AutomationRunStatus) (scheduledFor now : Nat) : AutomationTables :=
  match tables.jobs.find jobId with
  | none => tables
  | some job =>
    { tables with jobs := tables.jobs.update (job.afterOutcome status scheduledFor now) }

structure FinishRunInput where
  automationRunId : String
  leaseOwner : String
  status : FinishStatus
  runId : Option String
  errorCode : Option String
  terminalAt : Nat

def AutomationRunRow.finishedBy (row : AutomationRunRow) (input : FinishRunInput) :
    AutomationRunRow :=
  { row with
    status := input.status.toStatus
    runId := input.runId.or row.runId
    errorCode := input.errorCode
    lease := none
    updatedAt := input.terminalAt }

def finishRun (tables : AutomationTables) (input : FinishRunInput) :
    Except AutomationFailure (AutomationTables × Option AutomationRunRow) :=
  match tables.runs.find input.automationRunId with
  | none => .ok (tables, none)
  | some current =>
    if current.status = .running ∧
        current.heldBy input.leaseOwner input.terminalAt = true then
      let row := current.finishedBy input
      let written := recordFinish (writeRun tables row) input.automationRunId
        current.attempt input.leaseOwner
      .ok (updateJobOutcome written current.jobId row.status current.scheduledFor
        input.terminalAt, some row)
    else .ok (tables, none)

/-- The columns of the linked agent run that recovery reads. -/
structure LinkedRun where
  status : RunStatus
  recoveryState : RecoveryState
  deriving DecidableEq

def LinkedRun.resumes (linked : LinkedRun) : Bool :=
  decide (linked.recoveryState = .resumable) &&
    decide (linked.status = .created ∨ linked.status = .waitingApproval)

def AutomationRunRow.expired (row : AutomationRunRow) (now : Nat) : Bool :=
  match row.lease with
  | none => false
  | some lease => decide (lease.expiresAt ≤ now)

def AutomationRunRow.requeued (row : AutomationRunRow) (now : Nat) : AutomationRunRow :=
  { row with status := .pending, lease := none, errorCode := none, updatedAt := now }

def AutomationRunRow.interrupted (row : AutomationRunRow) (now : Nat) : AutomationRunRow :=
  { row with
    status := .failed
    lease := none
    errorCode := some "AUTOMATION_INTERRUPTED_BY_RESTART"
    updatedAt := now }

/-- `ORDER BY scheduled_for, automation_run_id`. -/
def scheduledBefore (first second : AutomationRunRow) : Prop :=
  first.scheduledFor < second.scheduledFor ∨
    (first.scheduledFor = second.scheduledFor ∧ first.automationRunId ≤ second.automationRunId)

instance : DecidableRel scheduledBefore := fun first second => by
  unfold scheduledBefore
  infer_instance

def listExpiredRuns (tables : AutomationTables) (now : Nat) : List AutomationRunRow :=
  (tables.runs.rows.filter (fun row =>
    decide (row.status = .claimed ∨ row.status = .running) &&
      row.expired now)).insertionSort scheduledBefore

structure RecoveredRuns where
  requeued : List AutomationRunRow
  failed : List AutomationRunRow

/-- `UPDATE … WHERE automation_run_id = … AND status = … AND lease_expires_at <=
now`, giving the tables and the row read back. -/
def updateExpired (tables : AutomationTables) (automationRunId : String)
    (status : AutomationRunStatus) (now : Nat)
    (change : AutomationRunRow → AutomationRunRow) :
    AutomationTables × Option AutomationRunRow :=
  match tables.runs.find automationRunId with
  | none => (tables, none)
  | some current =>
    if current.status = status ∧ current.expired now = true then
      (writeRun tables (change current), some (change current))
    else (tables, some current)

/-- One turn of the recovery loop over a run that was expired when listed. -/
def recoverRun (linked : String → Option LinkedRun) (now : Nat)
    (tables : AutomationTables) (recovered : RecoveredRuns) (run : AutomationRunRow) :
    AutomationTables × RecoveredRuns :=
  let resumes := (run.runId.bind linked).any LinkedRun.resumes
  if run.status = .claimed ∨ resumes = true then
    let updated := updateExpired tables run.automationRunId run.status now
      (fun current => current.requeued now)
    match updated.2 with
    | some row =>
      if row.status = .pending then
        (updated.1, { recovered with requeued := recovered.requeued ++ [row] })
      else (updated.1, recovered)
    | none => (updated.1, recovered)
  else
    let updated := updateExpired tables run.automationRunId .running now
      (fun current => current.interrupted now)
    match updated.2 with
    | some row =>
      if row.status = .failed then
        (updateJobOutcome updated.1 run.jobId .failed run.scheduledFor now,
          { recovered with failed := recovered.failed ++ [row] })
      else (updated.1, recovered)
    | none => (updated.1, recovered)

def recoverRuns (linked : String → Option LinkedRun) (now : Nat) :
    List AutomationRunRow → AutomationTables → RecoveredRuns → AutomationTables × RecoveredRuns
  | [], tables, recovered => (tables, recovered)
  | run :: runs, tables, recovered =>
    let next := recoverRun linked now tables recovered run
    recoverRuns linked now runs next.1 next.2

def recoverExpiredRuns (linked : String → Option LinkedRun) (tables : AutomationTables)
    (now : Nat) : AutomationTables × RecoveredRuns :=
  recoverRuns linked now (listExpiredRuns tables now) tables
    { requeued := []
      failed := [] }

/-- The calls of schedulers, executors and operators, each one transaction. -/
inductive AutomationOp where
  | createJob (jobId name : String) (enabled : Bool) (nextScheduledFor : Option Nat)
      (now : Nat)
  | updateJobConfig (input : JobConfigUpdate)
  | updateJobRuntime (input : JobRuntimeUpdate)
  | reserveRun (automationRunId jobId : String) (scheduledFor now : Nat)
  | reserveManualRun (automationRunId jobId requestKey : String) (requestedAt : Nat)
  | materializeDueJob (input : MaterializeInput)
  | claimRun (automationRunId leaseOwner : String) (claimedAt leaseExpiresAt : Nat)
  | markRunRunning (automationRunId leaseOwner : String) (runningAt leaseExpiresAt : Nat)
  | renewRunLease (automationRunId leaseOwner : String) (renewedAt leaseExpiresAt : Nat)
  | bindRunId (automationRunId leaseOwner runId : String) (boundAt : Nat)
  | finishRun (input : FinishRunInput)
  | recoverExpiredRuns (linked : String → Option LinkedRun) (now : Nat)

def createdJob (jobId name : String) (enabled : Bool) (nextScheduledFor : Option Nat)
    (now : Nat) : JobRow where
  jobId := jobId
  name := name
  enabled := enabled
  revision := 1
  nextScheduledFor := nextScheduledFor
  lastScheduledFor := none
  consecutiveFailures := 0
  createdAt := now
  updatedAt := now

def step (tables : AutomationTables) : AutomationOp → AutomationTables
  | .createJob jobId name enabled nextScheduledFor now =>
    commit tables (insertJob tables (createdJob jobId name enabled nextScheduledFor now))
  | .updateJobConfig input => commit tables (updateJobConfig tables input)
  | .updateJobRuntime input => commit tables (updateJobRuntime tables input)
  | .reserveRun automationRunId jobId scheduledFor now =>
    commit tables (insertRun tables
      (createRunRow automationRunId jobId scheduledFor .scheduled none .pending none now))
  | .reserveManualRun automationRunId jobId requestKey requestedAt =>
    commit tables (reserveManualRun tables automationRunId jobId requestKey requestedAt)
  | .materializeDueJob input => commit tables (materializeDueJob tables input)
  | .claimRun automationRunId leaseOwner claimedAt leaseExpiresAt =>
    commit tables (claimRun tables automationRunId leaseOwner claimedAt leaseExpiresAt)
  | .markRunRunning automationRunId leaseOwner runningAt leaseExpiresAt =>
    commit tables (markRunRunning tables automationRunId leaseOwner runningAt leaseExpiresAt)
  | .renewRunLease automationRunId leaseOwner renewedAt leaseExpiresAt =>
    commit tables (renewRunLease tables automationRunId leaseOwner renewedAt leaseExpiresAt)
  | .bindRunId automationRunId leaseOwner runId boundAt =>
    commit tables (bindRunId tables automationRunId leaseOwner runId boundAt)
  | .finishRun input => commit tables (finishRun tables input)
  | .recoverExpiredRuns linked now => (recoverExpiredRuns linked tables now).1

end OpenRill.Automation.Ledger
