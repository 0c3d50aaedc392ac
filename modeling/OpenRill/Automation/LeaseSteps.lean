import OpenRill.Automation.RunWrites
import Mathlib.Logic.Relation

/-!
# What a scheduler call can do to the automation tables

Every call is a sequence of five kinds of change: a job is written, the runtime
of a job is reset, a run is inserted, a live run moves between live states, and
a running run ends. Each operation is read as such a sequence once.
-/

namespace OpenRill.Automation.LeaseSteps

open Lib Lib.Checked Ledger RunWrites

variable {tables after : AutomationTables} {row : AutomationRunRow} {result : JobRow} {now : Nat}

def failuresOf (tables : AutomationTables) (jobId : String) : Nat :=
  ((tables.jobs.find jobId).map JobRow.consecutiveFailures).getD 0

def JobsKept (before after : AutomationTables) : Prop :=
  ∀ jobId, (before.jobs.find jobId).isSome → (after.jobs.find jobId).isSome

/-- How a live run may move. A claim raises the attempt and names its owner;
otherwise the attempt stays and the lease keeps its owner or is dropped. -/
inductive LiveMove (current row : AutomationRunRow) : List LeaseEvent → Prop where
  | claim (owner : String)
      (unclaimed : current.status = .pending)
      (raised : row.attempt = current.attempt + 1)
      (held : ∀ lease ∈ row.lease, lease.owner = owner) :
      LiveMove current row [.claimed current.automationRunId row.attempt owner]
  | keep
      (same : row.attempt = current.attempt)
      (held : ∀ lease ∈ row.lease, ∃ earlier ∈ current.lease, lease.owner = earlier.owner) :
      LiveMove current row []

inductive EndedBy (current : AutomationRunRow) : List LeaseEvent → Prop where
  | holder (lease : Lease) (held : current.lease = some lease) :
      EndedBy current [.finished current.automationRunId current.attempt lease.owner]
  | recovery : EndedBy current []

def failuresAfter (status : AutomationRunStatus) (failures : Nat) : Nat :=
  match status with
  | .succeeded => 0
  | .failed => failures + 1
  | _ => failures

inductive AutomationStep : AutomationTables → AutomationTables → Prop where
  | writeJob (before after : AutomationTables)
      (runs : after.runs = before.runs) (history : after.history = before.history)
      (kept : JobsKept before after)
      (failures : ∀ jobId, failuresOf after jobId = failuresOf before jobId) :
      AutomationStep before after
  | insertRun (before after : AutomationTables) (row : AutomationRunRow)
      (jobs : after.jobs = before.jobs)
      (known : (before.jobs.find row.jobId).isSome)
      (unstarted : row.status = .pending ∨ row.status = .skipped)
      (unclaimed : row.lease = none)
      (free : getRunBySchedule before row.jobId row.scheduledFor = none)
      (inserted : before.runs.insert row = some after.runs)
      (history : after.history = before.history ++ row.outcomes) :
      AutomationStep before after
  | moveRun (before after : AutomationTables) (current row : AutomationRunRow)
      (extra : List LeaseEvent)
      (jobs : after.jobs = before.jobs)
      (present : before.runs.find current.automationRunId = some current)
      (sameRun : row.automationRunId = current.automationRunId)
      (sameJob : row.jobId = current.jobId)
      (sameSlot : row.scheduledFor = current.scheduledFor ∧ row.triggerKind = current.triggerKind)
      (wasLive : current.status.terminal = false)
      (live : row.status.terminal = false)
      (moved : LiveMove current row extra)
      (runs : after.runs = before.runs.update row)
      (history : after.history = before.history ++ extra) :
      AutomationStep before after
  | endRun (before after : AutomationTables) (current row : AutomationRunRow)
      (extra : List LeaseEvent)
      (present : before.runs.find current.automationRunId = some current)
      (sameRun : row.automationRunId = current.automationRunId)
      (sameJob : row.jobId = current.jobId)
      (sameSlot : row.scheduledFor = current.scheduledFor ∧ row.triggerKind = current.triggerKind)
      (sameAttempt : row.attempt = current.attempt)
      (wasLive : current.status.terminal = false)
      (ended : row.status.terminal = true)
      (released : row.lease = none)
      (by_whom : EndedBy current extra)
      (runs : after.runs = before.runs.update row)
      (history : after.history =
        before.history ++ [.outcome row.jobId row.automationRunId row.status] ++ extra)
      (kept : JobsKept before after)
      (failures : ∀ jobId, failuresOf after jobId =
        if row.jobId = jobId ∧ (before.jobs.find jobId).isSome then
          failuresAfter row.status (failuresOf before jobId)
        else failuresOf before jobId) :
      AutomationStep before after

abbrev AutomationPath := Relation.ReflTransGen AutomationStep

theorem outcomes_of_live (live : row.status.terminal = false) : row.outcomes = [] := by
  simp [AutomationRunRow.outcomes, live]

theorem outcomes_of_terminal (ended : row.status.terminal = true) :
    row.outcomes = [.outcome row.jobId row.automationRunId row.status] := by
  simp [AutomationRunRow.outcomes, ended]

variable {old : JobRow}

theorem failuresOf_update (row : JobRow) (present : tables.jobs.find row.jobId = some old)
    (jobId : String) :
    failuresOf { tables with jobs := tables.jobs.update row } jobId =
      if row.jobId = jobId then row.consecutiveFailures else failuresOf tables jobId := by
  unfold failuresOf
  simp only [tables.jobs.find_update _ present]
  by_cases same : row.jobId = jobId
  · simp [same]
  · simp [same]

theorem jobsKept_update (row : JobRow) (present : tables.jobs.find row.jobId = some old) :
    JobsKept tables { tables with jobs := tables.jobs.update row } := by
  intro jobId known
  simp only [tables.jobs.find_update _ present]
  by_cases same : row.jobId = jobId
  · simp [same]
  · simpa [same] using known

theorem writeJob_step (row : JobRow) (present : tables.jobs.find row.jobId = some old)
    (same : row.consecutiveFailures = old.consecutiveFailures) :
    AutomationStep tables { tables with jobs := tables.jobs.update row } := by
  refine AutomationStep.writeJob _ _ rfl rfl (jobsKept_update _ present) ?_
  intro jobId
  rw [failuresOf_update _ present]
  by_cases isJob : row.jobId = jobId
  · subst isJob
    simp [failuresOf, present, same]
  · simp [isJob]

theorem insertJob_step {row : JobRow} (unfailed : row.consecutiveFailures = 0)
    (done : insertJob tables row = .ok (after, result)) : AutomationStep tables after := by
  simp only [insertJob, bind_ok_iff, fetch_ok_iff, pure_ok_iff, Prod.mk.injEq] at done
  obtain ⟨jobs, inserted, rfl, -⟩ := done
  have lookup := fun jobId => tables.jobs.find_insert jobs row jobId inserted
  refine AutomationStep.writeJob _ _ rfl rfl ?_ ?_
  · intro jobId known
    simp only [lookup]
    by_cases same : row.jobId = jobId
    · simp [same]
    · simpa [same] using known
  · intro jobId
    simp only [failuresOf, lookup]
    by_cases same : row.jobId = jobId
    · have absent : tables.jobs.find jobId = none := by
        rw [Table.find_none_iff, ← same]
        exact ((tables.jobs.insert_some_iff _ row).mp inserted).1
      simp [same, absent, unfailed]
    · simp [same]

theorem afterOutcome_failures (job : JobRow) (status : AutomationRunStatus)
    (scheduledFor now : Nat) :
    (job.afterOutcome status scheduledFor now).consecutiveFailures =
      failuresAfter status job.consecutiveFailures := by
  cases status <;> rfl

theorem afterOutcome_jobId (job : JobRow) (status : AutomationRunStatus)
    (scheduledFor now : Nat) :
    (job.afterOutcome status scheduledFor now).jobId = job.jobId := by
  cases status <;> rfl

theorem updateJobOutcome_kept (tables : AutomationTables) {jobId : String}
    {status : AutomationRunStatus} {scheduledFor : Nat} :
    JobsKept tables (updateJobOutcome tables jobId status scheduledFor now) := by
  unfold updateJobOutcome
  split
  · exact fun _ known => known
  next job found =>
    have present : tables.jobs.find (job.afterOutcome status scheduledFor now).jobId =
        some job := by
      rw [afterOutcome_jobId]
      exact tables.jobs.find_self found
    exact jobsKept_update _ present

theorem updateJobOutcome_failures (jobId : String) (status : AutomationRunStatus)
    (scheduledFor now : Nat) (other : String) :
    failuresOf (updateJobOutcome tables jobId status scheduledFor now) other =
      if jobId = other ∧ (tables.jobs.find other).isSome then
        failuresAfter status (failuresOf tables other)
      else failuresOf tables other := by
  unfold updateJobOutcome
  split
  next missed =>
    by_cases same : jobId = other
    · subst same
      simp [missed]
    · simp [same]
  next job found =>
    have named : job.jobId = jobId := tables.jobs.key_of_find found
    have present : tables.jobs.find (job.afterOutcome status scheduledFor now).jobId =
        some job := by
      rw [afterOutcome_jobId]
      exact tables.jobs.find_self found
    rw [failuresOf_update _ present, afterOutcome_jobId, afterOutcome_failures, named]
    by_cases same : jobId = other
    · subst same
      simp [found, failuresOf]
    · simp [same]

section Runs

variable {automationRunId leaseOwner : String} {leaseExpiresAt : Nat}
variable {result : Option AutomationRunRow}

theorem path_inserts : InsertRules AutomationPath where
  refl _ := Relation.ReflTransGen.refl
  trans first second := first.trans second
  inserted _ row _ unstarted known free inserted :=
    Relation.ReflTransGen.single (AutomationStep.insertRun _ _ row rfl known
      unstarted.status unstarted.unclaimed free inserted rfl)
  advanced _ _ _ present := Relation.ReflTransGen.single (writeJob_step _ present rfl)

theorem writeRun_move (row : AutomationRunRow) {current : AutomationRunRow}
    (present : tables.runs.find current.automationRunId = some current)
    (sameRun : row.automationRunId = current.automationRunId)
    (sameJob : row.jobId = current.jobId)
    (sameSlot : row.scheduledFor = current.scheduledFor ∧ row.triggerKind = current.triggerKind)
    (wasLive : current.status.terminal = false) (live : row.status.terminal = false)
    (moved : LiveMove current row []) : AutomationStep tables (writeRun tables row) := by
  refine AutomationStep.moveRun _ _ current row [] rfl present sameRun sameJob sameSlot
    wasLive live moved rfl ?_
  simp [writeRun, outcomes_of_live live]

theorem claimRun_path {claimedAt : Nat}
    (done : claimRun tables automationRunId leaseOwner claimedAt leaseExpiresAt =
      .ok (after, result)) : AutomationPath tables after := by
  rcases claimRun_cases done with ⟨rfl, -⟩ | ⟨current, lease, found, pending, made, rfl, -⟩
  · exact Relation.ReflTransGen.refl
  have named : current.automationRunId = automationRunId := tables.runs.key_of_find found
  have owner : lease.owner = leaseOwner := by
    unfold makeLease at made
    split at made
    · simp only [Option.some.injEq] at made
      rw [← made]
    · simp at made
  subst named
  apply Relation.ReflTransGen.single
  refine AutomationStep.moveRun _ _ current (current.claimedUnder lease claimedAt)
    [.claimed current.automationRunId (current.attempt + 1) leaseOwner] rfl found rfl rfl
    ⟨rfl, rfl⟩ (by simp [pending, AutomationRunStatus.terminal]) rfl ?_ ?_ ?_
  · exact LiveMove.claim leaseOwner pending rfl (by simp [AutomationRunRow.claimedUnder, owner])
  · rfl
  · simp [recordClaim, writeRun, AutomationRunRow.outcomes, AutomationRunStatus.terminal,
      AutomationRunRow.claimedUnder]

theorem extended_owner {expiresAt : Nat} {lease : Lease}
    (made : row.extended expiresAt = some lease) :
    ∃ earlier ∈ row.lease, lease.owner = earlier.owner := by
  unfold AutomationRunRow.extended at made
  split at made
  · simp at made
  next earlier held =>
    refine ⟨earlier, by simp [held], ?_⟩
    unfold makeLease at made
    split at made
    · simp only [Option.some.injEq] at made
      rw [← made]
    · simp at made

theorem markRunRunning_path {runningAt : Nat}
    (done : markRunRunning tables automationRunId leaseOwner runningAt leaseExpiresAt =
      .ok (after, result)) : AutomationPath tables after := by
  rcases markRunRunning_cases done with
    ⟨rfl, -⟩ | ⟨current, lease, found, claimed, made, rfl, -⟩
  · exact Relation.ReflTransGen.refl
  · rw [← tables.runs.key_of_find found] at found
    apply Relation.ReflTransGen.single
    apply writeRun_move (current.startedUnder lease runningAt) found rfl rfl
      ⟨rfl, rfl⟩ (by simp [claimed, AutomationRunStatus.terminal]) rfl
    exact LiveMove.keep rfl (by simpa [AutomationRunRow.startedUnder] using extended_owner made)

theorem live_of_held (live : row.status = .claimed ∨ row.status = .running) :
    row.status.terminal = false := by
  rcases live with claimed | running
  · simp [claimed, AutomationRunStatus.terminal]
  · simp [running, AutomationRunStatus.terminal]

theorem renewRunLease_path {renewedAt : Nat}
    (done : renewRunLease tables automationRunId leaseOwner renewedAt leaseExpiresAt =
      .ok (after, result)) : AutomationPath tables after := by
  rcases renewRunLease_cases done with ⟨rfl, -⟩ | ⟨current, lease, found, live, made, rfl⟩
  · exact Relation.ReflTransGen.refl
  · rw [← tables.runs.key_of_find found] at found
    apply Relation.ReflTransGen.single
    apply writeRun_move (current.renewedUnder lease renewedAt) found rfl rfl
      ⟨rfl, rfl⟩ (live_of_held live) (live_of_held live)
    exact LiveMove.keep rfl (by simpa [AutomationRunRow.renewedUnder] using extended_owner made)

theorem bindRunId_path {runId : String} {boundAt : Nat}
    (done : bindRunId tables automationRunId leaseOwner runId boundAt =
      .ok (after, result)) : AutomationPath tables after := by
  rcases bindRunId_cases done with ⟨rfl, -⟩ | ⟨current, found, running, -, rfl⟩
  · exact Relation.ReflTransGen.refl
  · rw [← tables.runs.key_of_find found] at found
    apply Relation.ReflTransGen.single
    apply writeRun_move (current.boundTo runId boundAt) found rfl rfl ⟨rfl, rfl⟩
      (live_of_held (Or.inr running)) (live_of_held (Or.inr running))
    exact LiveMove.keep rfl fun lease held => ⟨lease, held, rfl⟩

theorem heldBy_lease {owner : String} (held : row.heldBy owner now = true) :
    ∃ lease, row.lease = some lease ∧ lease.owner = owner := by
  unfold AutomationRunRow.heldBy at held
  split at held
  · simp at held
  next lease isLease =>
    simp only [decide_eq_true_eq] at held
    exact ⟨lease, isLease, held.1⟩

theorem finishRun_path {input : FinishRunInput}
    (done : finishRun tables input = .ok (after, result)) : AutomationPath tables after := by
  rcases finishRun_cases done with ⟨rfl, -⟩ | ⟨current, found, running, held, rfl, -⟩
  · exact Relation.ReflTransGen.refl
  have named := tables.runs.key_of_find found
  have present := found
  rw [← named] at present
  obtain ⟨lease, isLease, owner⟩ := heldBy_lease held
  apply Relation.ReflTransGen.single
  refine AutomationStep.endRun _ _ current (current.finishedBy input)
    [.finished current.automationRunId current.attempt lease.owner] present rfl rfl
    ⟨rfl, rfl⟩ rfl (live_of_held (Or.inr running))
    (FinishStatus.toStatus_terminal input.status) rfl
    (EndedBy.holder lease isLease) (updateJobOutcome_runs _ _ _ _) ?_ ?_ ?_
  · have ended : (current.finishedBy input).status.terminal = true :=
      FinishStatus.toStatus_terminal input.status
    rw [updateJobOutcome_history, owner, ← named]
    simp [recordFinish, writeRun, outcomes_of_terminal ended]
  · exact updateJobOutcome_kept (recordFinish (writeRun tables (current.finishedBy input))
      input.automationRunId current.attempt input.leaseOwner)
  · intro jobId
    rw [updateJobOutcome_failures]
    rfl

theorem recoverRun_path (linked : String → Option LinkedRun) (recovered : RecoveredRuns)
    {run : AutomationRunRow} (listed : Listed tables now run) :
    AutomationPath tables (recoverRun linked now tables recovered run).1 := by
  have wasLive := live_of_held listed.live
  apply Relation.ReflTransGen.single
  rcases @recoverRun_cases tables linked now run listed recovered with
    ⟨-, reached⟩ | ⟨-, -, reached⟩
  · rw [reached]
    apply writeRun_move (run.requeued now) listed.present rfl rfl ⟨rfl, rfl⟩ wasLive rfl
    exact LiveMove.keep rfl (by simp [AutomationRunRow.requeued])
  rw [reached]
  refine AutomationStep.endRun _ _ run (run.interrupted now) [] listed.present rfl rfl
    ⟨rfl, rfl⟩ rfl wasLive rfl rfl EndedBy.recovery (updateJobOutcome_runs _ _ _ _) ?_
    (updateJobOutcome_kept (writeRun tables (run.interrupted now))) ?_
  · rw [updateJobOutcome_history]
    simp [writeRun, AutomationRunRow.outcomes, AutomationRunRow.interrupted,
      AutomationRunStatus.terminal]
  · intro jobId
    rw [updateJobOutcome_failures]
    rfl

theorem recoverRuns_path {linked : String → Option LinkedRun} {runs : List AutomationRunRow}
    {recovered : RecoveredRuns} (distinct : (runs.map AutomationRunRow.automationRunId).Nodup)
    (listed : ∀ run ∈ runs, Listed tables now run) :
    AutomationPath tables (recoverRuns linked now runs tables recovered).1 := by
  induction runs generalizing tables recovered with
  | nil => exact Relation.ReflTransGen.refl
  | cons run runs ih =>
    apply (recoverRun_path linked recovered (listed run (by simp))).trans
    exact ih (List.nodup_cons.mp distinct).2 (listed_after recovered distinct listed)

theorem recoverExpiredRuns_path (linked : String → Option LinkedRun) (now : Nat) :
    AutomationPath tables (recoverExpiredRuns linked tables now).1 :=
  recoverRuns_path listExpiredRuns_listed.2 fun run runIn => (listExpiredRuns_listed.1 run).mp runIn

end Runs

def Resets (jobId : String) : AutomationOp → Prop
  | .updateJobRuntime input => input.jobId = jobId
  | _ => False

theorem commit_path {Result : Type} {body : Except AutomationFailure (AutomationTables × Result)}
    (walked : ∀ reached result, body = .ok (reached, result) →
      AutomationPath tables reached) : AutomationPath tables (commit tables body) :=
  commit_preserves (AutomationPath tables) tables body Relation.ReflTransGen.refl walked

theorem updateJobConfig_path {input : JobConfigUpdate}
    (done : updateJobConfig tables input = .ok (after, result)) : AutomationPath tables after := by
  simp only [updateJobConfig, bind_ok_iff, fetch_ok_iff, pure_ok_iff, Prod.mk.injEq] at done
  obtain ⟨existing, found, -, -, rfl, -⟩ := done
  apply Relation.ReflTransGen.single
  have present := found
  rw [← tables.jobs.key_of_find found] at present
  exact writeJob_step (existing.withConfig input) present rfl

theorem updateJobRuntime_effect {input : JobRuntimeUpdate}
    (done : updateJobRuntime tables input = .ok (after, result)) :
    after.runs = tables.runs ∧ after.history = tables.history ∧ JobsKept tables after ∧
      ∀ jobId, input.jobId ≠ jobId → failuresOf after jobId = failuresOf tables jobId := by
  simp only [updateJobRuntime, bind_ok_iff, fetch_ok_iff, pure_ok_iff, Prod.mk.injEq] at done
  obtain ⟨existing, found, rfl, -⟩ := done
  have named := tables.jobs.key_of_find found
  have present := found
  rw [← named] at present
  refine ⟨rfl, rfl, jobsKept_update (existing.withRuntime input) present, ?_⟩
  intro jobId different
  rw [failuresOf_update (existing.withRuntime input) present]
  have other : (existing.withRuntime input).jobId ≠ jobId := by
    rw [show (existing.withRuntime input).jobId = input.jobId from named]
    exact different
  rw [if_neg other]

theorem step_path (tables : AutomationTables) (op : AutomationOp)
    (keepsRuntime : ∀ jobId, ¬ Resets jobId op) :
    AutomationPath tables (step tables op) := by
  cases op with
  | createJob jobId name enabled nextScheduledFor now =>
    exact commit_path fun _ _ done =>
      Relation.ReflTransGen.single (insertJob_step rfl done)
  | updateJobConfig input => exact commit_path fun _ _ done => updateJobConfig_path done
  | updateJobRuntime input => exact absurd rfl (keepsRuntime input.jobId)
  | reserveRun automationRunId jobId scheduledFor now =>
    exact commit_path fun _ _ done =>
      (insertRun_walks path_inserts (unstarted_pending _ _ _ _ _ _) done).1
  | reserveManualRun automationRunId jobId requestKey requestedAt =>
    exact commit_path fun _ _ done => (reserveManualRun_walks path_inserts done).1
  | materializeDueJob input =>
    exact commit_path fun _ _ done => materializeDueJob_walks path_inserts done
  | claimRun automationRunId leaseOwner claimedAt leaseExpiresAt =>
    exact commit_path fun _ _ done => claimRun_path done
  | markRunRunning automationRunId leaseOwner runningAt leaseExpiresAt =>
    exact commit_path fun _ _ done => markRunRunning_path done
  | renewRunLease automationRunId leaseOwner renewedAt leaseExpiresAt =>
    exact commit_path fun _ _ done => renewRunLease_path done
  | bindRunId automationRunId leaseOwner runId boundAt =>
    exact commit_path fun _ _ done => bindRunId_path done
  | finishRun input => exact commit_path fun _ _ done => finishRun_path done
  | recoverExpiredRuns linked now => exact recoverExpiredRuns_path linked now

end OpenRill.Automation.LeaseSteps
