import OpenRill.Automation.NextOccurrence
import OpenRill.Automation.RunWrites
import OpenRill.Lib.Runs

/-!
# The last occurrence of a job

A run that ends moves `lastScheduledFor` forward only. The materialization of a due job
stores the instant that its plan names, whatever is stored already; of the plans, only that
of a start which skips names one, its first overdue occurrence.
-/

namespace OpenRill.Automation.LastOccurrence

open Lib.Runs Lib.Checked Ledger Schedule Scheduler NextOccurrence RunWrites

variable {tables after : AutomationTables} {job : JobRow} {jobId : String}

def lastOf (tables : AutomationTables) (jobId : String) : Option Nat :=
  (tables.jobs.find jobId).bind JobRow.lastScheduledFor

def NoEarlier (before after : Option Nat) : Prop :=
  ∀ last, before = some last → ∃ now, after = some now ∧ last ≤ now

def LastKept (before after : AutomationTables) : Prop :=
  ∀ jobId, NoEarlier (lastOf before jobId) (lastOf after jobId)

theorem lastKept_of_jobs (jobs : after.jobs = tables.jobs) : LastKept tables after := by
  intro jobId last isLast
  unfold lastOf
  rw [jobs]
  exact ⟨last, isLast, Nat.le_refl last⟩

theorem lastKept_trans {middle : AutomationTables} (first : LastKept tables middle)
    (second : LastKept middle after) : LastKept tables after := by
  intro jobId last isLast
  obtain ⟨between, isBetween, early⟩ := first jobId last isLast
  obtain ⟨now, isNow, late⟩ := second jobId between isBetween
  exact ⟨now, isNow, Nat.le_trans early late⟩

theorem lastKept_update (row : JobRow) (found : tables.jobs.find jobId = some job)
    (sameJob : row.jobId = job.jobId) (kept : NoEarlier job.lastScheduledFor row.lastScheduledFor)
    (jobs : after.jobs = tables.jobs.update row) : LastKept tables after := by
  have isJob : row.jobId = jobId := sameJob.trans (tables.jobs.key_of_find found)
  rw [← isJob] at found
  intro wanted last isLast
  unfold lastOf at isLast ⊢
  rw [jobs, tables.jobs.find_update row found]
  split
  next own =>
    rw [← own, found] at isLast
    exact kept last isLast
  next => exact ⟨last, isLast, Nat.le_refl last⟩

theorem noEarlier_latest (last : Option Nat) (scheduledFor : Nat) :
    NoEarlier last (latestOccurrence last scheduledFor) := by
  rintro stored rfl
  unfold latestOccurrence
  dsimp only
  split
  next later => exact ⟨scheduledFor, rfl, Nat.le_of_lt later⟩
  next => exact ⟨stored, rfl, Nat.le_refl stored⟩

theorem updateJobOutcome_kept (jobId : String) (status : AutomationRunStatus)
    (scheduledFor now : Nat) :
    LastKept tables (updateJobOutcome tables jobId status scheduledFor now) := by
  unfold updateJobOutcome
  split
  next => exact lastKept_of_jobs rfl
  next job found =>
    refine lastKept_update _ found ?_ ?_ rfl
    · cases status <;> rfl
    · cases status
      case succeeded => exact noEarlier_latest _ _
      case failed => exact noEarlier_latest _ _
      all_goals exact fun last isLast => ⟨last, isLast, Nat.le_refl last⟩

def Rewinds (tables : AutomationTables) : AutomationOp → Prop
  | .materializeDueJob input => ∃ current last planned,
      tables.jobs.find input.jobId = some current ∧ current.enabled = true ∧
        current.nextScheduledFor = some input.expectedNextScheduledFor ∧
        current.lastScheduledFor = some last ∧ input.lastScheduledFor = some planned ∧
        planned < last
  | .updateJobRuntime _ => True
  | _ => False

theorem anyInserts : InsertRules (fun _ _ => True) where
  refl _ := trivial
  trans _ _ := trivial
  inserted _ _ _ _ _ _ _ := trivial
  advanced _ _ _ _ := trivial

theorem materializeDueJob_kept {input : MaterializeInput}
    {result : Option (List AutomationRunRow)}
    (forward : ¬ Rewinds tables (.materializeDueJob input))
    (done : materializeDueJob tables input = .ok (after, result)) : LastKept tables after := by
  unfold materializeDueJob at done
  split at done
  · cases done
    exact lastKept_of_jobs rfl
  next current found =>
    split at done
    next due =>
      simp only [bind_ok_iff, pure_ok_iff, Prod.mk.injEq] at done
      obtain ⟨stored, insertDone, rfl, -⟩ := done
      have sameJobs := (insertRuns_walks anyInserts _ (unstarted_occurrences _ _ _) insertDone).2
      refine lastKept_update (current.advancedBy input) found rfl ?_
        (congrArg (·.update (current.advancedBy input)) sameJobs)
      intro last isLast
      cases planned : input.lastScheduledFor with
      | none =>
        refine ⟨last, ?_, Nat.le_refl last⟩
        simp [JobRow.advancedBy, planned, isLast]
      | some instant =>
        refine ⟨instant, by simp [JobRow.advancedBy, planned], ?_⟩
        by_contra earlier
        exact forward ⟨current, last, instant, found, due.1, due.2, isLast, planned, by omega⟩
    next =>
      cases done
      exact lastKept_of_jobs rfl

theorem commit_kept {Result : Type} {body : Except AutomationFailure (AutomationTables × Result)}
    (kept : ∀ reached result, body = .ok (reached, result) → LastKept tables reached) :
    LastKept tables (commit tables body) :=
  commit_preserves (LastKept tables) tables body (lastKept_of_jobs rfl) kept

theorem recoverRuns_kept (linked : String → Option LinkedRun) (now : Nat)
    (runs : List AutomationRunRow) (recovered : RecoveredRuns)
    (distinct : (runs.map AutomationRunRow.automationRunId).Nodup)
    (listed : ∀ run ∈ runs, Listed tables now run) :
    LastKept tables (recoverRuns linked now runs tables recovered).1 := by
  induction runs generalizing tables recovered with
  | nil => exact lastKept_of_jobs rfl
  | cons run runs ih =>
    have own := listed run List.mem_cons_self
    have rest := @listed_after tables linked now run runs recovered distinct listed
    rw [List.map_cons, List.nodup_cons] at distinct
    refine lastKept_trans ?_ (ih _ distinct.2 rest)
    rcases @recoverRun_cases tables linked now run own recovered with
      ⟨-, reached⟩ | ⟨-, -, reached⟩
    · rw [reached]
      exact lastKept_of_jobs rfl
    · rw [reached]
      refine lastKept_trans ?_ (updateJobOutcome_kept _ _ _ _)
      exact lastKept_of_jobs rfl

theorem step_kept (tables : AutomationTables) (op : AutomationOp) (forward : ¬ Rewinds tables op) :
    LastKept tables (step tables op) := by
  cases op with
  | createJob jobId name enabled nextScheduledFor now =>
    apply commit_kept
    intro reached row done
    simp only [insertJob, bind_ok_iff, fetch_ok_iff, pure_ok_iff, Prod.mk.injEq] at done
    obtain ⟨inserted, isInserted, rfl, -⟩ := done
    intro wanted last isLast
    unfold lastOf at isLast ⊢
    obtain ⟨job, found, isJob⟩ := Option.bind_eq_some_iff.mp isLast
    rw [tables.jobs.kept_insert inserted _ isInserted found]
    exact ⟨last, isJob, Nat.le_refl last⟩
  | updateJobConfig input =>
    apply commit_kept
    intro reached row done
    simp only [updateJobConfig, bind_ok_iff, fetch_ok_iff, pure_ok_iff, Prod.mk.injEq] at done
    obtain ⟨existing, found, -, -, rfl, -⟩ := done
    exact lastKept_update (existing.withConfig input) found rfl
      (fun last isLast => ⟨last, isLast, Nat.le_refl last⟩) rfl
  | updateJobRuntime input => exact (forward trivial).elim
  | reserveRun automationRunId jobId scheduledFor now =>
    exact commit_kept fun _ _ done =>
      lastKept_of_jobs (insertRun_walks anyInserts (unstarted_pending _ _ _ _ _ _) done).2
  | reserveManualRun automationRunId jobId requestKey requestedAt =>
    exact commit_kept fun _ _ done =>
      lastKept_of_jobs (reserveManualRun_walks anyInserts done).2
  | materializeDueJob input =>
    exact commit_kept fun _ _ done => materializeDueJob_kept forward done
  | claimRun automationRunId leaseOwner claimedAt leaseExpiresAt =>
    apply commit_kept
    intro reached row done
    rcases claimRun_cases done with ⟨rfl, -⟩ | ⟨_, _, -, -, -, rfl, -⟩ <;>
      exact lastKept_of_jobs rfl
  | markRunRunning automationRunId leaseOwner runningAt leaseExpiresAt =>
    apply commit_kept
    intro reached row done
    rcases markRunRunning_cases done with ⟨rfl, -⟩ | ⟨_, _, -, -, -, rfl, -⟩ <;>
      exact lastKept_of_jobs rfl
  | renewRunLease automationRunId leaseOwner renewedAt leaseExpiresAt =>
    apply commit_kept
    intro reached row done
    rcases renewRunLease_cases done with ⟨rfl, -⟩ | ⟨_, _, -, -, -, rfl⟩ <;>
      exact lastKept_of_jobs rfl
  | bindRunId automationRunId leaseOwner runId boundAt =>
    apply commit_kept
    intro reached row done
    rcases bindRunId_cases done with ⟨rfl, -⟩ | ⟨_, -, -, -, rfl⟩ <;>
      exact lastKept_of_jobs rfl
  | finishRun input =>
    apply commit_kept
    intro reached row done
    rcases finishRun_cases done with ⟨rfl, -⟩ | ⟨_, -, -, -, rfl, -⟩
    · exact lastKept_of_jobs rfl
    · refine lastKept_trans ?_ (updateJobOutcome_kept _ _ _ _)
      exact lastKept_of_jobs rfl
  | recoverExpiredRuns linked now =>
    exact recoverRuns_kept linked now _ _ listExpiredRuns_listed.2
      fun run runIn => (listExpiredRuns_listed.1 run).mp runIn

def everySecond : JobDefinition where
  schedule := .interval 1000 0
  timezone := "UTC"
  catchUpPolicy := .skip

def manualOps : List AutomationOp :=
  [ .createJob "j1" "job" true (some 1000) 0,
    .reserveManualRun "a1" "j1" "key" 2000,
    .claimRun "a1" "s1" 2000 9000,
    .markRunRunning "a1" "s1" 2001 9000,
    .finishRun
      { automationRunId := "a1"
        leaseOwner := "s1"
        status := .succeeded
        runId := none
        errorCode := none
        terminalAt := 2500 } ]

def startCall (job : JobRow) (plan : WakePlan) : AutomationOp :=
  .materializeDueJob
    (planInput
      { startup := true, now := 3000, due := [] }
      job plan (fun _ => "a2"))

end OpenRill.Automation.LastOccurrence
