import OpenRill.Automation.LeaseSteps
import OpenRill.Lib.Runs

/-!
# The automation lease protocol

Over every interleaving of schedulers, executors, operators and recoveries: a
claim is finished at most once and only by its owner, a terminal run is never
written again, every terminal run reported one outcome, and the failure count of
a job that no operator reset is the number of failures since its last success.
-/

namespace OpenRill.Automation.LeaseProtocol

open Lib Lib.Runs Lib.Checked Ledger LeaseSteps

variable {before after : AutomationTables} {row current : AutomationRunRow}

def claimOwner (automationRunId : String) (attempt : Nat) : LeaseEvent → Option String
  | .claimed claimedId claimedAttempt owner =>
    if claimedId = automationRunId ∧ claimedAttempt = attempt then some owner else none
  | _ => none

def claimOwners (history : List LeaseEvent) (automationRunId : String) (attempt : Nat) :
    List String :=
  history.filterMap (claimOwner automationRunId attempt)

def finishOf (automationRunId : String) : LeaseEvent → Option (Nat × String)
  | .finished finishedId attempt owner =>
    if finishedId = automationRunId then some (attempt, owner) else none
  | _ => none

def finishes (history : List LeaseEvent) (automationRunId : String) :
    List (Nat × String) :=
  history.filterMap (finishOf automationRunId)

def runOutcome (automationRunId : String) :
    LeaseEvent → Option (String × AutomationRunStatus)
  | .outcome jobId endedId status =>
    if endedId = automationRunId then some (jobId, status) else none
  | _ => none

def runOutcomes (history : List LeaseEvent) (automationRunId : String) :
    List (String × AutomationRunStatus) :=
  history.filterMap (runOutcome automationRunId)

def jobOutcome (jobId : String) : LeaseEvent → Option AutomationRunStatus
  | .outcome endedJob _ status => if endedJob = jobId then some status else none
  | _ => none

def jobOutcomes (history : List LeaseEvent) (jobId : String) :
    List AutomationRunStatus :=
  history.filterMap (jobOutcome jobId)

/-- Failures after the last success. -/
def failuresSinceSuccess (statuses : List AutomationRunStatus) : Nat :=
  (statuses.reverse.takeWhile (fun status => decide (status ≠ .succeeded))).countP
    (fun status => decide (status = .failed))

theorem failuresSinceSuccess_append (statuses : List AutomationRunStatus)
    (status : AutomationRunStatus) :
    failuresSinceSuccess (statuses ++ [status]) =
      failuresAfter status (failuresSinceSuccess statuses) := by
  unfold failuresSinceSuccess
  cases status <;> simp [failuresAfter]

def expectedOutcomes : Option AutomationRunRow → List (String × AutomationRunStatus)
  | some row => if row.status.terminal then [(row.jobId, row.status)] else []
  | none => []

structure LeaseCorrect (tables : AutomationTables) : Prop where
  jobKnown : ∀ row ∈ tables.runs.rows, (tables.jobs.find row.jobId).isSome
  outcomesExact : ∀ automationRunId,
    runOutcomes tables.history automationRunId = expectedOutcomes (tables.runs.find automationRunId)
  leaseHeld : ∀ row ∈ tables.runs.rows, ∀ lease, row.lease = some lease →
    lease.owner ∈ claimOwners tables.history row.automationRunId row.attempt
  claimsBound : ∀ automationRunId attempt owner,
    owner ∈ claimOwners tables.history automationRunId attempt →
      ∃ row, tables.runs.find automationRunId = some row ∧ attempt ≤ row.attempt
  claimsOnce : ∀ automationRunId attempt,
    (claimOwners tables.history automationRunId attempt).length ≤ 1
  finishesOnce : ∀ automationRunId,
    finishes tables.history automationRunId = [] ∨
      ∃ attempt owner row,
        finishes tables.history automationRunId = [(attempt, owner)] ∧
        owner ∈ claimOwners tables.history automationRunId attempt ∧
        tables.runs.find automationRunId = some row ∧ row.status.terminal = true

theorem leaseCorrect_empty : LeaseCorrect AutomationTables.empty where
  jobKnown := by simp [AutomationTables.empty, Table.empty]
  outcomesExact := by
    intro automationRunId
    rfl
  leaseHeld := by simp [AutomationTables.empty, Table.empty]
  claimsBound := by simp [AutomationTables.empty, claimOwners]
  claimsOnce := by simp [AutomationTables.empty, claimOwners]
  finishesOnce := by
    intro automationRunId
    left
    rfl

variable {extra : List LeaseEvent}

theorem correct_of_sameRuns (correct : LeaseCorrect before)
    (runs : after.runs = before.runs) (history : after.history = before.history)
    (kept : JobsKept before after) : LeaseCorrect after where
  jobKnown := by
    intro row rowIn
    rw [runs] at rowIn
    exact kept row.jobId (correct.jobKnown row rowIn)
  outcomesExact := by
    rw [runs, history]
    exact correct.outcomesExact
  leaseHeld := by
    rw [runs, history]
    exact correct.leaseHeld
  claimsBound := by
    rw [runs, history]
    exact correct.claimsBound
  claimsOnce := by
    rw [history]
    exact correct.claimsOnce
  finishesOnce := by
    rw [runs, history]
    exact correct.finishesOnce

theorem claimOwners_outcomes (row : AutomationRunRow) (automationRunId : String)
    (attempt : Nat) :
    row.outcomes.filterMap (claimOwner automationRunId attempt) = [] := by
  unfold AutomationRunRow.outcomes
  by_cases ended : row.status.terminal = true
  · simp [ended, claimOwner]
  · simp [ended]

theorem finishes_outcomes (row : AutomationRunRow) (automationRunId : String) :
    row.outcomes.filterMap (finishOf automationRunId) = [] := by
  unfold AutomationRunRow.outcomes
  by_cases ended : row.status.terminal = true
  · simp [ended, finishOf]
  · simp [ended]

theorem correct_insertRun (correct : LeaseCorrect before) (jobs : after.jobs = before.jobs)
    (known : (before.jobs.find row.jobId).isSome) (unclaimed : row.lease = none)
    (inserted : before.runs.insert row = some after.runs)
    (history : after.history = before.history ++ row.outcomes) : LeaseCorrect after := by
  obtain ⟨fresh, rowsEq⟩ := (before.runs.insert_some_iff _ row).mp inserted
  have lookup := fun wanted => before.runs.find_insert after.runs row wanted inserted
  have absent : before.runs.find row.automationRunId = none := by
    rw [Table.find_none_iff]
    exact fresh
  have sameClaims : ∀ automationRunId attempt,
      claimOwners after.history automationRunId attempt =
        claimOwners before.history automationRunId attempt := by
    intro automationRunId attempt
    unfold claimOwners
    rw [history, List.filterMap_append, claimOwners_outcomes, List.append_nil]
  have sameFinishes : ∀ automationRunId,
      finishes after.history automationRunId = finishes before.history automationRunId := by
    intro automationRunId
    unfold finishes
    rw [history, List.filterMap_append, finishes_outcomes, List.append_nil]
  constructor
  · intro other otherIn
    rw [jobs]
    rw [rowsEq] at otherIn
    rcases List.mem_append.mp otherIn with earlier | isNew
    · exact correct.jobKnown other earlier
    · have isRow : other = row := by simpa using isNew
      rw [isRow]
      exact known
  · intro automationRunId
    have earlier := correct.outcomesExact automationRunId
    unfold runOutcomes at earlier ⊢
    rw [history, List.filterMap_append, earlier, lookup]
    by_cases same : row.automationRunId = automationRunId
    · subst same
      rw [absent, if_pos rfl]
      by_cases ended : row.status.terminal = true
      · simp [expectedOutcomes, AutomationRunRow.outcomes, ended, runOutcome]
      · simp [expectedOutcomes, AutomationRunRow.outcomes, ended]
    · rw [if_neg same]
      unfold AutomationRunRow.outcomes
      by_cases ended : row.status.terminal = true
      · simp [ended, runOutcome, same]
      · simp [ended]
  · intro other otherIn lease held
    rw [sameClaims]
    rw [rowsEq] at otherIn
    rcases List.mem_append.mp otherIn with earlier | isNew
    · exact correct.leaseHeld other earlier lease held
    · have isRow : other = row := by simpa using isNew
      rw [isRow, unclaimed] at held
      simp at held
  · intro automationRunId attempt owner claimed
    rw [sameClaims] at claimed
    obtain ⟨current, found, bound⟩ := correct.claimsBound automationRunId attempt owner claimed
    refine ⟨current, ?_, bound⟩
    rw [lookup, if_neg, found]
    intro same
    rw [← same, absent] at found
    simp at found
  · intro automationRunId attempt
    rw [sameClaims]
    exact correct.claimsOnce automationRunId attempt
  · intro automationRunId
    rw [sameFinishes]
    rcases correct.finishesOnce automationRunId with none | ⟨attempt, owner, current, only,
      claimed, found, ended⟩
    · exact Or.inl none
    right
    refine ⟨attempt, owner, current, only, ?_, ?_, ended⟩
    · rw [sameClaims]
      exact claimed
    · rw [lookup, if_neg, found]
      intro same
      rw [← same, absent] at found
      simp at found

private theorem jobKnown_update (correct : LeaseCorrect before)
    (present : before.runs.find row.automationRunId = some current)
    (sameJob : row.jobId = current.jobId) (kept : JobsKept before after)
    (runs : after.runs = before.runs.update row) :
    ∀ other ∈ after.runs.rows, (after.jobs.find other.jobId).isSome := by
  intro other otherIn
  apply kept
  rw [runs, before.runs.mem_update_iff _ present] at otherIn
  rcases otherIn with isRow | ⟨earlier, -⟩
  · rw [isRow, sameJob]
    exact correct.jobKnown current (before.runs.mem_of_find present)
  · exact correct.jobKnown other earlier

private theorem bound_update (present : before.runs.find row.automationRunId = some current)
    (risen : current.attempt ≤ row.attempt) (runs : after.runs = before.runs.update row)
    (automationRunId : String) (attempt : Nat)
    (bound : ∃ found, before.runs.find automationRunId = some found ∧ attempt ≤ found.attempt) :
    ∃ found, after.runs.find automationRunId = some found ∧ attempt ≤ found.attempt := by
  obtain ⟨found, isFound, bounded⟩ := bound
  rw [runs, before.runs.find_update _ present]
  by_cases same : row.automationRunId = automationRunId
  · rw [if_pos same]
    rw [← same, present, Option.some.injEq] at isFound
    subst isFound
    exact ⟨row, rfl, bounded.trans risen⟩
  · rw [if_neg same]
    exact ⟨found, isFound, bounded⟩

theorem correct_moveRun (correct : LeaseCorrect before) (jobs : after.jobs = before.jobs)
    (presentCurrent : before.runs.find current.automationRunId = some current)
    (sameRun : row.automationRunId = current.automationRunId) (sameJob : row.jobId = current.jobId)
    (wasLive : current.status.terminal = false) (live : row.status.terminal = false)
    (moved : LiveMove current row extra) (runs : after.runs = before.runs.update row)
    (history : after.history = before.history ++ extra) : LeaseCorrect after := by
  have present : before.runs.find row.automationRunId = some current := by
    rw [sameRun]
    exact presentCurrent
  have kept : JobsKept before after := by
    intro jobId known
    rw [jobs]
    exact known
  have sameFinishes : ∀ automationRunId,
      finishes after.history automationRunId = finishes before.history automationRunId := by
    intro automationRunId
    unfold finishes
    rw [history, List.filterMap_append]
    cases moved <;> simp [finishOf]
  have unfinished : finishes before.history current.automationRunId = [] := by
    rcases correct.finishesOnce current.automationRunId with none | ⟨-, -, other, -, -,
      found, ended⟩
    · exact none
    · rw [presentCurrent, Option.some.injEq] at found
      rw [← found, wasLive] at ended
      simp at ended
  have risen : current.attempt ≤ row.attempt := by
    cases moved with
    | claim owner unclaimed raised held => omega
    | keep same held => omega
  -- the only new claim is at an attempt that no earlier claim reaches
  have unclaimedNext : ∀ owner, owner ∉ claimOwners before.history current.automationRunId
      (current.attempt + 1) := by
    intro owner claimed
    obtain ⟨found, isFound, bound⟩ :=
      correct.claimsBound current.automationRunId (current.attempt + 1) owner claimed
    rw [presentCurrent, Option.some.injEq] at isFound
    rw [← isFound] at bound
    omega
  constructor
  · exact jobKnown_update correct present sameJob kept runs
  · intro automationRunId
    have sameOutcomes : runOutcomes after.history automationRunId =
        runOutcomes before.history automationRunId := by
      unfold runOutcomes
      rw [history, List.filterMap_append]
      cases moved <;> simp [runOutcome]
    rw [sameOutcomes, correct.outcomesExact, runs, before.runs.find_update _ present]
    by_cases same : row.automationRunId = automationRunId
    · rw [if_pos same, ← same, present]
      simp [expectedOutcomes, wasLive, live]
    · rw [if_neg same]
  · intro other otherIn lease held
    rw [runs, before.runs.mem_update_iff _ present] at otherIn
    unfold claimOwners
    rw [history, List.filterMap_append]
    apply List.mem_append.mpr
    rcases otherIn with isRow | ⟨earlier, -⟩
    · subst isRow
      cases moved with
      | claim owner unclaimed raised held_by =>
        right
        have isOwner : lease.owner = owner := held_by lease held
        simp [claimOwner, sameRun, isOwner]
      | keep same held_by =>
        left
        obtain ⟨source, sourceHeld, sameOwner⟩ := held_by lease held
        rw [sameRun, same, sameOwner]
        exact correct.leaseHeld current (before.runs.mem_of_find present) source sourceHeld
    · left
      exact correct.leaseHeld other earlier lease held
  · intro automationRunId attempt owner claimed
    unfold claimOwners at claimed
    rw [history, List.filterMap_append] at claimed
    rcases List.mem_append.mp claimed with earlier | isNew
    · exact bound_update present risen runs automationRunId attempt
        (correct.claimsBound automationRunId attempt owner earlier)
    · cases moved with
      | claim claimant unclaimed raised held =>
        simp only [List.filterMap_cons, claimOwner, List.filterMap_nil] at isNew
        by_cases named : current.automationRunId = automationRunId ∧ row.attempt = attempt
        · refine ⟨row, ?_, by omega⟩
          rw [runs, before.runs.find_update _ present, if_pos (sameRun.trans named.1)]
        · simp [named] at isNew
      | keep same held => simp at isNew
  · intro automationRunId attempt
    have earlier := correct.claimsOnce automationRunId attempt
    unfold claimOwners at earlier ⊢
    rw [history, List.filterMap_append]
    cases moved with
    | claim claimant unclaimed raised held =>
      by_cases named : current.automationRunId = automationRunId ∧ row.attempt = attempt
      · have noneYet : before.history.filterMap (claimOwner automationRunId attempt) = [] := by
          apply List.eq_nil_iff_forall_not_mem.mpr
          intro owner claimed
          apply unclaimedNext owner
          rw [named.1, ← raised, named.2]
          exact claimed
        rw [noneYet]
        simp [claimOwner, named]
      · simpa [claimOwner, named] using earlier
    | keep same held => simpa using earlier
  · intro automationRunId
    rw [sameFinishes]
    rcases correct.finishesOnce automationRunId with none | ⟨attempt, owner, ended_row, only,
      claimed, found, ended⟩
    · exact Or.inl none
    right
    refine ⟨attempt, owner, ended_row, only, ?_, ?_, ended⟩
    · unfold claimOwners
      rw [history, List.filterMap_append]
      exact List.mem_append_left _ claimed
    · rw [runs, before.runs.find_update _ present, if_neg]
      · exact found
      · intro same
        rw [← same, sameRun, unfinished] at only
        simp at only

theorem correct_endRun (correct : LeaseCorrect before)
    (presentCurrent : before.runs.find current.automationRunId = some current)
    (sameRun : row.automationRunId = current.automationRunId) (sameJob : row.jobId = current.jobId)
    (sameAttempt : row.attempt = current.attempt) (wasLive : current.status.terminal = false)
    (ended : row.status.terminal = true) (released : row.lease = none)
    (by_whom : EndedBy current extra) (runs : after.runs = before.runs.update row)
    (history : after.history =
      before.history ++ [.outcome row.jobId row.automationRunId row.status] ++ extra)
    (kept : JobsKept before after) : LeaseCorrect after := by
  have present : before.runs.find row.automationRunId = some current := by
    rw [sameRun]
    exact presentCurrent
  have sameClaims : ∀ automationRunId attempt,
      claimOwners after.history automationRunId attempt =
        claimOwners before.history automationRunId attempt := by
    intro automationRunId attempt
    unfold claimOwners
    rw [history, List.filterMap_append, List.filterMap_append]
    cases by_whom <;> simp [claimOwner]
  have unfinished : finishes before.history current.automationRunId = [] := by
    rcases correct.finishesOnce current.automationRunId with none | ⟨-, -, other, -, -,
      found, otherEnded⟩
    · exact none
    · rw [presentCurrent, Option.some.injEq] at found
      rw [← found, wasLive] at otherEnded
      simp at otherEnded
  constructor
  · exact jobKnown_update correct present sameJob kept runs
  · intro automationRunId
    have earlier := correct.outcomesExact automationRunId
    unfold runOutcomes at earlier ⊢
    rw [history, List.filterMap_append, List.filterMap_append, earlier, runs,
      before.runs.find_update _ present]
    have noExtra : extra.filterMap (runOutcome automationRunId) = [] := by
      cases by_whom <;> simp [runOutcome]
    rw [noExtra, List.append_nil]
    by_cases same : row.automationRunId = automationRunId
    · rw [if_pos same, ← same, present]
      simp [expectedOutcomes, wasLive, ended, runOutcome]
    · simp [same, runOutcome]
  · intro other otherIn lease held
    rw [sameClaims]
    rw [runs, before.runs.mem_update_iff _ present] at otherIn
    rcases otherIn with isRow | ⟨earlier, -⟩
    · rw [isRow, released] at held
      simp at held
    · exact correct.leaseHeld other earlier lease held
  · intro automationRunId attempt owner claimed
    rw [sameClaims] at claimed
    exact bound_update present (by omega) runs automationRunId attempt
      (correct.claimsBound automationRunId attempt owner claimed)
  · intro automationRunId attempt
    rw [sameClaims]
    exact correct.claimsOnce automationRunId attempt
  · intro automationRunId
    have finishesNow : finishes after.history automationRunId =
        finishes before.history automationRunId ++ extra.filterMap (finishOf automationRunId) := by
      unfold finishes
      rw [history, List.filterMap_append, List.filterMap_append]
      simp [finishOf]
    rw [finishesNow, runs, before.runs.find_update _ present]
    by_cases same : row.automationRunId = automationRunId
    · rw [if_pos same, ← same, sameRun, unfinished]
      cases by_whom with
      | holder lease held =>
        right
        refine ⟨current.attempt, lease.owner, row, by simp [finishOf], ?_, rfl, ended⟩
        rw [sameClaims]
        exact correct.leaseHeld current (before.runs.mem_of_find present) lease held
      | recovery =>
        left
        rfl
    · have differs : current.automationRunId ≠ automationRunId := by
        rw [← sameRun]
        exact same
      have noExtra : extra.filterMap (finishOf automationRunId) = [] := by
        cases by_whom <;> simp [finishOf, differs]
      rw [if_neg same, noExtra, List.append_nil]
      rcases correct.finishesOnce automationRunId with none | ⟨attempt, owner, other, only,
        claimed, found, otherEnded⟩
      · exact Or.inl none
      · right
        refine ⟨attempt, owner, other, only, ?_, found, otherEnded⟩
        rw [sameClaims]
        exact claimed

theorem automationStep_correct (change : AutomationStep before after)
    (correct : LeaseCorrect before) : LeaseCorrect after := by
  cases change with
  | writeJob runs history kept failures =>
    exact correct_of_sameRuns correct runs history kept
  | insertRun row jobs known unstarted unclaimed free inserted history =>
    exact correct_insertRun correct jobs known unclaimed inserted history
  | moveRun current row extra jobs present sameRun sameJob sameSlot wasLive live moved runs
      history =>
      exact correct_moveRun correct jobs present sameRun sameJob wasLive live moved runs history
  | endRun current row extra present sameRun sameJob sameSlot sameAttempt wasLive ended
      released by_whom runs history kept failures =>
      exact correct_endRun correct present sameRun sameJob sameAttempt wasLive ended released
        by_whom runs history kept

theorem automationPath_correct (path : AutomationPath before after)
    (correct : LeaseCorrect before) :
    LeaseCorrect after := by
  induction path with
  | refl => exact correct
  | tail _ change ih => exact automationStep_correct change ih

theorem step_correct (tables : AutomationTables) (op : AutomationOp)
    (correct : LeaseCorrect tables) : LeaseCorrect (step tables op) := by
  by_cases keepsRuntime : ∀ jobId, ¬ Resets jobId op
  · exact automationPath_correct (step_path tables op keepsRuntime) correct
  · cases op with
    | updateJobRuntime input =>
      apply commit_preserves LeaseCorrect tables _ correct
      intro reached result done
      obtain ⟨runs, history, kept, -⟩ := updateJobRuntime_effect done
      exact correct_of_sameRuns correct runs history kept
    | _ => exact absurd (fun _ resets => resets) keepsRuntime

theorem run_correct (ops : List AutomationOp) :
    LeaseCorrect (run step AutomationTables.empty ops) :=
  run_invariant step LeaseCorrect step_correct AutomationTables.empty ops leaseCorrect_empty

def TerminalKept (before after : AutomationTables) : Prop :=
  ∀ row, before.runs.find row.automationRunId = some row → row.status.terminal = true →
    after.runs.find row.automationRunId = some row

theorem terminalKept_refl (tables : AutomationTables) : TerminalKept tables tables :=
  fun _ present _ => present

theorem terminalKept_trans (first second third : AutomationTables)
    (earlier : TerminalKept first second) (later : TerminalKept second third) :
    TerminalKept first third :=
  fun row present ended => later row (earlier row present ended) ended

private theorem kept_of_update
    (presentCurrent : before.runs.find current.automationRunId = some current)
    (sameRun : row.automationRunId = current.automationRunId)
    (wasLive : current.status.terminal = false) (runs : after.runs = before.runs.update row) :
    TerminalKept before after := by
  intro kept present ended
  have presentRow : before.runs.find row.automationRunId = some current := by
    rw [sameRun]
    exact presentCurrent
  rw [runs, before.runs.find_update _ presentRow, if_neg]
  · exact present
  · intro same
    rw [← same, presentRow, Option.some.injEq] at present
    rw [← present, wasLive] at ended
    simp at ended

theorem automationStep_kept (change : AutomationStep before after) : TerminalKept before after := by
  cases change with
  | writeJob runs history kept failures =>
    intro row present ended
    rw [runs]
    exact present
  | insertRun row jobs known unstarted unclaimed free inserted history =>
    intro other present ended
    exact before.runs.kept_insert after.runs row inserted present
  | moveRun current row extra jobs present sameRun sameJob sameSlot wasLive live moved runs
      history =>
      exact kept_of_update present sameRun wasLive runs
  | endRun current row extra present sameRun sameJob sameSlot sameAttempt wasLive ended
      released by_whom runs history kept failures =>
      exact kept_of_update present sameRun wasLive runs

private theorem path_kept (path : AutomationPath before after) : TerminalKept before after := by
  induction path with
  | refl => exact terminalKept_refl before
  | tail _ change ih => exact terminalKept_trans _ _ _ ih (automationStep_kept change)

theorem step_kept (tables : AutomationTables) (op : AutomationOp) :
    TerminalKept tables (step tables op) := by
  by_cases keepsRuntime : ∀ jobId, ¬ Resets jobId op
  · exact path_kept (step_path tables op keepsRuntime)
  · cases op with
    | updateJobRuntime input =>
      apply commit_preserves (TerminalKept tables) tables _ (terminalKept_refl tables)
      intro reached result done row present ended
      rw [(updateJobRuntime_effect done).1]
      exact present
    | _ => exact absurd (fun _ resets => resets) keepsRuntime

theorem run_kept {tables : AutomationTables} (ops : List AutomationOp) :
    TerminalKept tables (run step tables ops) :=
  run_relates step (fun _ => True) TerminalKept terminalKept_refl terminalKept_trans
    (fun _ _ _ => trivial) (fun reached op _ => step_kept reached op) tables ops trivial

def FailuresCounted (jobId : String) (tables : AutomationTables) : Prop :=
  failuresOf tables jobId = failuresSinceSuccess (jobOutcomes tables.history jobId)

private theorem jobOutcomes_append (history extra : List LeaseEvent) (jobId : String) :
    jobOutcomes (history ++ extra) jobId =
      jobOutcomes history jobId ++ jobOutcomes extra jobId := by
  exact List.filterMap_append

theorem automationStep_counted (jobId : String) (change : AutomationStep before after)
    (correct : LeaseCorrect before) (counted : FailuresCounted jobId before) :
    FailuresCounted jobId after := by
  unfold FailuresCounted at counted ⊢
  cases change with
  | writeJob runs history kept failures => rw [failures, history, counted]
  | insertRun row jobs known unstarted unclaimed free inserted history =>
    have sameFailures : failuresOf after jobId = failuresOf before jobId := by
      simp [failuresOf, jobs]
    rw [sameFailures, counted, history, jobOutcomes_append]
    rcases unstarted with pending | skipped
    · simp [AutomationRunRow.outcomes, pending, AutomationRunStatus.terminal, jobOutcomes]
    by_cases same : row.jobId = jobId
    · have noted : jobOutcomes row.outcomes jobId = [.skipped] := by
        simp [AutomationRunRow.outcomes, skipped, AutomationRunStatus.terminal,
          jobOutcomes, jobOutcome, same]
      rw [noted, failuresSinceSuccess_append]
      rfl
    · simp [AutomationRunRow.outcomes, skipped, AutomationRunStatus.terminal,
        jobOutcomes, jobOutcome, same]
  | moveRun current row extra jobs present sameRun sameJob sameSlot wasLive live moved runs
      history =>
      have sameFailures : failuresOf after jobId = failuresOf before jobId := by
        simp [failuresOf, jobs]
      have noExtra : jobOutcomes extra jobId = [] := by
        cases moved <;> simp [jobOutcomes, jobOutcome]
      rw [sameFailures, counted, history, jobOutcomes_append, noExtra, List.append_nil]
  | endRun current row extra present sameRun sameJob sameSlot sameAttempt wasLive ended
      released by_whom runs history kept failures =>
      have noExtra : jobOutcomes extra jobId = [] := by
        cases by_whom <;> simp [jobOutcomes, jobOutcome]
      rw [failures, history, jobOutcomes_append, jobOutcomes_append, noExtra, List.append_nil]
      by_cases same : row.jobId = jobId
      · have known : (before.jobs.find jobId).isSome := by
          rw [← same, sameJob]
          exact correct.jobKnown current (before.runs.mem_of_find present)
        have noted : jobOutcomes [.outcome row.jobId row.automationRunId row.status] jobId =
            [row.status] := by
          simp [jobOutcomes, jobOutcome, same]
        rw [if_pos ⟨same, known⟩, noted, failuresSinceSuccess_append, counted]
      · have unnoted : jobOutcomes [.outcome row.jobId row.automationRunId row.status] jobId =
            [] := by
          simp [jobOutcomes, jobOutcome, same]
        rw [if_neg (by simp [same]), unnoted, List.append_nil, counted]

private theorem path_counted (jobId : String) (path : AutomationPath before after)
    (correct : LeaseCorrect before) (counted : FailuresCounted jobId before) :
    FailuresCounted jobId after := by
  induction path with
  | refl => exact counted
  | tail earlier change ih =>
    exact automationStep_counted jobId change (automationPath_correct earlier correct) ih

theorem step_counted (jobId : String) (tables : AutomationTables) (op : AutomationOp)
    (kept : ¬ Resets jobId op) (correct : LeaseCorrect tables)
    (counted : FailuresCounted jobId tables) : FailuresCounted jobId (step tables op) := by
  by_cases keepsRuntime : ∀ other, ¬ Resets other op
  · exact path_counted jobId (step_path tables op keepsRuntime) correct counted
  · cases op with
    | updateJobRuntime input =>
      apply commit_preserves (FailuresCounted jobId) tables _ counted
      intro reached result done
      obtain ⟨-, history, -, failures⟩ := updateJobRuntime_effect done
      unfold FailuresCounted
      rw [history, failures jobId kept]
      exact counted
    | _ => exact absurd (fun _ resets => resets) keepsRuntime

theorem run_counted (jobId : String) (ops : List AutomationOp)
    (kept : ∀ op ∈ ops, ¬ Resets jobId op) (tables : AutomationTables)
    (correct : LeaseCorrect tables) (counted : FailuresCounted jobId tables) :
    FailuresCounted jobId (run step tables ops) := by
  induction ops generalizing tables with
  | nil => exact counted
  | cons op ops ih =>
    exact ih (fun other otherIn => kept other (by simp [otherIn])) (step tables op)
      (step_correct tables op correct)
      (step_counted jobId tables op (kept op (by simp)) correct counted)

/-- The lease protocol over every interleaving. A run is finished at most once,
by the only owner that claimed it at that attempt; a terminal row is final; a
run has reported exactly its terminal status, once it has one; and the counter
of a job that no operator reset counts its failures since the last success. -/
theorem automation_lease_protocol (ops : List AutomationOp) :
    (∀ automationRunId,
      (finishes (run step AutomationTables.empty ops).history automationRunId).length ≤ 1 ∧
      ∀ attempt owner,
        (attempt, owner) ∈ finishes (run step AutomationTables.empty ops).history automationRunId →
        claimOwners (run step AutomationTables.empty ops).history automationRunId attempt =
          [owner]) ∧
    (∀ row ∈ (run step AutomationTables.empty ops).runs.rows,
      row.status.terminal = true → ∀ later,
        (run step AutomationTables.empty (ops ++ later)).runs.find row.automationRunId = some row) ∧
    (∀ row ∈ (run step AutomationTables.empty ops).runs.rows,
      runOutcomes (run step AutomationTables.empty ops).history row.automationRunId =
        if row.status.terminal then [(row.jobId, row.status)] else []) ∧
    (∀ job ∈ (run step AutomationTables.empty ops).jobs.rows,
      (∀ op ∈ ops, ¬ Resets job.jobId op) →
      job.consecutiveFailures =
        failuresSinceSuccess
          (jobOutcomes (run step AutomationTables.empty ops).history job.jobId)) := by
  have correct := run_correct ops
  refine ⟨?_, ?_, ?_, ?_⟩
  · intro automationRunId
    rcases correct.finishesOnce automationRunId with none | ⟨attempt, owner, row, only,
      claimed, -, -⟩
    · simp [none]
    refine ⟨by simp [only], ?_⟩
    intro finishedAttempt finisher isFinish
    rw [only, List.mem_singleton, Prod.mk.injEq] at isFinish
    obtain ⟨rfl, rfl⟩ := isFinish
    have once := correct.claimsOnce automationRunId finishedAttempt
    match owners : claimOwners (run step AutomationTables.empty ops).history
        automationRunId finishedAttempt with
    | [] => simp [owners] at claimed
    | [claimant] =>
      rw [owners, List.mem_singleton] at claimed
      rw [claimed]
    | first :: second :: rest =>
      rw [owners] at once
      simp at once
  · intro row rowIn ended later
    rw [run_append]
    exact run_kept later row (Table.find_of_mem _ rowIn) ended
  · intro row rowIn
    rw [correct.outcomesExact, Table.find_of_mem _ rowIn]
    rfl
  · intro job jobIn kept
    have counted := run_counted job.jobId ops kept AutomationTables.empty leaseCorrect_empty rfl
    have counter : failuresOf (run step AutomationTables.empty ops) job.jobId =
        job.consecutiveFailures := by
      simp [failuresOf, Table.find_of_mem _ jobIn]
    rw [← counter]
    exact counted

end OpenRill.Automation.LeaseProtocol
