import OpenRill.Automation.RunWrites

/-!
# Expired claims after a wake

A wake ends no lease but those it took itself. So an expired claim is left by a wake
exactly when it is one of those that the start did not recover, or that an execution of
the process gave up, and it has run out by the time of the wake.
-/

namespace OpenRill.Automation.ExpiredClaims

open Lib Lib.Checked Lib.Runs Ledger RunWrites Scheduler SchedulerProcess

variable {tables : AutomationTables} {automationRunId leaseOwner : String} {input : FinishRunInput}
variable {state : ProcessState} {stage : Stage}

/-- After a wake at some time no claimed or running run has a lease that ended by then,
unless the process is executing it. -/
def Reclaimed (state : ProcessState) : Prop :=
  ∀ wakeAt, state.stage = .woken wakeAt → ∀ run ∈ state.tables.runs.rows,
    held run = true → run.expired wakeAt = true → state.stage.inHand = some run.automationRunId

def AlwaysReclaimed (options : SchedulerOptions) (ops : List ProcessOp) : Prop :=
  ∀ earlier later, ops = earlier ++ later → Reclaimed (reach options earlier)

/-- Every lease that was running at the start, or was given up since, outlasts the
wake. -/
def LeftOutlast (state : ProcessState) : Prop :=
  ∀ wakeAt, state.stage = .woken wakeAt → ∀ lease ∈ state.left, wakeAt < lease.expiresAt

variable {after : AutomationTables} {row : AutomationRunRow} {leaseExpiresAt : Nat}
variable {result : Option AutomationRunRow}

def SameLeases (before after : AutomationTables) : Prop :=
  ∀ wanted, leaseEnd after wanted = leaseEnd before wanted

def SameOthers (automationRunId : String) (before after : AutomationTables) : Prop :=
  ∀ wanted, automationRunId ≠ wanted → leaseEnd after wanted = leaseEnd before wanted

theorem sameLeases_refl (tables : AutomationTables) : SameLeases tables tables :=
  fun _ => rfl

theorem sameLeases_trans {middle : AutomationTables} (first : SameLeases tables middle)
    (second : SameLeases middle after) : SameLeases tables after :=
  fun wanted => (second wanted).trans (first wanted)

theorem sameLeases_of_runs (same : after.runs = tables.runs) : SameLeases tables after := by
  intro wanted
  unfold leaseEnd
  rw [same]

theorem leaseEnd_found (found : tables.runs.find automationRunId = some row) :
    leaseEnd tables automationRunId = rowEnd row := by
  unfold leaseEnd
  rw [found]
  rfl

theorem rowEnd_of_status (idle : held row = false) : rowEnd row = none := by
  unfold rowEnd
  rw [idle]
  rfl

theorem sameLeases_inserts : InsertRules SameLeases where
  refl := sameLeases_refl
  trans := sameLeases_trans
  inserted := by
    intro tables row runs unstarted _ _ inserted wanted
    unfold leaseEnd
    rw [tables.runs.find_insert runs row wanted inserted]
    by_cases same : row.automationRunId = wanted
    · have absent : tables.runs.find wanted = none := by
        rw [Table.find_none_iff, ← same]
        exact ((tables.runs.insert_some_iff runs row).mp inserted).1
      rw [if_pos same, absent]
      apply rowEnd_of_status
      rcases unstarted.status with pending | skipped
      · simp [held, pending]
      · simp [held, skipped]
    · rw [if_neg same]
  advanced _ _ _ _ := sameLeases_of_runs rfl

theorem sameOthers_writeRun (row : AutomationRunRow) {current : AutomationRunRow}
    (found : tables.runs.find automationRunId = some current)
    (sameRun : row.automationRunId = current.automationRunId) :
    SameOthers automationRunId tables (writeRun tables row) := by
  intro wanted different
  unfold leaseEnd
  rw [find_writeRun row found sameRun, if_neg different]

theorem claimRun_takes {claimedAt : Nat}
    (done : claimRun tables automationRunId leaseOwner claimedAt leaseExpiresAt =
      .ok (after, result)) :
    (result = none ∧ after = tables) ∨
      ∃ claimed, result = some claimed ∧ claimed.automationRunId = automationRunId ∧
        leaseEnd tables automationRunId = none ∧ SameOthers automationRunId tables after := by
  rcases claimRun_cases done with
    ⟨isAfter, isResult⟩ | ⟨current, lease, found, pending, -, rfl, isResult⟩
  · exact Or.inl ⟨isResult, isAfter⟩
  have named : current.automationRunId = automationRunId := tables.runs.key_of_find found
  refine Or.inr ⟨_, isResult, named, ?_, ?_⟩
  · rw [leaseEnd_found found]
    apply rowEnd_of_status
    simp [held, pending]
  · exact sameOthers_writeRun (current.claimedUnder lease claimedAt) found rfl

theorem markRunRunning_others {runningAt : Nat}
    (done : markRunRunning tables automationRunId leaseOwner runningAt leaseExpiresAt =
      .ok (after, result)) : SameOthers automationRunId tables after := by
  rcases markRunRunning_cases done with ⟨rfl, -⟩ | ⟨current, lease, found, -, -, rfl, -⟩
  · exact fun _ _ => rfl
  · exact sameOthers_writeRun (current.startedUnder lease runningAt) found rfl

theorem renewRunLease_others {renewedAt : Nat}
    (done : renewRunLease tables automationRunId leaseOwner renewedAt leaseExpiresAt =
      .ok (after, result)) : SameOthers automationRunId tables after := by
  rcases renewRunLease_cases done with ⟨rfl, -⟩ | ⟨current, lease, found, -, -, rfl⟩
  · exact fun _ _ => rfl
  · exact sameOthers_writeRun (current.renewedUnder lease renewedAt) found rfl

theorem bindRunId_others {runId : String} {boundAt : Nat}
    (done : bindRunId tables automationRunId leaseOwner runId boundAt = .ok (after, result)) :
    SameOthers automationRunId tables after := by
  rcases bindRunId_cases done with ⟨rfl, -⟩ | ⟨current, found, -, -, rfl⟩
  · exact fun _ _ => rfl
  · exact sameOthers_writeRun (current.boundTo runId boundAt) found rfl

theorem finishRun_others (done : finishRun tables input = .ok (after, result)) :
    SameOthers input.automationRunId tables after ∧
      ∀ finished, result = some finished → leaseEnd after input.automationRunId = none := by
  rcases finishRun_cases done with ⟨rfl, rfl⟩ | ⟨current, found, -, -, rfl, -⟩
  · exact ⟨fun _ _ => rfl, nofun⟩
  have same := sameLeases_of_runs (@updateJobOutcome_runs
    (recordFinish (writeRun tables (current.finishedBy input)) input.automationRunId
      current.attempt input.leaseOwner)
    current.jobId (current.finishedBy input).status current.scheduledFor input.terminalAt)
  constructor
  · intro wanted different
    rw [same wanted]
    exact sameOthers_writeRun (current.finishedBy input) found rfl wanted different
  intro _ _
  have written := find_writeRun (current.finishedBy input) found rfl input.automationRunId
  rw [if_pos rfl] at written
  rw [same]
  refine (leaseEnd_found written).trans (rowEnd_of_status ?_)
  cases isStatus : input.status with
  | succeeded => simp [held, AutomationRunRow.finishedBy, isStatus, FinishStatus.toStatus]
  | failed => simp [held, AutomationRunRow.finishedBy, isStatus, FinishStatus.toStatus]
  | cancelled => simp [held, AutomationRunRow.finishedBy, isStatus, FinishStatus.toStatus]

variable (linked : String → Option LinkedRun) {now : Nat}

theorem rowEnd_of_held {run : AutomationRunRow} (live : held run = true) :
    rowEnd run = run.lease.map Lease.expiresAt := by
  unfold rowEnd
  rw [if_pos live]

theorem expired_iff (run : AutomationRunRow) (now : Nat) :
    run.expired now = true ↔ ∃ lease, run.lease = some lease ∧ lease.expiresAt ≤ now := by
  unfold AutomationRunRow.expired
  cases isLease : run.lease with
  | none => simp
  | some lease => simp

theorem held_expired_iff (run : AutomationRunRow) (now : Nat) :
    held run = true ∧ run.expired now = true ↔
      ∃ expiresAt, rowEnd run = some expiresAt ∧ expiresAt ≤ now := by
  rw [expired_iff]
  constructor
  · intro facts
    obtain ⟨live, lease, isLease, ended⟩ := facts
    refine ⟨lease.expiresAt, ?_, ended⟩
    rw [rowEnd_of_held live, isLease]
    rfl
  · intro facts
    obtain ⟨expiresAt, isEnd, ended⟩ := facts
    unfold rowEnd at isEnd
    split at isEnd
    next live =>
      obtain ⟨lease, isLease, sameEnd⟩ := Option.map_eq_some_iff.mp isEnd
      refine ⟨live, lease, isLease, ?_⟩
      omega
    next => cases isEnd

theorem recoveredRow_free (run : AutomationRunRow) (now : Nat) :
    rowEnd (recoveredRow linked now run) = none := by
  unfold recoveredRow
  split
  · rfl
  · rfl

theorem recoverExpiredRuns_leaves (now : Nat) (wanted : String) :
    leaseEnd (recoverExpiredRuns linked tables now).1 wanted =
      (leaseEnd tables wanted).filter (fun expiresAt => decide (now < expiresAt)) := by
  unfold leaseEnd
  rw [recoverExpiredRuns_find]
  cases found : tables.runs.find wanted with
  | none => rfl
  | some run =>
    have same := tables.runs.find_of_mem (tables.runs.mem_of_find found)
    simp only [Option.map_some, Option.bind_some]
    split
    next runIn =>
      have listed := (listExpiredRuns_listed.1 run).mp runIn
      obtain ⟨expiresAt, isEnd, ended⟩ :=
        (held_expired_iff run now).mp ⟨decide_eq_true listed.live, listed.late⟩
      have late : decide (now < expiresAt) = false := decide_eq_false (Nat.not_lt.mpr ended)
      rw [recoveredRow_free, isEnd, Option.filter_some, late]
      rfl
    next unlisted =>
      cases isEnd : rowEnd run with
      | none => rfl
      | some expiresAt =>
        symm
        apply Option.filter_some_pos
        apply decide_eq_true
        by_contra ended
        obtain ⟨live, late⟩ :=
          (held_expired_iff run now).mpr ⟨expiresAt, isEnd, Nat.not_lt.mp ended⟩
        exact unlisted ((listExpiredRuns_listed.1 run).mpr ⟨same, late, of_decide_eq_true live⟩)

theorem mem_stillRunning (lease : LeftLease) :
    lease ∈ stillRunning tables now ↔
      leaseEnd tables lease.automationRunId = some lease.expiresAt ∧ now < lease.expiresAt := by
  unfold stillRunning
  rw [List.mem_filterMap]
  constructor
  · intro facts
    obtain ⟨run, runIn, isLeft⟩ := facts
    unfold leftRow at isLeft
    cases isEnd : rowEnd run with
    | none =>
      rw [isEnd] at isLeft
      cases isLeft
    | some expiresAt =>
      rw [isEnd] at isLeft
      dsimp only at isLeft
      split at isLeft
      next later =>
        have sameLease := Option.some.inj isLeft
        rw [← sameLease, leaseEnd_found (tables.runs.find_of_mem runIn)]
        exact ⟨isEnd, later⟩
      next => cases isLeft
  · intro facts
    obtain ⟨isEnd, later⟩ := facts
    obtain ⟨run, present, isRowEnd⟩ := Option.bind_eq_some_iff.mp isEnd
    refine ⟨run, tables.runs.mem_of_find present, ?_⟩
    unfold leftRow
    rw [isRowEnd, tables.runs.key_of_find present]
    exact if_pos later

/-- Every held lease of a started scheduler is in hand or left, and what is left is
held and not in hand. -/
structure Accounted (state : ProcessState) : Prop where
  listed : state.started = true → ∀ automationRunId expiresAt,
    leaseEnd state.tables automationRunId = some expiresAt →
      state.stage.inHand = some automationRunId ∨
        { automationRunId := automationRunId, expiresAt := expiresAt } ∈ state.left
  standing : ∀ lease ∈ state.left,
    leaseEnd state.tables lease.automationRunId = some lease.expiresAt ∧
      state.stage.inHand ≠ some lease.automationRunId

theorem accounted_empty : Accounted ProcessState.empty where
  listed := by
    intro isStarted
    cases isStarted
  standing := by
    intro lease leaseIn
    cases leaseIn

theorem accounted_boot (ownerId : String) : Accounted (boot state ownerId) where
  listed := by
    intro isStarted
    cases isStarted
  standing := by
    intro lease leaseIn
    cases leaseIn

theorem accounted_of_same {reached : ProcessState} (accounted : Accounted state)
    (same : SameLeases state.tables reached.tables) (started : reached.started = state.started)
    (inHand : reached.stage.inHand = state.stage.inHand) (left : reached.left = state.left) :
    Accounted reached where
  listed := by
    intro isStarted automationRunId expiresAt isEnd
    rw [inHand, left]
    rw [started] at isStarted
    rw [same] at isEnd
    exact accounted.listed isStarted automationRunId expiresAt isEnd
  standing := by
    intro lease leaseIn
    rw [left] at leaseIn
    rw [inHand, same]
    exact accounted.standing lease leaseIn

theorem accounted_in_hand (accounted : Accounted state)
    (inHand : state.stage.inHand = some automationRunId)
    (others : SameOthers automationRunId state.tables tables) :
    Accounted (state.withTables tables) where
  listed := by
    intro isStarted wanted expiresAt isEnd
    by_cases own : automationRunId = wanted
    · rw [← own]
      exact Or.inl inHand
    · have unchanged := others wanted own
      rw [ProcessState.withTables_tables, unchanged] at isEnd
      exact accounted.listed isStarted wanted expiresAt isEnd
  standing := by
    intro lease leaseIn
    obtain ⟨isEnd, notInHand⟩ := accounted.standing lease leaseIn
    have different : automationRunId ≠ lease.automationRunId := by
      intro same
      apply notInHand
      rw [← same]
      exact inHand
    rw [ProcessState.withTables_tables, others _ different]
    exact ⟨isEnd, notInHand⟩

theorem accounted_taken (accounted : Accounted state) (free : state.stage.inHand = none)
    (taken : stage.inHand = some automationRunId)
    (unheld : leaseEnd state.tables automationRunId = none)
    (others : SameOthers automationRunId state.tables tables) :
    Accounted { state.withTables tables with stage := stage } where
  listed := by
    intro isStarted wanted expiresAt isEnd
    by_cases own : automationRunId = wanted
    · rw [← own]
      exact Or.inl taken
    have unchanged := others wanted own
    have isEndBefore : leaseEnd state.tables wanted = some expiresAt := unchanged.symm.trans isEnd
    rcases accounted.listed isStarted wanted expiresAt isEndBefore with inHand | leftThere
    · rw [free] at inHand
      cases inHand
    · exact Or.inr leftThere
  standing := by
    intro lease leaseIn
    obtain ⟨isEnd, -⟩ := accounted.standing lease leaseIn
    have different : automationRunId ≠ lease.automationRunId := by
      intro same
      rw [← same, unheld] at isEnd
      cases isEnd
    refine ⟨(others _ different).trans isEnd, ?_⟩
    intro inHand
    apply different
    exact Option.some.inj (taken.symm.trans inHand)

theorem accounted_released (accounted : Accounted state)
    (inHand : state.stage.inHand = some automationRunId) (free : stage.inHand = none)
    (released : leaseEnd tables automationRunId = none)
    (others : SameOthers automationRunId state.tables tables) :
    Accounted { state.withTables tables with stage := stage } where
  listed := by
    intro isStarted wanted expiresAt isEnd
    by_cases own : automationRunId = wanted
    · have isEndThere : leaseEnd tables wanted = some expiresAt := isEnd
      rw [← own, released] at isEndThere
      cases isEndThere
    have isEndBefore : leaseEnd state.tables wanted = some expiresAt :=
      (others wanted own).symm.trans isEnd
    rcases accounted.listed isStarted wanted expiresAt isEndBefore with isInHand | leftThere
    · rw [inHand] at isInHand
      exact absurd (Option.some.inj isInHand) own
    · exact Or.inr leftThere
  standing := by
    intro lease leaseIn
    obtain ⟨isEnd, notInHand⟩ := accounted.standing lease leaseIn
    have different : automationRunId ≠ lease.automationRunId := by
      intro same
      apply notInHand
      rw [← same]
      exact inHand
    refine ⟨(others _ different).trans isEnd, ?_⟩
    rw [free]
    intro nothing
    cases nothing

theorem thrown_free (stage : Stage) : stage.thrown.inHand = none := by
  cases stage <;> rfl

theorem mem_dropped (state : ProcessState) (lease : LeftLease) :
    lease ∈ dropped state ↔
      state.stage.inHand = some lease.automationRunId ∧
        leaseEnd state.tables lease.automationRunId = some lease.expiresAt := by
  unfold dropped
  cases inHand : state.stage.inHand with
  | none => simp
  | some automationRunId =>
    cases isEnd : leaseEnd state.tables automationRunId with
    | none =>
      simp only [isEnd, List.not_mem_nil, false_iff, not_and, Option.some.injEq]
      intro same
      rw [← same, isEnd]
      simp
    | some expiresAt =>
      simp only [isEnd, List.mem_singleton, Option.some.injEq]
      constructor
      · intro isLease
        rw [isLease]
        exact ⟨rfl, isEnd⟩
      · intro facts
        obtain ⟨same, isEndThere⟩ := facts
        cases lease
        simp_all

theorem accounted_thrown (accounted : Accounted state) : Accounted (thrown state) where
  listed := by
    intro isStarted wanted expiresAt isEnd
    apply Or.inr
    apply List.mem_append.mpr
    rcases accounted.listed isStarted wanted expiresAt isEnd with inHand | leftThere
    · apply Or.inr
      exact (mem_dropped state _).mpr ⟨inHand, isEnd⟩
    · exact Or.inl leftThere
  standing := by
    intro lease leaseIn
    have free : state.stage.thrown.inHand ≠ some lease.automationRunId := by
      rw [thrown_free]
      intro nothing
      cases nothing
    rcases List.mem_append.mp leaseIn with leftThere | droppedThere
    · exact ⟨(accounted.standing lease leftThere).1, free⟩
    · exact ⟨((mem_dropped state lease).mp droppedThere).2, free⟩

variable {options : SchedulerOptions}

theorem wake_tables (scheduler : SchedulerState) (ownerId : String) (startup : Bool)
    (now dueJobLimit : Nat) :
    (Scheduler.wake scheduler ownerId startup now dueJobLimit).tables = scheduler.tables := by
  unfold Scheduler.wake
  split
  next => rfl
  next => rfl

theorem start_accounted (now : Nat) (linked : String → Option LinkedRun)
    (accounted : Accounted state) : Accounted (start options state now linked) := by
  unfold start
  split
  next => exact accounted
  next =>
    have leaves : ∀ wanted, leaseEnd (recoverExpiredRuns linked state.tables now).1 wanted =
        (leaseEnd state.tables wanted).filter (fun expiresAt => decide (now < expiresAt)) :=
      recoverExpiredRuns_leaves linked now
    constructor
    · intro _ wanted expiresAt isEnd
      apply Or.inr
      have isEndThere : leaseEnd (recoverExpiredRuns linked state.tables now).1 wanted =
          some expiresAt := by
        rw [← isEnd]
        unfold ProcessState.tables
        rw [wake_tables]
      rw [leaves, Option.filter_eq_some_iff] at isEndThere
      exact (mem_stillRunning _).mpr ⟨isEndThere.1, of_decide_eq_true isEndThere.2⟩
    · intro lease leaseIn
      obtain ⟨isEnd, later⟩ := (mem_stillRunning lease).mp leaseIn
      constructor
      · unfold ProcessState.tables
        rw [wake_tables]
        refine (leaves _).trans ?_
        rw [isEnd]
        exact Option.filter_some_pos (decide_eq_true later)
      · intro nothing
        cases nothing

theorem wake_accounted (now : Nat) (accounted : Accounted state) :
    Accounted (SchedulerProcess.wake options state now) := by
  unfold SchedulerProcess.wake
  split
  next ready =>
    have free : state.stage.inHand = none := by
      have resting := ready.2.2
      cases isStage : state.stage with
      | claimed _ _ _ =>
        rw [isStage] at resting
        cases resting
      | executing _ _ _ _ _ =>
        rw [isStage] at resting
        cases resting
      | _ => rfl
    apply accounted_of_same accounted
    · apply sameLeases_of_runs
      unfold ProcessState.tables
      rw [wake_tables]
    · rfl
    · exact free.symm
    · rfl
  next => exact accounted

theorem listing_free (listing : stage.listing = true) :
    stage.inHand = none ∧ stage.materialized.inHand = none := by
  cases stage with
  | claimed _ _ _ => cases listing
  | executing _ _ _ _ _ => cases listing
  | _ => exact ⟨rfl, rfl⟩

theorem materializeDue_accounted (createId : Nat → String) (accounted : Accounted state) :
    Accounted (materializeDue options state createId) := by
  unfold materializeDue
  split
  next => exact accounted
  next isListing =>
    obtain ⟨free, freeAfter⟩ := listing_free (Bool.eq_true_of_not_eq_false isListing)
    have same := materialize_walks sameLeases_inserts options.zonedParts state.scheduler
      state.ownerId createId
    split
    next =>
      exact accounted_of_same accounted (sameLeases_refl _) rfl (freeAfter.trans free.symm) rfl
    next =>
      dsimp only
      split
      next => exact accounted_of_same accounted same rfl rfl rfl
      next =>
        exact accounted_of_same accounted same rfl ((thrown_free state.stage).trans free.symm) rfl

theorem claim_accounted (claimedAt : Nat) (accounted : Accounted state) :
    Accounted (claim options state claimedAt) := by
  unfold claim
  split
  next wakeAt claimedRuns isStage =>
    have free : state.stage.inHand = none := by
      rw [isStage]
      rfl
    have ended : Accounted { state with stage := .woken wakeAt } :=
      accounted_of_same accounted (sameLeases_refl _) rfl free.symm rfl
    split
    next => exact ended
    next =>
      split
      next => exact ended
      next candidate _ =>
        split
        next => exact ended
        next tables done =>
          rcases claimRun_takes done with ⟨-, isTables⟩ | ⟨claimed, isClaimed, -⟩
          · rw [isTables]
            exact accounted_of_same accounted (sameLeases_refl _) rfl free.symm rfl
          · cases isClaimed
        next tables claimed done =>
          rcases claimRun_takes done with ⟨nothing, -⟩ | ⟨row, isRow, named, unheld, others⟩
          · cases nothing
          · rw [Option.some.inj isRow]
            exact accounted_taken accounted free (congrArg some named) unheld others
  next => exact accounted

theorem markRunning_accounted (runningAt : Nat) (accounted : Accounted state) :
    Accounted (markRunning options state runningAt) := by
  unfold markRunning
  split
  next wakeAt claimedRuns automationRunId isStage =>
    have inHand : state.stage.inHand = some automationRunId := by
      rw [isStage]
      rfl
    split
    next => exact accounted_thrown accounted
    next tables done =>
      exact accounted_thrown (accounted_in_hand accounted inHand (markRunRunning_others done))
    next tables running done =>
      have marked := accounted_in_hand accounted inHand (markRunRunning_others done)
      split
      next => exact accounted_of_same marked (sameLeases_refl _) rfl inHand.symm rfl
      next => exact accounted_thrown marked
  next => exact accounted

theorem renew_accounted (renewedAt : Nat) (accounted : Accounted state) :
    Accounted (renew options state renewedAt) := by
  unfold renew
  split
  next wakeAt claimedRuns automationRunId isStage =>
    have inHand : state.stage.inHand = some automationRunId := by
      rw [isStage]
      rfl
    split
    next => exact accounted_of_same accounted (sameLeases_refl _) rfl inHand.symm rfl
    next tables done =>
      have renewed := accounted_in_hand accounted inHand (renewRunLease_others done)
      exact accounted_of_same renewed (sameLeases_refl _) rfl inHand.symm rfl
    next tables _ done => exact accounted_in_hand accounted inHand (renewRunLease_others done)
  next => exact accounted

theorem bindExecution_accounted (runId : String) (boundAt : Nat) (accounted : Accounted state) :
    Accounted (bindExecution state runId boundAt) := by
  unfold bindExecution
  split
  next wakeAt claimedRuns automationRunId _ _ isStage =>
    have inHand : state.stage.inHand = some automationRunId := by
      rw [isStage]
      rfl
    apply accounted_in_hand accounted inHand
    apply commit_preserves
    · exact fun _ _ => rfl
    · intro reached result done
      exact bindRunId_others done
  next => exact accounted

theorem finishInput_names {terminalAt : Nat} {result : ExecutionResult}
    (made : finishInput automationRunId leaseOwner terminalAt result = some input) :
    input.automationRunId = automationRunId := by
  unfold finishInput at made
  split at made
  next =>
    rw [← Option.some.inj made]
  next =>
    split at made
    next => rw [← Option.some.inj made]
    next => cases made

theorem finish_accounted (result : ExecutionResult) (terminalAt : Nat)
    (accounted : Accounted state) : Accounted (finish state result terminalAt) := by
  unfold finish
  split
  next wakeAt claimedRuns automationRunId _ _ isStage =>
    have inHand : state.stage.inHand = some automationRunId := by
      rw [isStage]
      rfl
    split
    next => exact accounted_thrown accounted
    next =>
      split
      next => exact accounted_thrown accounted
      next input made =>
        have named := finishInput_names made
        split
        next => exact accounted_thrown accounted
        next tables done =>
          obtain ⟨others, -⟩ := finishRun_others done
          rw [named] at others
          exact accounted_thrown (accounted_in_hand accounted inHand others)
        next tables finished done =>
          obtain ⟨others, facts⟩ := finishRun_others done
          have released := facts finished rfl
          rw [named] at others released
          exact accounted_released accounted inHand rfl released others
  next => exact accounted

theorem step_accounted (options : SchedulerOptions) (state : ProcessState) (op : ProcessOp)
    (accounted : Accounted state) : Accounted (step options state op) := by
  cases op with
  | boot ownerId => exact accounted_boot ownerId
  | start now linked => exact start_accounted now linked accounted
  | wake now => exact wake_accounted now accounted
  | materialize createId => exact materializeDue_accounted createId accounted
  | claim claimedAt => exact claim_accounted claimedAt accounted
  | markRunning runningAt => exact markRunning_accounted runningAt accounted
  | renew renewedAt => exact renew_accounted renewedAt accounted
  | bindRunId runId boundAt => exact bindExecution_accounted runId boundAt accounted
  | finish result terminalAt => exact finish_accounted result terminalAt accounted
  | throw => exact accounted_thrown accounted
  | close => exact accounted_of_same accounted (sameLeases_refl _) rfl rfl rfl
  | define call =>
    exact accounted_of_same accounted
      (define_walks sameLeases_inserts sameLeases_of_runs _ _ call) rfl rfl rfl

def Steady (state : ProcessState) : Prop := state.started = true ∨ state.stage = .idle

theorem step_steady (options : SchedulerOptions) (state : ProcessState) (op : ProcessOp)
    (steady : Steady state) : Steady (step options state op) := by
  unfold Steady at *
  cases op with
  | boot ownerId => exact Or.inr rfl
  | start now linked =>
    simp only [SchedulerProcess.step, start]
    split
    next => exact steady
    next => exact Or.inl rfl
  | wake now =>
    simp only [SchedulerProcess.step, SchedulerProcess.wake]
    split
    next ready => exact Or.inl ready.1
    next => exact steady
  | materialize createId =>
    simp only [SchedulerProcess.step, materializeDue]
    grind [Stage.listing]
  | claim claimedAt =>
    simp only [SchedulerProcess.step, claim]
    grind [ProcessState.withTables]
  | markRunning runningAt =>
    simp only [SchedulerProcess.step, markRunning]
    grind [ProcessState.withTables, thrown]
  | renew renewedAt =>
    simp only [SchedulerProcess.step, renew]
    grind [ProcessState.withTables]
  | bindRunId runId boundAt =>
    simp only [SchedulerProcess.step, bindExecution]
    grind [ProcessState.withTables]
  | finish result terminalAt =>
    simp only [SchedulerProcess.step, finish]
    grind [ProcessState.withTables, thrown]
  | throw =>
    rcases steady with isStarted | isIdle
    · exact Or.inl isStarted
    · apply Or.inr
      simp only [SchedulerProcess.step, thrown, isIdle]
      rfl
  | close => exact steady
  | define call => exact steady

theorem reach_steady (options : SchedulerOptions) (ops : List ProcessOp) :
    Steady (reach options ops) :=
  run_invariant (step options) Steady (step_steady options) ProcessState.empty ops (Or.inr rfl)

theorem reach_accounted (options : SchedulerOptions) (ops : List ProcessOp) :
    Accounted (reach options ops) :=
  run_invariant (step options) Accounted (step_accounted options) ProcessState.empty ops
    accounted_empty

theorem reclaimed_iff (steady : Steady state) (accounted : Accounted state) :
    Reclaimed state ↔ LeftOutlast state := by
  constructor
  · intro reclaimed wakeAt isWoken lease leaseIn
    obtain ⟨isEnd, -⟩ := accounted.standing lease leaseIn
    by_contra ended
    obtain ⟨run, present, isRowEnd⟩ := Option.bind_eq_some_iff.mp isEnd
    obtain ⟨live, late⟩ :=
      (held_expired_iff run wakeAt).mpr ⟨lease.expiresAt, isRowEnd, Nat.not_lt.mp ended⟩
    have inHand := reclaimed wakeAt isWoken run (state.tables.runs.mem_of_find present) live late
    rw [isWoken] at inHand
    cases inHand
  · intro outlast wakeAt isWoken run runIn live late
    obtain ⟨expiresAt, isRowEnd, ended⟩ := (held_expired_iff run wakeAt).mp ⟨live, late⟩
    have isStarted : state.started = true := by
      rcases steady with isStarted | isIdle
      · exact isStarted
      · rw [isIdle] at isWoken
        cases isWoken
    have isEnd := leaseEnd_found (state.tables.runs.find_of_mem runIn)
    rcases accounted.listed isStarted run.automationRunId expiresAt (isEnd.trans isRowEnd) with
      inHand | leftThere
    · exact inHand
    · have later := outlast wakeAt isWoken _ leftThere
      dsimp only at later
      omega

/-- Every wake reclaims what has expired exactly when no wake of a process comes after
the end of a lease that its start found running or that it gave up itself. -/
theorem expired_claims_reclaimed_iff (options : SchedulerOptions) (ops : List ProcessOp) :
    AlwaysReclaimed options ops ↔
      ∀ earlier later, ops = earlier ++ later → LeftOutlast (reach options earlier) := by
  constructor
  · intro reclaimed earlier later split
    exact (reclaimed_iff (reach_steady options earlier) (reach_accounted options earlier)).mp
      (reclaimed earlier later split)
  · intro outlast earlier later split
    exact (reclaimed_iff (reach_steady options earlier) (reach_accounted options earlier)).mpr
      (outlast earlier later split)

def defaultOptions : SchedulerOptions where
  zonedParts := fun _ _ => none
  leaseDurationMs := 30000
  dueJobLimit := 100
  runLimit := 100
  leaseBounds := by decide
  jobBounds := by decide
  runBounds := by decide

def onceJob : Schedule.JobDefinition where
  schedule := .at 100000
  timezone := "UTC"
  catchUpPolicy := .skip

def crashedOps : List ProcessOp :=
  [ .boot "p1",
    .start 0 (fun _ => none),
    .materialize (fun _ => ""),
    .define (.create "j1" "once" false onceJob 0),
    .define (.reserveManualRun "x1" "j1" "k1" 10),
    .wake 20,
    .materialize (fun _ => ""),
    .claim 20,
    .markRunning 20,
    .boot "p2",
    .start 30 (fun _ => none),
    .materialize (fun _ => ""),
    .wake 40000,
    .materialize (fun _ => ""),
    .claim 40000 ]

/-- The run of the process that ended is still running after the later wake. -/
theorem crashed_run_left : ¬ AlwaysReclaimed defaultOptions crashedOps := by
  have isWoken : (reach defaultOptions crashedOps).stage = .woken 40000 := by
    decide +kernel
  have isLeft : (leaseEnd (reach defaultOptions crashedOps).tables "x1") = some 30020 := by
    decide +kernel
  intro reclaimed
  obtain ⟨run, present, isRowEnd⟩ := Option.bind_eq_some_iff.mp isLeft
  obtain ⟨live, late⟩ := (held_expired_iff run 40000).mpr ⟨30020, isRowEnd, by decide⟩
  have inHand := reclaimed crashedOps [] (List.append_nil crashedOps).symm 40000 isWoken run
    (Table.mem_of_find _ present) live late
  cases inHand

end OpenRill.Automation.ExpiredClaims
