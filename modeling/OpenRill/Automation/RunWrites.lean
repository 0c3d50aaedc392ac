import OpenRill.Automation.SchedulerProcess

/-!
# What the operations of the automation tables write

Each operation on a run either leaves the tables or writes one row that the guard let
pass. An operation that inserts runs is a walk of single inserts, so a relation that
holds over each of them holds over the whole operation.
-/

namespace OpenRill.Automation.RunWrites

open Lib Lib.Checked Ledger Scheduler SchedulerProcess

variable {tables after : AutomationTables} {automationRunId leaseOwner : String}
variable {result : Option AutomationRunRow} {leaseExpiresAt : Nat}

theorem find_writeRun (row : AutomationRunRow) {current : AutomationRunRow}
    (found : tables.runs.find automationRunId = some current)
    (sameRun : row.automationRunId = current.automationRunId) (wanted : String) :
    (writeRun tables row).runs.find wanted =
      if automationRunId = wanted then some row else tables.runs.find wanted := by
  have named : row.automationRunId = automationRunId :=
    sameRun.trans (tables.runs.key_of_find found)
  rw [← named] at found ⊢
  exact tables.runs.find_update row found wanted

@[simp] theorem updateJobOutcome_runs (jobId : String) (status : AutomationRunStatus)
    (scheduledFor now : Nat) :
    (updateJobOutcome tables jobId status scheduledFor now).runs = tables.runs := by
  unfold updateJobOutcome
  split <;> rfl

@[simp] theorem updateJobOutcome_history (jobId : String) (status : AutomationRunStatus)
    (scheduledFor now : Nat) :
    (updateJobOutcome tables jobId status scheduledFor now).history = tables.history := by
  unfold updateJobOutcome
  split <;> rfl

theorem guarded_cases (guard : AutomationRunRow → Prop) [DecidablePred guard]
    {write : AutomationRunRow → Except AutomationFailure
      (AutomationTables × Option AutomationRunRow)}
    (done : (match tables.runs.find automationRunId with
      | none => Except.ok (tables, none)
      | some current => if guard current then write current else Except.ok (tables, none)) =
        Except.ok (after, result)) :
    (after = tables ∧ result = none) ∨
      ∃ current, tables.runs.find automationRunId = some current ∧ guard current ∧
        write current = .ok (after, result) := by
  split at done
  · simp only [Except.ok.injEq, Prod.mk.injEq] at done
    exact Or.inl ⟨done.1.symm, done.2.symm⟩
  next current found =>
    split at done
    next allowed => exact Or.inr ⟨current, found, allowed, done⟩
    next =>
      simp only [Except.ok.injEq, Prod.mk.injEq] at done
      exact Or.inl ⟨done.1.symm, done.2.symm⟩

theorem claimRun_cases {claimedAt : Nat}
    (done : claimRun tables automationRunId leaseOwner claimedAt leaseExpiresAt =
      .ok (after, result)) :
    (after = tables ∧ result = none) ∨
      ∃ current lease, tables.runs.find automationRunId = some current ∧
        current.status = .pending ∧
        makeLease claimedAt leaseOwner leaseExpiresAt = some lease ∧
        after = recordClaim (writeRun tables (current.claimedUnder lease claimedAt))
          automationRunId (current.attempt + 1) leaseOwner ∧
        result = some (current.claimedUnder lease claimedAt) := by
  rcases guarded_cases (fun current => current.status = .pending) done with
    same | ⟨current, found, pending, written⟩
  · exact Or.inl same
  · simp only [bind_ok_iff, fetch_ok_iff, pure_ok_iff, Prod.mk.injEq] at written
    obtain ⟨lease, made, isAfter, isResult⟩ := written
    exact Or.inr ⟨current, lease, found, pending, made, isAfter.symm, isResult.symm⟩

theorem markRunRunning_cases {runningAt : Nat}
    (done : markRunRunning tables automationRunId leaseOwner runningAt leaseExpiresAt =
      .ok (after, result)) :
    (after = tables ∧ result = none) ∨
      ∃ current lease, tables.runs.find automationRunId = some current ∧
        current.status = .claimed ∧ current.extended leaseExpiresAt = some lease ∧
        after = writeRun tables (current.startedUnder lease runningAt) ∧
        result = some (current.startedUnder lease runningAt) := by
  rcases guarded_cases (fun current => current.status = .claimed ∧
      current.heldBy leaseOwner runningAt = true) done with
    same | ⟨current, found, ready, written⟩
  · exact Or.inl same
  · simp only [bind_ok_iff, fetch_ok_iff, pure_ok_iff, Prod.mk.injEq] at written
    obtain ⟨lease, made, isAfter, isResult⟩ := written
    exact Or.inr ⟨current, lease, found, ready.1, made, isAfter.symm, isResult.symm⟩

theorem renewRunLease_cases {renewedAt : Nat}
    (done : renewRunLease tables automationRunId leaseOwner renewedAt leaseExpiresAt =
      .ok (after, result)) :
    (after = tables ∧ result = none) ∨
      ∃ current lease, tables.runs.find automationRunId = some current ∧
        (current.status = .claimed ∨ current.status = .running) ∧
        current.extended leaseExpiresAt = some lease ∧
        after = writeRun tables (current.renewedUnder lease renewedAt) := by
  rcases guarded_cases (fun current =>
      (current.status = .claimed ∨ current.status = .running) ∧
        current.heldBy leaseOwner renewedAt = true) done with
    same | ⟨current, found, ready, written⟩
  · exact Or.inl same
  · simp only [bind_ok_iff, fetch_ok_iff, pure_ok_iff, Prod.mk.injEq] at written
    obtain ⟨lease, made, isAfter, -⟩ := written
    exact Or.inr ⟨current, lease, found, ready.1, made, isAfter.symm⟩

theorem bindRunId_cases {runId : String} {boundAt : Nat}
    (done : bindRunId tables automationRunId leaseOwner runId boundAt = .ok (after, result)) :
    (after = tables ∧ (result.isSome = true → ∃ current,
        tables.runs.find automationRunId = some current ∧ current.runId = some runId)) ∨
      ∃ current, tables.runs.find automationRunId = some current ∧
        current.status = .running ∧ current.runId = none ∧
        after = writeRun tables (current.boundTo runId boundAt) := by
  unfold bindRunId at done
  split at done
  · simp only [Except.ok.injEq, Prod.mk.injEq] at done
    rw [← done.2]
    exact Or.inl ⟨done.1.symm, nofun⟩
  next current found =>
    split at done
    next bound =>
      simp only [Except.ok.injEq, Prod.mk.injEq] at done
      exact Or.inl ⟨done.1.symm, fun _ => ⟨current, found, bound⟩⟩
    next =>
      split at done
      next holder =>
        simp only [Except.ok.injEq, Prod.mk.injEq] at done
        exact Or.inr ⟨current, found, holder.1, holder.2.2, done.1.symm⟩
      next =>
        simp only [Except.ok.injEq, Prod.mk.injEq] at done
        rw [← done.2]
        exact Or.inl ⟨done.1.symm, nofun⟩

theorem finishRun_cases {input : FinishRunInput}
    (done : finishRun tables input = .ok (after, result)) :
    (after = tables ∧ result = none) ∨
      ∃ current, tables.runs.find input.automationRunId = some current ∧
        current.status = .running ∧
        current.heldBy input.leaseOwner input.terminalAt = true ∧
        after = updateJobOutcome
          (recordFinish (writeRun tables (current.finishedBy input)) input.automationRunId
            current.attempt input.leaseOwner)
          current.jobId (current.finishedBy input).status current.scheduledFor
          input.terminalAt ∧
        result = some (current.finishedBy input) := by
  rcases guarded_cases (fun current => current.status = .running ∧
      current.heldBy input.leaseOwner input.terminalAt = true) done with
    same | ⟨current, found, ready, written⟩
  · exact Or.inl same
  · simp only [Except.ok.injEq, Prod.mk.injEq] at written
    exact Or.inr ⟨current, found, ready.1, ready.2, written.1.symm, written.2.symm⟩

section Inserts

variable {jobId requestKey : String} {requestedAt : Nat} {result : Bool × AutomationRunRow}

/-- A row that no scheduler has taken up. -/
structure Unstarted (row : AutomationRunRow) : Prop where
  status : row.status = .pending ∨ row.status = .skipped
  unclaimed : row.lease = none
  unbound : row.runId = none

theorem unstarted_pending (automationRunId jobId : String) (scheduledFor : Nat)
    (triggerKind : TriggerKind) (requestKey : Option String) (now : Nat) :
    Unstarted (createRunRow automationRunId jobId scheduledFor triggerKind requestKey
      .pending none now) where
  status := Or.inl rfl
  unclaimed := rfl
  unbound := rfl

theorem unstarted_occurrence (occurrence : Occurrence) (jobId : String) (now : Nat) :
    Unstarted (occurrence.toRow jobId now) where
  status := by
    by_cases skipped : occurrence.skipped = true
    · exact Or.inr (if_pos skipped)
    · exact Or.inl (if_neg skipped)
  unclaimed := rfl
  unbound := rfl

theorem unstarted_occurrences (occurrences : List Occurrence) (jobId : String) (now : Nat) :
    ∀ row ∈ occurrences.map (fun occurrence => occurrence.toRow jobId now), Unstarted row := by
  intro row rowIn
  obtain ⟨occurrence, -, rfl⟩ := List.mem_map.mp rowIn
  exact unstarted_occurrence occurrence jobId now

/-- A relation that holds over each insert of an unstarted run, and over the cursor of a
job that moves on. -/
structure InsertRules (relation : AutomationTables → AutomationTables → Prop) : Prop where
  refl : ∀ tables, relation tables tables
  trans : ∀ {first second third}, relation first second → relation second third →
    relation first third
  inserted : ∀ (tables : AutomationTables) (row : AutomationRunRow)
    (runs : Table AutomationRunRow.automationRunId), Unstarted row →
    (tables.jobs.find row.jobId).isSome →
    getRunBySchedule tables row.jobId row.scheduledFor = none →
    tables.runs.insert row = some runs →
    relation tables { tables with runs := runs, history := tables.history ++ row.outcomes }
  advanced : ∀ (tables : AutomationTables) (current : JobRow) (input : MaterializeInput),
    tables.jobs.find (current.advancedBy input).jobId = some current →
    relation tables { tables with jobs := tables.jobs.update (current.advancedBy input) }

variable {relation : AutomationTables → AutomationTables → Prop} (rules : InsertRules relation)

include rules

theorem insertRun_walks {row stored : AutomationRunRow} {created : Bool} (unstarted : Unstarted row)
    (done : insertRun tables row = .ok (after, created, stored)) :
    relation tables after ∧ after.jobs = tables.jobs := by
  unfold insertRun at done
  split at done
  · simp only [Except.ok.injEq, Prod.mk.injEq] at done
    rw [← done.1]
    exact ⟨rules.refl tables, rfl⟩
  next free =>
    simp only [bind_ok_iff, require_ok_iff, fetch_ok_iff, pure_ok_iff, Prod.mk.injEq,
      exists_and_left, exists_const] at done
    obtain ⟨-, known, runs, inserted, rfl, -⟩ := done
    exact ⟨rules.inserted tables row runs unstarted known free inserted, rfl⟩

theorem insertManualRun_walks (tries scheduledFor : Nat)
    (done : insertManualRun tables automationRunId jobId requestKey requestedAt tries
      scheduledFor = .ok (after, result)) : relation tables after ∧ after.jobs = tables.jobs := by
  induction tries generalizing scheduledFor with
  | zero => simp [insertManualRun] at done
  | succ tries ih =>
    simp only [insertManualRun, bind_ok_iff] at done
    obtain ⟨inserted, insertDone, rest⟩ := done
    split at rest
    · simp only [pure_ok_iff] at rest
      subst rest
      exact insertRun_walks rules (unstarted_pending _ _ _ _ _ _) insertDone
    · exact ih (scheduledFor + 1) rest

theorem reserveManualRun_walks
    (done : reserveManualRun tables automationRunId jobId requestKey requestedAt =
      .ok (after, result)) : relation tables after ∧ after.jobs = tables.jobs := by
  unfold reserveManualRun at done
  split at done
  · simp only [bind_ok_iff, require_ok_iff, pure_ok_iff, Prod.mk.injEq] at done
    obtain ⟨-, -, rfl, -⟩ := done
    exact ⟨rules.refl tables, rfl⟩
  · simp only [bind_ok_iff, require_ok_iff] at done
    obtain ⟨-, -, inserts⟩ := done
    exact insertManualRun_walks rules 1000 requestedAt inserts

theorem insertRuns_walks (rows : List AutomationRunRow) (unstarted : ∀ row ∈ rows, Unstarted row)
    {stored : List AutomationRunRow} (done : insertRuns tables rows = .ok (after, stored)) :
    relation tables after ∧ after.jobs = tables.jobs := by
  induction rows generalizing tables stored with
  | nil =>
    simp only [insertRuns, Except.ok.injEq, Prod.mk.injEq] at done
    rw [← done.1]
    exact ⟨rules.refl tables, rfl⟩
  | cons row rows ih =>
    simp only [insertRuns, bind_ok_iff, pure_ok_iff, Prod.mk.injEq] at done
    obtain ⟨first, firstDone, rest, restDone, rfl, -⟩ := done
    obtain ⟨firstWalk, firstJobs⟩ := insertRun_walks rules (unstarted row (by simp)) firstDone
    obtain ⟨restWalk, restJobs⟩ :=
      ih (fun other otherIn => unstarted other (by simp [otherIn])) restDone
    exact ⟨rules.trans firstWalk restWalk, restJobs.trans firstJobs⟩

theorem materializeDueJob_walks {input : MaterializeInput} {result : Option (List AutomationRunRow)}
    (done : materializeDueJob tables input = .ok (after, result)) : relation tables after := by
  unfold materializeDueJob at done
  split at done
  · simp only [Except.ok.injEq, Prod.mk.injEq] at done
    rw [← done.1]
    exact rules.refl tables
  next current found =>
    split at done
    · simp only [bind_ok_iff, pure_ok_iff, Prod.mk.injEq] at done
      obtain ⟨stored, insertDone, rfl, -⟩ := done
      obtain ⟨walked, sameJobs⟩ :=
        insertRuns_walks rules _ (unstarted_occurrences _ _ _) insertDone
      apply rules.trans walked
      apply rules.advanced
      rw [sameJobs]
      have named : current.jobId = input.jobId := tables.jobs.key_of_find found
      rw [← named] at found
      exact found
    · simp only [Except.ok.injEq, Prod.mk.injEq] at done
      rw [← done.1]
      exact rules.refl tables

theorem materialize_walks (zonedParts : String → Nat → Option Schedule.ZonedParts)
    (scheduler : SchedulerState) (ownerId : String) (createId : Nat → String) :
    relation scheduler.tables
      (Scheduler.materialize zonedParts scheduler ownerId createId).tables := by
  unfold Scheduler.materialize
  split
  · exact rules.refl _
  next =>
    split
    · exact rules.refl _
    next reached occurrences isDone =>
      unfold materialized at isDone
      split at isDone
      · cases isDone
      next =>
        split at isDone
        · cases isDone
        next tables insertDone =>
          simp only [Option.some.injEq, Prod.mk.injEq] at isDone
          rw [← isDone.1]
          exact materializeDueJob_walks rules insertDone
        next tables rows insertDone =>
          simp only [Option.some.injEq, Prod.mk.injEq] at isDone
          rw [← isDone.1]
          exact materializeDueJob_walks rules insertDone

theorem define_walks (sameRuns : ∀ {before reached : AutomationTables}, reached.runs = before.runs →
      relation before reached) (zonedParts : String → Nat → Option Schedule.ZonedParts)
    (scheduler : SchedulerState) (call : DefinitionCall) :
    relation scheduler.tables (Scheduler.step zonedParts scheduler call.toOp).tables := by
  cases call with
  | create jobId name enabled definition now =>
    simp only [DefinitionCall.toOp, Scheduler.step, Scheduler.create]
    split
    · exact rules.refl _
    split
    · exact rules.refl _
    next tables row done =>
      simp only [insertJob, bind_ok_iff, fetch_ok_iff, pure_ok_iff, Prod.mk.injEq] at done
      obtain ⟨inserted, -, rfl, -⟩ := done
      exact sameRuns rfl
  | update jobId expectedRevision name enabled definition now =>
    simp only [DefinitionCall.toOp, Scheduler.step, Scheduler.update]
    split
    · exact rules.refl _
    split
    · exact rules.refl _
    next tables row done =>
      simp only [updateJobConfig, bind_ok_iff, fetch_ok_iff, pure_ok_iff, Prod.mk.injEq] at done
      obtain ⟨existing, -, -, -, rfl, -⟩ := done
      exact sameRuns rfl
  | updateJobRuntime input =>
    refine commit_preserves (relation scheduler.tables) _ _ (rules.refl _) ?_
    intro reached row done
    simp only [updateJobRuntime, bind_ok_iff, fetch_ok_iff, pure_ok_iff, Prod.mk.injEq] at done
    obtain ⟨existing, -, rfl, -⟩ := done
    exact sameRuns rfl
  | reserveRun automationRunId jobId scheduledFor now =>
    refine commit_preserves (relation scheduler.tables) _ _ (rules.refl _) ?_
    intro reached row done
    exact (insertRun_walks rules (unstarted_pending _ _ _ _ _ _) done).1
  | reserveManualRun automationRunId jobId requestKey requestedAt =>
    refine commit_preserves (relation scheduler.tables) _ _ (rules.refl _) ?_
    intro reached row done
    exact (reserveManualRun_walks rules done).1

end Inserts

variable {linked : String → Option LinkedRun} {now : Nat} {run : AutomationRunRow}

structure Listed (tables : AutomationTables) (now : Nat) (run : AutomationRunRow) : Prop where
  present : tables.runs.find run.automationRunId = some run
  late : run.expired now = true
  live : run.status = .claimed ∨ run.status = .running

def Requeues (linked : String → Option LinkedRun) (run : AutomationRunRow) : Prop :=
  run.status = .claimed ∨ (run.runId.bind linked).any LinkedRun.resumes = true

instance (linked : String → Option LinkedRun) (run : AutomationRunRow) :
    Decidable (Requeues linked run) :=
  inferInstanceAs (Decidable (_ ∨ _))

def recoveredRow (linked : String → Option LinkedRun) (now : Nat) (run : AutomationRunRow) :
    AutomationRunRow :=
  if Requeues linked run then run.requeued now else run.interrupted now

theorem updateExpired_listed (listed : Listed tables now run)
    (change : AutomationRunRow → AutomationRunRow) :
    updateExpired tables run.automationRunId run.status now change =
      (writeRun tables (change run), some (change run)) := by
  simp [updateExpired, listed.present, listed.late]

theorem recoverRun_cases (listed : Listed tables now run) (recovered : RecoveredRuns) :
    (Requeues linked run ∧ (recoverRun linked now tables recovered run).1 =
        writeRun tables (run.requeued now)) ∨
      (¬ Requeues linked run ∧ run.status = .running ∧
        (recoverRun linked now tables recovered run).1 =
          updateJobOutcome (writeRun tables (run.interrupted now)) run.jobId .failed
            run.scheduledFor now) := by
  by_cases requeues : run.status = .claimed ∨ (run.runId.bind linked).any LinkedRun.resumes = true
  · refine Or.inl ⟨requeues, ?_⟩
    simp only [recoverRun, requeues, if_true, updateExpired_listed listed]
    simp [AutomationRunRow.requeued]
  have running : run.status = .running :=
    listed.live.resolve_left fun claimed => requeues (Or.inl claimed)
  refine Or.inr ⟨requeues, running, ?_⟩
  have applied := updateExpired_listed listed fun current => current.interrupted now
  rw [running] at applied
  simp only [recoverRun, requeues, if_false, applied]
  simp [AutomationRunRow.interrupted]

theorem recoverRun_find (listed : Listed tables now run) (recovered : RecoveredRuns)
    (wanted : String) :
    (recoverRun linked now tables recovered run).1.runs.find wanted =
      if run.automationRunId = wanted then some (recoveredRow linked now run)
      else tables.runs.find wanted := by
  unfold recoveredRow
  rcases @recoverRun_cases tables linked now run listed recovered with
    ⟨requeues, reached⟩ | ⟨stays, -, reached⟩
  · rw [reached, if_pos requeues]
    exact find_writeRun (run.requeued now) listed.present rfl wanted
  · rw [reached, updateJobOutcome_runs, if_neg stays]
    exact find_writeRun (run.interrupted now) listed.present rfl wanted

theorem listed_after {runs : List AutomationRunRow} (recovered : RecoveredRuns)
    (distinct : ((run :: runs).map AutomationRunRow.automationRunId).Nodup)
    (listed : ∀ other ∈ run :: runs, Listed tables now other) :
    ∀ other ∈ runs, Listed (recoverRun linked now tables recovered run).1 now other := by
  intro other otherIn
  have whole := listed other (by simp [otherIn])
  have different : run.automationRunId ≠ other.automationRunId := by
    intro same
    rw [List.map_cons, List.nodup_cons, same] at distinct
    exact distinct.1 (List.mem_map_of_mem otherIn)
  have unchanged := @recoverRun_find tables linked now run (listed run (by simp)) recovered
    other.automationRunId
  rw [if_neg different] at unchanged
  exact ⟨unchanged.trans whole.present, whole.late, whole.live⟩

theorem recoverRuns_find {runs : List AutomationRunRow} {recovered : RecoveredRuns}
    (distinct : (runs.map AutomationRunRow.automationRunId).Nodup)
    (listed : ∀ run ∈ runs, Listed tables now run) (wanted : String) :
    (recoverRuns linked now runs tables recovered).1.runs.find wanted =
      (tables.runs.find wanted).map (fun run =>
        if run ∈ runs then recoveredRow linked now run else run) := by
  induction runs generalizing tables recovered with
  | nil => simp [recoverRuns]
  | cons run runs ih =>
    have own := listed run (by simp)
    have rest := @listed_after tables linked now run runs recovered distinct listed
    have first := @recoverRun_find tables linked now run own recovered wanted
    rw [List.map_cons, List.nodup_cons] at distinct
    simp only [recoverRuns]
    rw [ih distinct.2 rest, first]
    by_cases isOwn : run.automationRunId = wanted
    · have unlisted : ∀ row : AutomationRunRow, row.automationRunId = run.automationRunId →
          row ∉ runs := by
        intro row same rowIn
        rw [← same] at distinct
        exact distinct.1 (List.mem_map_of_mem rowIn)
      have sameRun : (recoveredRow linked now run).automationRunId = run.automationRunId := by
        unfold recoveredRow
        split <;> rfl
      rw [if_pos isOwn, ← isOwn, own.present]
      simp [unlisted _ sameRun]
    · rw [if_neg isOwn]
      cases found : tables.runs.find wanted with
      | none => rfl
      | some other =>
        have different : other ≠ run := by
          intro same
          rw [← same] at isOwn
          exact isOwn (tables.runs.key_of_find found)
        simp [different]

theorem listExpiredRuns_listed :
    (∀ run, run ∈ listExpiredRuns tables now ↔ Listed tables now run) ∧
      ((listExpiredRuns tables now).map AutomationRunRow.automationRunId).Nodup := by
  have sorted := List.perm_insertionSort scheduledBefore
    (tables.runs.rows.filter fun row =>
      decide (row.status = .claimed ∨ row.status = .running) && row.expired now)
  constructor
  · intro run
    refine Iff.trans sorted.mem_iff ?_
    rw [List.mem_filter, Bool.and_eq_true, decide_eq_true_eq]
    constructor
    · intro selected
      exact ⟨tables.runs.find_of_mem selected.1, selected.2.2, selected.2.1⟩
    · intro listed
      exact ⟨tables.runs.mem_of_find listed.present, listed.live, listed.late⟩
  · apply ((sorted.map AutomationRunRow.automationRunId).nodup_iff).mpr
    exact tables.runs.keysNodup.sublist (List.filter_sublist.map _)

theorem recoverExpiredRuns_find (linked : String → Option LinkedRun)
    (tables : AutomationTables) (now : Nat) (wanted : String) :
    (recoverExpiredRuns linked tables now).1.runs.find wanted =
      (tables.runs.find wanted).map (fun run =>
        if run ∈ listExpiredRuns tables now then recoveredRow linked now run else run) :=
  recoverRuns_find listExpiredRuns_listed.2
    (fun run runIn => (listExpiredRuns_listed.1 run).mp runIn) wanted

end OpenRill.Automation.RunWrites
