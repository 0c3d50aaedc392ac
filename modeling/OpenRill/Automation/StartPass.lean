import OpenRill.Automation.CatchUp
import OpenRill.Automation.Scheduler

/-!
# The pass of a start over the overdue jobs

`#materializeDue(now, true)`, from its listing of the overdue jobs to the end of the loop. It
lists no more jobs than `dueJobLimit` and ends at the first one whose plan throws: exactly
the jobs before that have their own catch-up policy applied.
-/

namespace OpenRill.Automation.StartPass

open Lib Lib.Checked Ledger Schedule NextOccurrence CatchUp Scheduler

variable (parts : String → Nat → ZonedParts)

/-- The turns of the loop; the `n`-th one reads the ids of `createIds n`. -/
def turnsFrom (ownerId : String) (createIds : Nat → Nat → String) (state : SchedulerState) :
    Nat → Nat → SchedulerState
  | _, 0 => state
  | turn, turns + 1 =>
    turnsFrom ownerId createIds
      (Scheduler.materialize (zonesOf parts) state ownerId (createIds turn)) (turn + 1) turns

def startPass (state : SchedulerState) (ownerId : String) (now dueJobLimit : Nat)
    (createIds : Nat → Nat → String) : SchedulerState :=
  turnsFrom parts ownerId createIds (Scheduler.wake state ownerId true now dueJobLimit) 0
    dueJobLimit

def Overdue (state : SchedulerState) (now : Nat) (entry : JobRow × JobDefinition) : Prop :=
  entry.1 ∈ state.tables.jobs.rows ∧ state.definitions entry.1.jobId = some entry.2 ∧
    entry.1.enabled = true ∧ ∃ first ≤ now, entry.1.nextScheduledFor = some first

def planOf (now : Nat) (entry : JobRow × JobDefinition) : Except ScheduleFailure WakePlan :=
  startupPlan (zonesOf parts) entry.2 entry.1.nextScheduledFor now

def planned (now : Nat) (entry : JobRow × JobDefinition) : Bool :=
  match planOf parts now entry with
  | .ok _ => true
  | .error _ => false

def Recorded (tables : AutomationTables) (jobId : String) (instant : Nat) : Prop :=
  ∃ run ∈ tables.runs.rows, run.jobId = jobId ∧ run.scheduledFor = instant

def Applied (now : Nat) (entry : JobRow × JobDefinition) (tables : AutomationTables) : Prop :=
  ∃ plan job, planOf parts now entry = .ok plan ∧
    tables.jobs.find entry.1.jobId = some job ∧
    job.nextScheduledFor = plan.nextScheduledFor ∧
    ∀ instant ∈ plan.instants, Recorded tables entry.1.jobId instant

def AllCaughtUp (state : SchedulerState) (now : Nat) (reached : SchedulerState) : Prop :=
  ∀ entry, Overdue state now entry → planned parts now entry = true →
    Applied parts now entry reached.tables

def AllReached (state : SchedulerState) (now dueJobLimit : Nat) : Prop :=
  ∀ entry, Overdue state now entry → planned parts now entry = true →
    entry ∈ (snapshotDue state now dueJobLimit).takeWhile (planned parts now)

structure NewIds (createIds : Nat → Nat → String) (tables : AutomationTables) : Prop where
  distinct : ∀ turn index other place, createIds turn index = createIds other place →
    turn = other ∧ index = place
  new : ∀ turn index, ∀ run ∈ tables.runs.rows, run.automationRunId ≠ createIds turn index

variable {tables : AutomationTables}

def Grows (tables after : AutomationTables) (isNew : String → Prop) : Prop :=
  (∀ run ∈ tables.runs.rows, run ∈ after.runs.rows) ∧
    ∀ run ∈ after.runs.rows, run ∈ tables.runs.rows ∨ isNew run.automationRunId

theorem insertRun_succeeds {row : AutomationRunRow} (unkeyed : row.requestKey = none)
    (known : (tables.jobs.find row.jobId).isSome = true)
    (isNew : ∀ run ∈ tables.runs.rows, run.automationRunId ≠ row.automationRunId) :
    ∃ after created stored, insertRun tables row = .ok (after, created, stored) ∧
      after.jobs = tables.jobs ∧ Recorded after row.jobId row.scheduledFor ∧
      Grows tables after (fun id => id = row.automationRunId) := by
  unfold insertRun
  cases isStored : getRunBySchedule tables row.jobId row.scheduledFor with
  | some stored =>
    have selected := List.find?_some isStored
    exact ⟨tables, false, stored, rfl, rfl,
      ⟨stored, List.mem_of_find?_eq_some isStored, by simpa using selected⟩,
      fun _ => id, fun _ => Or.inl⟩
  | none =>
    obtain ⟨runs, inserted⟩ :=
      tables.runs.insert_of_fresh row ((tables.runs.find_none_iff _).mpr isNew)
    refine ⟨{ tables with
      runs := runs
      history := tables.history ++ row.outcomes }, true, row, ?_, rfl, ⟨row, ?_, rfl, rfl⟩, ?_⟩
    · simp [unkeyed, known, inserted, require, fetch, bind, Except.bind, pure, Except.pure]
    · exact (tables.runs.mem_insert_iff runs row inserted row).mpr (Or.inr rfl)
    · refine ⟨fun run runIn => ?_, fun run runIn => ?_⟩
      · exact (tables.runs.mem_insert_iff runs row inserted run).mpr (Or.inl runIn)
      · exact ((tables.runs.mem_insert_iff runs row inserted run).mp runIn).imp_right
          (congrArg AutomationRunRow.automationRunId)

theorem insertRuns_succeeds (rows : List AutomationRunRow)
    (unkeyed : ∀ row ∈ rows, row.requestKey = none)
    (known : ∀ row ∈ rows, (tables.jobs.find row.jobId).isSome = true)
    (distinct : (rows.map AutomationRunRow.automationRunId).Nodup)
    (isNew : ∀ row ∈ rows, ∀ run ∈ tables.runs.rows, run.automationRunId ≠ row.automationRunId) :
    ∃ after stored, insertRuns tables rows = .ok (after, stored) ∧ after.jobs = tables.jobs ∧
      (∀ row ∈ rows, Recorded after row.jobId row.scheduledFor) ∧
      Grows tables after (fun id => id ∈ rows.map AutomationRunRow.automationRunId) := by
  induction rows generalizing tables with
  | nil => exact ⟨tables, [], rfl, rfl, nofun, fun _ => id, fun _ => Or.inl⟩
  | cons row rows ih =>
    obtain ⟨after, created, stored, done, sameJobs, recorded, grown, others⟩ :=
      insertRun_succeeds (unkeyed row (by simp)) (known row (by simp)) (isNew row (by simp))
    rw [List.map_cons, List.nodup_cons] at distinct
    have apart : ∀ other ∈ rows, ∀ run ∈ after.runs.rows,
        run.automationRunId ≠ other.automationRunId := by
      intro other otherIn run runIn same
      rcases others run runIn with earlier | isRow
      · exact isNew other (by simp [otherIn]) run earlier same
      · apply distinct.1
        rw [← isRow, same]
        exact List.mem_map_of_mem otherIn
    obtain ⟨last, rest, restDone, restJobs, restRecorded, restGrown, restOthers⟩ :=
      ih (fun other otherIn => unkeyed other (by simp [otherIn]))
        (fun other otherIn => by
          rw [sameJobs]
          exact known other (by simp [otherIn]))
        distinct.2 apart
    refine ⟨last, stored :: rest, ?_, restJobs.trans sameJobs, ?_, ?_, ?_⟩
    · simp [insertRuns, done, restDone, bind, Except.bind, pure, Except.pure]
    · intro other otherIn
      rcases List.mem_cons.mp otherIn with rfl | inRest
      · obtain ⟨run, runIn, isJob⟩ := recorded
        exact ⟨run, restGrown run runIn, isJob⟩
      · exact restRecorded other inRest
    · exact fun run runIn => restGrown run (grown run runIn)
    · intro run runIn
      rcases restOthers run runIn with isAfter | isNewId
      · exact (others run isAfter).imp_right fun same => by simp [same]
      · exact Or.inr (List.mem_cons_of_mem _ isNewId)

variable {parts : String → Nat → ZonedParts} {state : SchedulerState} {now : Nat}
variable {entry : JobRow × JobDefinition}

theorem planOccurrences_rows (plan : WakePlan) (createId : Nat → String) :
    (planOccurrences plan createId).map Occurrence.scheduledFor = plan.instants ∧
      (planOccurrences plan createId).map Occurrence.automationRunId =
        (List.range plan.instants.length).map createId := by
  unfold planOccurrences WakePlan.instants
  constructor
  · apply List.ext_getElem
    · simp
    · intro index _ _
      simp only [List.getElem_mapIdx, List.getElem_append, List.getElem_map, List.length_map]
      split <;> rfl
  · apply List.ext_getElem <;> simp

theorem materialized_succeeds {tables : AutomationTables} {wake : Wake} {plan : WakePlan}
    {createId : Nat → String} {first : Nat} (startup : wake.startup = true)
    (isPlan : planOf parts wake.now entry = .ok plan)
    (found : tables.jobs.find entry.1.jobId = some entry.1)
    (enabled : entry.1.enabled = true) (cursor : entry.1.nextScheduledFor = some first)
    (distinct : Function.Injective createId)
    (isNew : ∀ index, ∀ run ∈ tables.runs.rows, run.automationRunId ≠ createId index) :
    ∃ after occurrences,
      materialized (zonesOf parts) tables wake entry.1 entry.2 createId =
        some (after, occurrences) ∧
      after.jobs = tables.jobs.update (entry.1.advancedBy (planInput wake entry.1 plan createId)) ∧
      (∀ instant ∈ plan.instants, Recorded after entry.1.jobId instant) ∧
      Grows tables after (fun id => ∃ index, id = createId index) := by
  obtain ⟨instants, ids⟩ := planOccurrences_rows plan createId
  have rowIds : ((planOccurrences plan createId).map fun occurrence =>
      occurrence.toRow entry.1.jobId wake.now).map AutomationRunRow.automationRunId =
        (List.range plan.instants.length).map createId := by
    rw [← ids, List.map_map]
    rfl
  have ofPlan : ∀ row ∈ (planOccurrences plan createId).map fun occurrence =>
      occurrence.toRow entry.1.jobId wake.now,
        row.requestKey = none ∧ row.jobId = entry.1.jobId ∧
          ∃ index, row.automationRunId = createId index := by
    intro row rowIn
    have named : row.automationRunId ∈ (List.range plan.instants.length).map createId := by
      rw [← rowIds]
      exact List.mem_map_of_mem rowIn
    obtain ⟨occurrence, -, rfl⟩ := List.mem_map.mp rowIn
    obtain ⟨index, -, isId⟩ := List.mem_map.mp named
    exact ⟨rfl, rfl, index, isId.symm⟩
  obtain ⟨after, stored, done, sameJobs, recorded, grown, others⟩ :=
    @insertRuns_succeeds tables _ (fun row rowIn => (ofPlan row rowIn).1)
      (fun row rowIn => by
        rw [(ofPlan row rowIn).2.1, found]
        rfl)
      (by
        rw [rowIds]
        exact List.nodup_range.map distinct)
      fun row rowIn run runIn same => by
        obtain ⟨index, isId⟩ := (ofPlan row rowIn).2.2
        exact isNew index run runIn (same.trans isId)
  have ran : materialized (zonesOf parts) tables wake entry.1 entry.2 createId =
      some ({ after with
        jobs := after.jobs.update (entry.1.advancedBy (planInput wake entry.1 plan createId)) },
        plan.instants.map fun instant => (entry.1.jobId, instant)) := by
    have isWakePlan : wakePlan (zonesOf parts) wake entry.1 entry.2 = .ok plan := by
      rw [wakePlan, if_pos startup]
      exact isPlan
    have current : entry.1.enabled = true ∧ entry.1.nextScheduledFor =
        some (planInput wake entry.1 plan createId).expectedNextScheduledFor :=
      ⟨enabled, by simp [planInput, cursor]⟩
    have stores : materializeDueJob tables (planInput wake entry.1 plan createId) =
        .ok ({ after with
          jobs := after.jobs.update
            (entry.1.advancedBy (planInput wake entry.1 plan createId)) }, some stored) := by
      have isJob : tables.jobs.find (planInput wake entry.1 plan createId).jobId =
          some entry.1 := found
      unfold materializeDueJob
      rw [isJob]
      exact (if_pos current).trans ((bind_ok_iff _ _ _).mpr ⟨(after, stored), done, rfl⟩)
    unfold materialized
    rw [isWakePlan]
    simp only [stores]
  refine ⟨_, _, ran, ?_, ?_, grown, ?_⟩
  · exact congrArg (fun jobs => Table.update jobs _) sameJobs
  · intro instant instantIn
    rw [← instants, List.mem_map] at instantIn
    obtain ⟨occurrence, occurrenceIn, rfl⟩ := instantIn
    exact recorded (occurrence.toRow entry.1.jobId wake.now) (List.mem_map_of_mem occurrenceIn)
  · intro run runIn
    refine (others run runIn).imp_right fun inRows => ?_
    rw [rowIds, List.mem_map] at inRows
    obtain ⟨index, -, isId⟩ := inRows
    exact ⟨index, isId.symm⟩

theorem idle_turns {ownerId : String} {createIds : Nat → Nat → String} (turn turns : Nat)
    (idle : nextTurn state ownerId = none) :
    (turnsFrom parts ownerId createIds state turn turns).tables = state.tables := by
  induction turns generalizing state turn with
  | zero => rfl
  | succ turns ih =>
    have reached : Scheduler.materialize (zonesOf parts) state ownerId (createIds turn) =
        setWake state ownerId none := by
      unfold Scheduler.materialize
      rw [idle]
    rw [turnsFrom, reached]
    have still : nextTurn (setWake state ownerId none) ownerId = none := by
      simp [nextTurn, setWake]
    exact ih (turn + 1) still

/-- The loop over the jobs that are left: those before the first one that throws are caught
up, and the others are left as they are. -/
theorem turns_apply {ownerId : String} {createIds : Nat → Nat → String}
    (distinct : ∀ turn index other place, createIds turn index = createIds other place →
      turn = other ∧ index = place)
    (due : List (JobRow × JobDefinition)) (turn turns : Nat) (within : due.length ≤ turns)
    (isWake : state.wakes ownerId = some ⟨true, now, due⟩)
    (listed : ∀ entry ∈ due, state.tables.jobs.find entry.1.jobId = some entry.1 ∧
      entry.1.enabled = true ∧ ∃ first, entry.1.nextScheduledFor = some first)
    (apart : (due.map (fun entry => entry.1.jobId)).Nodup)
    (isNew : ∀ later ≥ turn, ∀ index, ∀ run ∈ state.tables.runs.rows,
      run.automationRunId ≠ createIds later index) :
    (∀ entry ∈ due.takeWhile (planned parts now),
      Applied parts now entry (turnsFrom parts ownerId createIds state turn turns).tables) ∧
    (∀ jobId ∉ (due.takeWhile (planned parts now)).map (fun entry => entry.1.jobId),
      (turnsFrom parts ownerId createIds state turn turns).tables.jobs.find jobId =
        state.tables.jobs.find jobId) ∧
    ∀ run ∈ state.tables.runs.rows,
      run ∈ (turnsFrom parts ownerId createIds state turn turns).tables.runs.rows := by
  induction due generalizing state turn turns with
  | nil =>
    rw [idle_turns turn turns (by simp [nextTurn, isWake])]
    exact ⟨nofun, fun _ _ => rfl, fun _ => id⟩
  | cons entry rest ih =>
    obtain ⟨turns, rfl⟩ : ∃ fewer, turns = fewer + 1 :=
      ⟨turns - 1, by simp at within; omega⟩
    rw [turnsFrom]
    have isTurn : nextTurn state ownerId = some (⟨true, now, rest⟩, entry.1, entry.2) := by
      simp [nextTurn, isWake]
    cases isPlan : planOf parts now entry with
    | error failure =>
      have throws : Scheduler.materialize (zonesOf parts) state ownerId (createIds turn) =
          setWake state ownerId none := by
        have isWakePlan : wakePlan (zonesOf parts) ⟨true, now, rest⟩ entry.1 entry.2 =
            .error failure := isPlan
        simp [Scheduler.materialize, isTurn, materialized, isWakePlan]
      have unplanned : planned parts now entry = false := by simp [planned, isPlan]
      rw [throws, idle_turns (turn + 1) turns (by simp [nextTurn, setWake])]
      simp [unplanned, setWake]
    | ok plan =>
      obtain ⟨found, enabled, first, cursor⟩ := listed entry (by simp)
      obtain ⟨after, occurrences, ran, jobs, recorded, grown, others⟩ :=
        @materialized_succeeds parts entry state.tables ⟨true, now, rest⟩ plan (createIds turn)
          first rfl isPlan found enabled cursor
          (fun index place same => (distinct turn index turn place same).2)
          (isNew turn (Nat.le_refl turn))
      have named : (entry.1.advancedBy
          (planInput ⟨true, now, rest⟩ entry.1 plan (createIds turn))).jobId = entry.1.jobId :=
        rfl
      have lookup : ∀ jobId, after.jobs.find jobId =
          if entry.1.jobId = jobId then
            some (entry.1.advancedBy (planInput ⟨true, now, rest⟩ entry.1 plan (createIds turn)))
          else state.tables.jobs.find jobId := by
        intro jobId
        rw [jobs]
        exact state.tables.jobs.find_update (entry.1.advancedBy
          (planInput ⟨true, now, rest⟩ entry.1 plan (createIds turn))) found jobId
      have isPlanned : planned parts now entry = true := by simp [planned, isPlan]
      have reached : Scheduler.materialize (zonesOf parts) state ownerId (createIds turn) =
          setWake { state with
            tables := after
            planned := state.planned ++ occurrences } ownerId (some ⟨true, now, rest⟩) := by
        simp [Scheduler.materialize, isTurn, ran]
      rw [List.map_cons, List.nodup_cons] at apart
      have different : ∀ other ∈ rest, entry.1.jobId ≠ other.1.jobId := by
        intro other otherIn same
        apply apart.1
        rw [same]
        exact List.mem_map_of_mem otherIn
      obtain ⟨restApplied, untouched, restGrown⟩ := @ih (setWake { state with
          tables := after
          planned := state.planned ++ occurrences } ownerId (some ⟨true, now, rest⟩))
        (turn + 1) turns (by simpa using within) (by simp [setWake])
        (fun other otherIn => by
          obtain ⟨otherFound, rest⟩ := listed other (by simp [otherIn])
          refine ⟨?_, rest⟩
          exact (lookup other.1.jobId).trans ((if_neg (different other otherIn)).trans otherFound))
        apart.2
        fun later isLater index run runIn same => by
          rcases others run runIn with earlier | ⟨place, isId⟩
          · exact isNew later (Nat.le_of_succ_le isLater) index run earlier same
          · have sameTurn := (distinct turn place later index (isId.symm.trans same)).1
            omega
      rw [reached]
      have notInRest : entry.1.jobId ∉
          (rest.takeWhile (planned parts now)).map (fun other => other.1.jobId) := by
        intro member
        obtain ⟨other, otherIn, same⟩ := List.mem_map.mp member
        exact different other ((List.takeWhile_sublist _).mem otherIn) same.symm
      rw [List.takeWhile_cons_of_pos isPlanned]
      refine ⟨?_, ?_, fun run runIn => restGrown run (grown run runIn)⟩
      · intro other otherIn
        rcases List.mem_cons.mp otherIn with rfl | inRest
        · refine ⟨plan, other.1.advancedBy
            (planInput ⟨true, now, rest⟩ other.1 plan (createIds turn)), isPlan, ?_, rfl,
            fun instant instantIn => ?_⟩
          · exact (untouched _ notInRest).trans ((lookup _).trans (if_pos rfl))
          · obtain ⟨run, runIn, isRun⟩ := recorded instant instantIn
            exact ⟨run, restGrown run runIn, isRun⟩
        · exact restApplied other inRest
      · intro jobId notReached
        rw [List.map_cons, List.mem_cons, not_or] at notReached
        exact (untouched jobId notReached.2).trans
          ((lookup jobId).trans (if_neg (Ne.symm notReached.1)))

variable {dueJobLimit : Nat}

theorem snapshotDue_overdue (listed : entry ∈ snapshotDue state now dueJobLimit) :
    Overdue state now entry := by
  obtain ⟨job, jobIn, isEntry⟩ := List.mem_filterMap.mp listed
  obtain ⟨definition, isDefinition, rfl⟩ := Option.map_eq_some_iff.mp isEntry
  have selected := (List.mem_insertionSort dueBefore).mp (List.mem_of_mem_take jobIn)
  simp only [List.mem_filter, Bool.and_eq_true, Option.any_eq_true, decide_eq_true_eq] at selected
  obtain ⟨isRow, enabled, first, cursor, overdue⟩ := selected
  exact ⟨isRow, isDefinition, enabled, first, overdue, cursor⟩

theorem snapshotDue_apart (state : SchedulerState) (now dueJobLimit : Nat) :
    ((snapshotDue state now dueJobLimit).map (fun entry => entry.1.jobId)).Nodup := by
  have sublist : ∀ jobs : List JobRow,
      ((jobs.filterMap fun job =>
        (state.definitions job.jobId).map fun definition => (job, definition)).map
          fun entry => entry.1.jobId).Sublist (jobs.map JobRow.jobId) := by
    intro jobs
    induction jobs with
    | nil => exact List.Sublist.slnil
    | cons job jobs ih =>
      cases isDefinition : state.definitions job.jobId with
      | none =>
        rw [List.filterMap_cons_none (by simp [isDefinition])]
        exact ih.cons _
      | some definition =>
        rw [List.filterMap_cons_some (b := (job, definition)) (by simp [isDefinition])]
        exact ih.cons_cons _
  refine List.Nodup.sublist ((sublist _).trans ((List.take_sublist _ _).map _)) ?_
  rw [((List.perm_insertionSort dueBefore _).map JobRow.jobId).nodup_iff]
  exact state.tables.jobs.keysNodup.sublist (List.filter_sublist.map _)

theorem overdue_unique {other : JobRow × JobDefinition} (overdue : Overdue state now entry)
    (otherDue : Overdue state now other) (same : other.1.jobId = entry.1.jobId) :
    other = entry := by
  obtain ⟨isRow, isDefinition, -⟩ := overdue
  obtain ⟨otherRow, otherDefinition, -⟩ := otherDue
  rw [same, isDefinition] at otherDefinition
  exact Prod.ext (state.tables.jobs.row_unique otherRow isRow same)
    (Option.some.inj otherDefinition).symm

def overdueJob (jobId : String) : JobRow :=
  createdJob jobId jobId true (some 0) 0

def overdueJobs : SchedulerState :=
  { SchedulerState.empty with
    tables := { AutomationTables.empty with
      jobs :=
        { rows := [overdueJob "first", overdueJob "second"]
          keysNodup := by decide } }
    definitions := fun _ => some (everyYear .runOnce) }

def createdId (turn index : Nat) : String :=
  String.ofList (List.replicate turn 'a' ++ List.replicate index 'b')

end OpenRill.Automation.StartPass
