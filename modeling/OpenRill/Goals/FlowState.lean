import OpenRill.Goals.CompletedGoals

/-!
# What a flow shows of the durable rows

Every transition of the executor puts a state on the flow that it builds before it
writes the rows. An admission builds it before it knows the task and leaves out that the
last outcome is cleared; all others show what they write. So the flow shows the rows just
while no step runs.
-/

namespace OpenRill.Goals.FlowState

open Lib Lib.Runs Ledger Executor Operations PlanMachine Moves Footing Projection Calls Invariants
open CompletedGoals

variable {store reached : GoalStore} {execution : ExecutionRow} {row step : StepExecutionRow}
variable {goal other : GoalRow} {flow : FlowRow} {revisions : PlanRevisions}
variable {table : Table StepExecutionRow.key}

def Idle (store : GoalStore) (execution : ExecutionRow) : Prop :=
  ∀ row, Pinned (viewOf store) execution row → row.status ≠ .running

def Unbroken (status : ExecutionStatus) : Prop := status ≠ .failed ∧ status ≠ .cancelled

/-- What the flow shows: the rows while no step runs, and never the task of a step that
does. -/
structure Shown (store : GoalStore) : Prop where
  state : ∀ execution flow, store.execution = some execution → store.flow = some flow →
    Unbroken execution.status → Idle store execution →
    flow.state = stateOf store.goal execution store.planRevisions store.stepExecutions
  announced : ∀ flow, store.flow = some flow → ∀ step ∈ flow.state.steps,
    step.status = .running → step.currentTaskId = none
  done : ∀ execution, store.execution = some execution → execution.status = .succeeded →
    ∀ row, Pinned (viewOf store) execution row → finished row.status = true

theorem mem_stateOf {step : ProjectedStep}
    (stepIn : step ∈ (stateOf goal execution revisions table).steps) :
    ∃ row ∈ table.rows, row.planRevision = execution.planRevision ∧ step = showStep row := by
  have isState : (stateOf goal execution revisions table).steps =
      (stepsOf table execution.planRevision).map showStep :=
    congrArg ProjectedState.steps (projectedState_eq _ _ _ _)
  obtain ⟨row, rowIn, rfl⟩ := List.mem_map.mp stepIn
  obtain ⟨inTable, revision⟩ := (mem_stepsOf _ _ row).mp rowIn
  exact ⟨row, inTable, revision, rfl⟩

theorem showStep_in {goal : GoalRow} {execution : ExecutionRow} {revisions : PlanRevisions}
    {table : Table StepExecutionRow.key} {row : StepExecutionRow} (rowIn : row ∈ table.rows)
    (revision : row.planRevision = execution.planRevision) :
    showStep row ∈ (stateOf goal execution revisions table).steps := by
  have isState : (stateOf goal execution revisions table).steps =
      (stepsOf table execution.planRevision).map showStep :=
    congrArg ProjectedState.steps (projectedState_eq _ _ _ _)
  exact List.mem_map_of_mem ((mem_stepsOf _ _ row).mpr ⟨rowIn, revision⟩)

theorem stateOf_congr {changed : ExecutionRow} {newer : PlanRevisions}
    {changedTable : Table StepExecutionRow.key}
    (sameGoal : other.goalId = goal.goalId ∧ other.objective = goal.objective)
    (samePlan : changed.planRevision = execution.planRevision)
    (sameStatus : changed.status = execution.status)
    (sameStep : changed.currentStepId = execution.currentStepId)
    (plans : planOf newer execution.planRevision = planOf revisions execution.planRevision)
    (rows : changedTable.rows = table.rows) :
    stateOf other changed newer changedTable = stateOf goal execution revisions table := by
  have sameSteps : stepsOf changedTable execution.planRevision =
      stepsOf table execution.planRevision := by
    unfold stepsOf
    rw [rows]
  unfold stateOf
  rw [samePlan, plans, sameSteps]
  exact projectedState_congr sameGoal samePlan sameStatus sameStep rfl

theorem sameGoal_of_kept (kept : GoalKept goal other) :
    other.goalId = goal.goalId ∧ other.objective = goal.objective :=
  ⟨kept.goalId, kept.objective⟩

theorem others_rest (settled : Settled (viewOf store) execution)
    (live : executionTerminal execution.status = false)
    (pinned : Pinned (viewOf store) execution step) (engaged : Engaged step.status)
    (rowPinned : Pinned (viewOf store) execution row) (different : row.key ≠ step.key) :
    row.status ≠ .running := by
  intro running
  rcases (focus_of_engaged settled live pinned engaged).behind row rowPinned with
    same | waits | done
  · exact different (congrArg StepExecutionRow.key same)
  · rw [running] at waits
    exact absurd waits.1 (by simp)
  · rw [running] at done
    contradiction

variable {flowStatus : FlowStatus} {currentStep : Option String}

theorem shown_of_kept (shown : Shown store) (execution : reached.execution = store.execution)
    (steps : reached.stepExecutions.rows = store.stepExecutions.rows)
    (flow : ∀ after, reached.flow = some after → ∃ before, store.flow = some before ∧
      after.state = before.state)
    (sameGoal : reached.goal.goalId = store.goal.goalId ∧
      reached.goal.objective = store.goal.objective)
    (plans : ∀ execution, store.execution = some execution →
      planOf reached.planRevisions execution.planRevision =
        planOf store.planRevisions execution.planRevision) : Shown reached := by
  constructor
  · intro pinned after present isAfter unbroken idle
    rw [execution] at present
    obtain ⟨before, isBefore, sameState⟩ := flow after isAfter
    rw [sameState, stateOf_congr sameGoal rfl rfl rfl (plans pinned present) steps]
    apply shown.state pinned before present isBefore unbroken
    intro row rowPinned
    apply idle row ⟨?_, rowPinned.2⟩
    change row ∈ reached.stepExecutions.rows
    rw [steps]
    exact rowPinned.1
  · intro after isAfter
    obtain ⟨before, isBefore, sameState⟩ := flow after isAfter
    rw [sameState]
    exact shown.announced before isBefore
  · intro pinned present succeeded row rowPinned
    rw [execution] at present
    apply shown.done pinned present succeeded row ⟨?_, rowPinned.2⟩
    change row ∈ store.stepExecutions.rows
    rw [← steps]
    exact rowPinned.1

theorem shown_of_written (present : reached.execution = some execution)
    (isFlow : reached.flow = some flow) (state : flow.state =
      stateOf reached.goal execution reached.planRevisions reached.stepExecutions)
    (idle : Idle reached execution) (done : execution.status = .succeeded →
      ∀ row, Pinned (viewOf reached) execution row → finished row.status = true) :
    Shown reached := by
  constructor
  · intro other after isOther isAfter _ _
    rw [present, Option.some.injEq] at isOther
    rw [isFlow, Option.some.injEq] at isAfter
    rw [← isOther, ← isAfter]
    exact state
  · intro after isAfter step stepIn running
    rw [isFlow, Option.some.injEq] at isAfter
    rw [← isAfter, state] at stepIn
    obtain ⟨row, rowIn, revision, rfl⟩ := mem_stateOf stepIn
    exact absurd running (idle row ⟨rowIn, revision⟩)
  · intro other isOther
    rw [present, Option.some.injEq] at isOther
    rw [← isOther]
    exact done

theorem shown_of_broken (shown : Shown store) (present : reached.execution = some execution)
    (broken : ¬ Unbroken execution.status)
    (flow : ∀ after, reached.flow = some after → ∃ before, store.flow = some before ∧
      after.state = before.state) : Shown reached := by
  constructor
  · intro other after isOther _ unbroken
    rw [present, Option.some.injEq] at isOther
    rw [← isOther] at unbroken
    exact absurd unbroken broken
  · intro after isAfter
    obtain ⟨before, isBefore, sameState⟩ := flow after isAfter
    rw [sameState]
    exact shown.announced before isBefore
  · intro other isOther succeeded
    rw [present, Option.some.injEq] at isOther
    exfalso
    apply broken
    rw [isOther, succeeded]
    exact ⟨by simp, by simp⟩

theorem shown_of_shifted {after : ExecutionRow} {next : StepExecutionRow} {status : ExecutionStatus}
    (regular : Regular store) (present : store.execution = some execution)
    (pinned : Pinned (viewOf store) execution step)
    (shift : Shift step.status next.status status flowStatus)
    (halted : step.status = .blocked ∨ step.status = .failed →
      execution.status = .blocked ∧ step.attemptCount < step.maxAttempts)
    (place : SamePlace step next) (flowMoved : FlowMoved store.flow flowStatus currentStep flow)
    (kept : GoalKept store.goal goal) (isGoal : reached.goal = goal)
    (isAfter : reached.execution = some after)
    (samePlan : after.planRevision = execution.planRevision) (isStatus : after.status = status)
    (current : after.currentStepId = some step.stepId)
    (isTable : reached.stepExecutions = store.stepExecutions.update next)
    (plans : reached.planRevisions = store.planRevisions) (isFlow : reached.flow = some flow)
    (shown : flow.state = stateOf store.goal
      { execution with status := status, currentStepId := some step.stepId }
      store.planRevisions (store.stepExecutions.update (shownRow step next))) : Shown reached := by
  have live := live_of_shifted regular.founded present pinned shift halted flowMoved
  have settled := regular.founded.sound.settled execution present
  have others : ∀ row, Pinned (viewOf store) execution row → row.key ≠ step.key →
      row.status ≠ .running := fun row rowPinned different =>
    others_rest settled live pinned (engaged_of_shift shift) rowPinned different
  constructor
  · intro other moved isOther isMoved _ idle
    rw [isAfter, Option.some.injEq] at isOther
    rw [isFlow, Option.some.injEq] at isMoved
    subst isOther
    subst isMoved
    have notRunning : next.status ≠ .running := by
      apply idle next
      refine ⟨?_, ?_⟩
      · change next ∈ reached.stepExecutions.rows
        rw [isTable]
        exact (mem_of_mem_update pinned.1 place.key next).mpr (Or.inl rfl)
      · rw [planRevision_of_key place.key, samePlan]
        exact pinned.2
    have isNext : shownRow step next = next := by
      unfold shownRow
      rw [if_neg notRunning]
    rw [shown, isNext, isGoal, plans, isTable]
    symm
    exact stateOf_congr (sameGoal_of_kept kept) samePlan isStatus current rfl rfl
  · intro moved isMoved shownStep stepIn running
    rw [isFlow, Option.some.injEq] at isMoved
    rw [← isMoved, shown] at stepIn
    obtain ⟨row, rowIn, revision, rfl⟩ := mem_stateOf stepIn
    have sameKey : (shownRow step next).key = step.key := by
      unfold shownRow announcedRow
      split
      next => exact place.key
      next => exact place.key
    rcases (mem_of_mem_update pinned.1 sameKey row).mp rowIn with isShown | ⟨old, different⟩
    · rw [isShown] at running ⊢
      unfold shownRow at running ⊢
      by_cases admitted : next.status = .running
      · rw [if_pos admitted]
        rw [admitted] at shift
        have ready : step.status = .ready := by
          generalize step.status = before at shift
          cases shift
          rfl
        exact regular.founded.resting step pinned.1 (Or.inr (Or.inl ready))
      · rw [if_neg admitted] at running
        exact absurd running admitted
    · exact absurd running (others row ⟨old, revision⟩ different)
  · intro other isOther succeeded
    rw [isAfter, Option.some.injEq] at isOther
    rw [← isOther, isStatus] at succeeded
    have goesOn := (fits_of_shift shift).2
    rw [succeeded] at goesOn
    contradiction

theorem sweptRow_finished {planRevision : Nat}
    (done : row.planRevision = planRevision → finished row.status = true) :
    sweptRow planRevision row = row := by
  unfold sweptRow
  split
  next picked =>
    exfalso
    have ended := done picked.1
    have open_ := picked.2
    revert ended open_
    cases row.status <;> simp [finished, cancellable]
  next => rfl

theorem state_of_flowClosed {before after : Option FlowRow} (closed : FlowClosed before after) :
    ∀ row, after = some row → ∃ old, before = some old ∧ row.state = old.state := by
  intro row isRow
  cases closed with
  | before _ _ same => exact ⟨row, same.symm.trans isRow, rfl⟩
  | now moved shown written =>
    rw [written, Option.some.injEq] at isRow
    subst isRow
    obtain ⟨source, isSource, -⟩ := moved.source
    exact ⟨source, isSource, (shown source isSource).1⟩

theorem state_of_sameShown (flowMoved : FlowMoved store.flow flowStatus currentStep flow)
    (state : ∀ before, store.flow = some before → flow.state = before.state) :
    ∀ after, some flow = some after → ∃ before, store.flow = some before ∧
      after.state = before.state := by
  intro after isAfter
  cases isAfter
  obtain ⟨source, isSource, -⟩ := flowMoved.source
  exact ⟨source, isSource, state source isSource⟩

theorem shown_of_move {deed : Deed} (regular : Regular store)
    (move : Move deed store reached) (shown : Shown store) : Shown reached := by
  have sameFlow : ∀ after, store.flow = some after → ∃ before, store.flow = some before ∧
      after.state = before.state := fun after isAfter => ⟨after, isAfter, rfl⟩
  have samePlans : ∀ execution, store.execution = some execution →
      planOf store.planRevisions execution.planRevision =
        planOf store.planRevisions execution.planRevision := fun _ _ => rfl
  cases move with
  | touched kept _ =>
    exact shown_of_kept shown rfl rfl sameFlow (sameGoal_of_kept kept) samePlans
  | closed _ kept _ _ =>
    exact shown_of_kept shown rfl rfl sameFlow (sameGoal_of_kept kept) samePlans
  | childMoved _ => exact shown_of_kept shown rfl rfl sameFlow ⟨rfl, rfl⟩ samePlans
  | asked flowMoved sameShown _ =>
    exact shown_of_kept shown rfl rfl
      (state_of_sameShown flowMoved fun before isBefore => (sameShown before isBefore).1)
      ⟨rfl, rfl⟩ samePlans
  | held _ _ flowMoved state =>
    exact shown_of_kept shown rfl rfl (state_of_sameShown flowMoved state) ⟨rfl, rfl⟩ samePlans
  | cut flowMoved sameShown =>
    exact shown_of_kept shown rfl rfl
      (state_of_sameShown flowMoved fun before isBefore => (sameShown before isBefore).1)
      ⟨rfl, rfl⟩ samePlans
  | revised _ same _ appended newest _ _ _ _ =>
    refine shown_of_kept shown rfl rfl sameFlow ⟨same.1, same.2.2⟩ ?_
    intro execution present
    apply planOf_appended appended
    intro row rowIn
    have known : execution.planRevision ≤ store.goal.planRevision :=
      (regular.founded.sound.settled execution present).pinnedKnown
    rw [newest row rowIn]
    omega
  | @started _ execution flow table first rest unstarted _ plan filled _ queued _ _ _ _ _ state =>
    have noRows : store.stepExecutions.rows = [] := regular.founded.sound.unstarted unstarted
    apply shown_of_written rfl rfl state
    · intro row rowPinned
      have rowIn : row ∈ table.rows := rowPinned.1
      rw [filled, noRows, List.nil_append, initialSteps_eq_readyFirst] at rowIn
      exact (launched_at_rest (fun _ => ⟨rfl, Or.inl rfl⟩) rowIn).2
    · intro succeeded
      rw [queued] at succeeded
      contradiction
  | shifted present pinned shift halted place _ _ _ flowMoved state kept _ _ =>
    exact shown_of_shifted regular present pinned shift halted place flowMoved kept rfl rfl rfl
      rfl rfl rfl rfl rfl state
  | @succeeded _ _ execution step done next flow present pinned running place isDone _ successor _
      flowMoved state _ _ =>
      have settled := regular.founded.sound.settled execution present
      have live := live_of_flow settled flowMoved pinned (Or.inr (Or.inl running))
      have engaged : Engaged step.status := by simp [Engaged, running, finished]
      have readiedIn : ∀ row, next = some row → row ∈ store.stepExecutions.rows :=
        fun row isNext => (successor row isNext).1.1
      refine shown_of_written rfl rfl ?_ ?_ ?_
      · rw [state]
        exact stateOf_congr ⟨rfl, rfl⟩ rfl rfl rfl rfl rfl
      · intro row rowPinned
        rcases mem_afterSuccess pinned.1 place.key readiedIn rowPinned.1 with
          isDoneRow | ⟨readied, -, isReadied⟩ | ⟨old, different⟩
        · rw [isDoneRow, isDone]
          simp
        · rw [isReadied]
          simp [readiedRow]
        · exact others_rest settled live pinned engaged ⟨old, rowPinned.2⟩ different
      · intro succeeded
        contradiction
  | @adopted _ goal _ execution flow table projected next present newer _ _ isProjected filled _ _
      state kept _ _ _ =>
      refine shown_of_written rfl rfl ?_ ?_ ?_
      · rw [state]
        symm
        exact stateOf_congr (sameGoal_of_kept kept) rfl rfl rfl rfl rfl
      · intro row rowPinned
        have rowIn : row ∈ table.rows := rowPinned.1
        have revision : row.planRevision = store.goal.planRevision := rowPinned.2
        rw [filled] at rowIn
        rcases List.mem_append.mp rowIn with old | new
        · exfalso
          have known := (regular.founded.sound.settled execution present).stepsKnown row old
          omega
        · rw [isProjected] at new
          exact (launched_at_rest (fun definition =>
            (projectedStep_projects _ definition).2.2.2) new).2
      · intro succeeded
        cases next <;> contradiction
  | @finished _ goal execution flow _ present allDone _ state kept _ _ =>
    refine shown_of_written rfl rfl ?_ ?_ ?_
    · rw [state]
      symm
      exact stateOf_congr (sameGoal_of_kept kept) rfl rfl rfl rfl rfl
    · intro row rowPinned running
      have done := allDone row rowPinned
      rw [running] at done
      contradiction
    · intro _
      exact allDone
  | failed _ flowMoved sameShown _ _ =>
    exact shown_of_broken shown rfl (fun unbroken => unbroken.1 rfl)
      (state_of_sameShown flowMoved fun before isBefore => (sameShown before isBefore).1)
  | @cancelled _ goal _ execution table flow present swept flowClosed kept _ _ =>
    by_cases succeeded : execution.status = .succeeded
    · -- a cancellation of a finished execution sweeps nothing
      have done := shown.done execution present succeeded
      have sameRows : table.rows = store.stepExecutions.rows := by
        rw [swept]
        calc store.stepExecutions.rows.map (sweptRow execution.planRevision)
            = store.stepExecutions.rows.map id := by
              apply List.map_congr_left
              intro row rowIn
              exact sweptRow_finished fun revision => done row ⟨rowIn, revision⟩
          _ = store.stepExecutions.rows := List.map_id _
      have sameExecution : cancelledExecution execution = execution := by
        unfold cancelledExecution
        rw [succeeded]
        rfl
      refine shown_of_kept shown ?_ sameRows (state_of_flowClosed flowClosed)
        (sameGoal_of_kept kept) samePlans
      rw [sameExecution, present]
    · refine shown_of_broken shown rfl ?_ (state_of_flowClosed flowClosed)
      rintro ⟨notFailed, notCancelled⟩
      unfold cancelledExecution at notFailed notCancelled
      split at notFailed
      next isOver =>
        rw [if_pos isOver] at notCancelled
        revert isOver succeeded notFailed notCancelled
        cases execution.status <;> simp [executionTerminal]
      next going =>
        rw [if_neg going] at notCancelled
        exact notCancelled rfl

theorem shown_of_created {world : World} (created : Created world store) : Shown store := by
  obtain ⟨input, before, ran⟩ := created
  obtain ⟨objective, planSteps, revisions, added, -, -, isStore⟩ :=
    create_writes world.texts input before () store rfl ran
  clear ran
  subst isStore
  constructor
  · intro execution flow present
    contradiction
  · intro flow isFlow
    contradiction
  · intro execution present
    contradiction

theorem unlike_of_running (regular : Regular store) (shown : Shown store)
    (isFlow : store.flow = some flow) (pinned : Pinned (viewOf store) execution row)
    (running : row.status = .running) :
    flow.state ≠ stateOf store.goal execution store.planRevisions store.stepExecutions := by
  intro same
  have rowIn := @showStep_in store.goal execution store.planRevisions store.stepExecutions row
    pinned.1 pinned.2
  rw [← same] at rowIn
  have untaken := shown.announced flow isFlow (showStep row) rowIn running
  obtain ⟨child, -, taken, -⟩ := regular.founded.admitted row pinned.1 running
  change row.currentTaskId = none at untaken
  rw [untaken] at taken
  contradiction

theorem flow_shows_rows_iff (world : World) (first : GoalStore) (calls : List GoalCall)
    (created : Created world first) (execution : ExecutionRow) (flow : FlowRow)
    (present : (reach world first calls).execution = some execution)
    (isFlow : (reach world first calls).flow = some flow)
    (unbroken : Unbroken execution.status) :
    flow.state = stateOf (reach world first calls).goal execution
        (reach world first calls).planRevisions (reach world first calls).stepExecutions ↔
      Idle (reach world first calls) execution := by
  have regular := regular_of_run world calls created
  have free : EveryStep (step world) (fun store call => Permitted Rules.free store call.op)
      first calls :=
    everyStep_of_forall _ (fun _ call => permitted_free call.op) first calls
  have shown : Shown (reach world first calls) :=
    run_preserves world (fun _ _ _ _ holds move => shown_of_move holds move) calls created
      (shown_of_created created) free
  constructor
  · intro same row pinned running
    exact unlike_of_running regular shown isFlow pinned running same
  · intro idle
    exact shown.state execution flow present isFlow unbroken idle

/-- The state of the flow after the first step was admitted, against its rows. -/
theorem sample_flow_unlike :
    Created sampleWorld (sampleCreated ["Draft"]) ∧
      reach sampleWorld (sampleCreated ["Draft"])
        [sampleCall (.start sampleOwner 1) (some "t1")] = sampleRunning ∧
      ∃ execution flow, sampleRunning.execution = some execution ∧
        sampleRunning.flow = some flow ∧ Unbroken execution.status ∧
        flow.state ≠ stateOf sampleRunning.goal execution sampleRunning.planRevisions
          sampleRunning.stepExecutions := by
  refine ⟨sample_created, sample_started, _, _, rfl, rfl, ⟨by simp, by simp⟩, ?_⟩
  decide +kernel

theorem sample_flow_shows :
    ¬ Idle sampleRunning
      { owner := sampleOwner
        planRevision := 1
        controllerId := "goal-plan-executor:g1"
        status := .running
        currentStepId := some "s1"
        revision := 2 } := by
  have shows := flow_shows_rows_iff sampleWorld (sampleCreated ["Draft"])
    [sampleCall (.start sampleOwner 1) (some "t1")] sample_created
  rw [sample_started] at shows
  rw [← shows _ _ rfl rfl ⟨by simp, by simp⟩]
  decide +kernel

end OpenRill.Goals.FlowState
