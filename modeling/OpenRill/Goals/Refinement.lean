import OpenRill.Goals.Footing
import OpenRill.Goals.Operations
import OpenRill.Goals.Projection
import OpenRill.Goals.Writes

/-!
# The transactions make moves

Every transaction of the executor and of its controller, from a ledger that it
finds, commits a move of that ledger.
-/

namespace OpenRill.Goals.Refinement

open Lib Lib.Transaction Ledger TaskFlows Executor PlanMachine Moves Footing Operations Projection
open Writes

variable {known : GoalStore} {execution : ExecutionRow} {step ready row next : StepExecutionRow}
variable {flow after : FlowRow} {stepId summary : String} {flowStatus : FlowStatus}
variable {currentStep : Option String} {child task : ChildRow} {children : Table ChildRow.taskId}

theorem executorRows_reads :
    Ensures (· = known) executorRows
      (fun rows reached => (∃ execution, known.execution = some execution ∧
        rows = rowsOf known execution ∧
        rows.planSteps.length = rows.stepExecutions.length) ∧ reached = known) := by
  apply ensures_read
  apply ensures_expect_then
  intro execution present
  apply ensures_demand_then
  intro complete
  apply ensures_return
  exact ⟨⟨execution, present, rfl, complete⟩, rfl⟩

theorem ownedRows_reads (caller : Owner) :
    Ensures (· = known) (ownedRows caller)
      (fun rows reached => (∃ execution, known.execution = some execution ∧
        rows = rowsOf known execution) ∧ reached = known) := by
  refine ensures_call executorRows_reads ?_
  rintro rows ⟨execution, present, isRows, -⟩
  apply ensures_demand_then
  intro _
  apply ensures_return
  exact ⟨⟨execution, present, isRows⟩, rfl⟩

theorem currentRows_reads (caller : Owner) (expectedRevision : Nat) :
    Ensures (· = known) (currentRows caller expectedRevision)
      (fun rows reached => (∃ execution, known.execution = some execution ∧
        rows = rowsOf known execution ∧ execution.revision = expectedRevision) ∧
        reached = known) := by
  refine ensures_call (ownedRows_reads caller) ?_
  rintro rows ⟨execution, present, rfl⟩
  apply ensures_demand_then
  intro sameRevision
  apply ensures_return
  exact ⟨⟨execution, present, rfl, sameRevision⟩, rfl⟩

theorem pinned_of_find {selected : StepExecutionRow → Bool}
    (found : (rowsOf known execution).stepExecutions.find? selected = some row) :
    Pinned (viewOf known) execution row :=
  (mem_stepsOf known.stepExecutions execution.planRevision row).mp (List.mem_of_find?_eq_some found)

theorem getStepExecution_of_pinned (pinned : Pinned (viewOf known) execution row) :
    known.getStepExecution row.stepId execution.planRevision = some row := by
  have found := known.stepExecutions.find_of_mem pinned.1
  rw [← pinned.2]
  exact found

theorem pinned_of_getStepExecution
    (found : known.getStepExecution stepId execution.planRevision = some row) :
    Pinned (viewOf known) execution row ∧ row.stepId = stepId := by
  obtain ⟨rowIn, rowKey⟩ := (known.stepExecutions.find_some_iff _ row).mp found
  exact ⟨⟨rowIn, congrArg Prod.fst rowKey⟩, congrArg Prod.snd rowKey⟩

theorem find_pinned (execution : ExecutionRow) (stepId : String) :
    (rowsOf known execution).stepExecutions.find? (fun step => step.stepId = stepId) =
      known.getStepExecution stepId execution.planRevision := by
  cases found : (rowsOf known execution).stepExecutions.find?
      (fun step => step.stepId = stepId) with
  | none =>
    cases looked : known.getStepExecution stepId execution.planRevision with
    | none => rfl
    | some step =>
      exfalso
      obtain ⟨pinned, isStep⟩ := pinned_of_getStepExecution looked
      rw [List.find?_eq_none] at found
      apply found step ((mem_stepsOf _ _ step).mpr pinned)
      simpa using isStep
  | some step =>
    have isStep : step.stepId = stepId := by simpa using List.find?_some found
    rw [← isStep]
    exact (getStepExecution_of_pinned (pinned_of_find found)).symm

theorem taskFree_of_admits (admits : admitsStepExecution known.stepExecutions row)
    (revision : Nat) :
    TaskFree known.stepExecutions { row with revision := revision } :=
  admits.1

theorem taskFree_of_none (none : row.currentTaskId = none) : TaskFree known.stepExecutions row := by
  intro taken
  exact absurd none taken

def Quiet (store : GoalStore) : Prop :=
  ∀ row ∈ store.stepExecutions.rows, row.status ≠ .running

theorem quiet_update (quiet : Quiet known) (pinned : Pinned (viewOf known) execution step)
    (sameKey : next.key = step.key) (still : next.status ≠ .running) :
    ∀ row ∈ (known.stepExecutions.update next).rows, row.status ≠ .running := by
  intro row rowIn
  rcases (mem_of_mem_update pinned.1 sameKey row).mp rowIn with isNext | ⟨old, -⟩
  · rw [isNext]
    exact still
  · exact quiet row old

theorem shownRow_of_idle (idle : next.status ≠ .running) : shownRow step next = next := by
  unfold shownRow
  rw [if_neg idle]

theorem wait_moves (founded : Founded known) (caller : Owner)
    (expectedExecutionRevision expectedFlowRevision : Nat) (reason : String) :
    Ensures (· = known) (wait caller expectedExecutionRevision expectedFlowRevision reason)
      (fun _ reached => Move .shift known reached) := by
  refine ensures_call (currentRows_reads caller expectedExecutionRevision) ?_
  rintro rows ⟨execution, present, rfl, -⟩
  apply ensures_expect_then
  intro target found
  have pinned := pinned_of_find found
  refine ensures_called (mutate_writes _ _) ?_
  rintro after _ ⟨⟨flow, mutated⟩, rfl⟩
  apply ensures_read
  refine ensures_found present ?_
  refine ensures_found (getStepExecution_of_pinned pinned) ?_
  apply ensures_demand_then
  rintro ⟨-, ready⟩
  refine ensures_called (updateStepExecution_writes _ _ _) ?_
  rintro updated _ ⟨-, -, -, rfl⟩
  refine ensures_result (updateExecution_writes _ _ _) ?_
  rintro _ _ ⟨-, rfl⟩
  have noTask : target.currentTaskId = none :=
    founded.resting target pinned.1 (Or.inr (Or.inl ready))
  refine @Move.shifted _ _ _ execution target _ .waiting .waiting _ _ _ present pinned
    ?_ ?_ ?_ ?_ ?_ ?_ (flowMoved_of_mutated mutated) ?_ ?_ ?_ ?_
  · rw [ready]
    exact Shift.waited
  · rw [ready]
    simp
  · exact ⟨rfl, rfl, rfl, by simp⟩
  · exact taskFree_of_none rfl
  · exact Tasked.freed (Or.inr rfl) rfl rfl
  · exact BlockersMoved.untouched (Or.inl ready) rfl
  · rw [state_of_mutated mutated rfl, shownRow_of_idle (by simp)]
    refine state_of_rewrite pinned.1 pinned.2 ?_ ?_ ?_ _ ?_
    · rfl
    · rfl
    · rfl
    · simp [showStep, noTask]
  · exact GoalKept.refl _
  · exact Iff.rfl
  · exact StepsKept.refl _

/-- What `reopenStep` writes: the step is ready, the execution queued at it. -/
structure Reopened (known : GoalStore) (execution : ExecutionRow) (step next : StepExecutionRow)
    (goal : GoalRow) (planSteps : Table PlanStepRow.stepId) : Prop where
  goalKept : GoalKept known.goal goal
  ending : SameEnd known.goal goal
  stepsKept : StepsKept known.planSteps planSteps
  place : SamePlace step next
  ready : next.status = .ready
  freed : next.currentTaskId = none
  shows : showStep next = showStep { step with status := .ready, currentTaskId := none }

theorem reopenStep_writes (execution : ExecutionRow) (step : StepExecutionRow)
    (reason : Option String) (during : String) :
    Ensures (· = known) (reopenStep execution step reason during)
      (fun _ reached => ∃ next goal planSteps,
        Reopened known execution step next goal planSteps ∧
        reached =
          { known with
            goal := goal
            planSteps := planSteps
            execution := some
              { execution with
                status := .queued
                currentStepId := some step.stepId
                revision := execution.revision + 1 }
            stepExecutions := known.stepExecutions.update next }) := by
  refine ensures_called (updateStepExecution_writes _ _ _) ?_
  rintro updated _ ⟨-, -, -, rfl⟩
  refine ensures_called (projectMutableStep_writes step.stepId execution _ _ _ ?_ ?_) ?_
  · intro row
    rfl
  · intro row selected completed
    rw [completed] at selected
    contradiction
  rintro _ _ ⟨planSteps, stepsKept, -, rfl⟩
  refine ensures_called (updateExecution_writes _ _ _) ?_
  rintro _ _ ⟨-, rfl⟩
  refine ensures_result (reactivateGoal_aside _ reason _ rfl) ?_
  rintro _ _ ⟨later, laterSteps, laterKept, laterEnding, laterStepsKept, rfl⟩
  refine ⟨_, later, laterSteps, ?_, rfl⟩
  exact
    { goalKept := laterKept
      ending := laterEnding
      stepsKept := stepsKept.trans laterStepsKept
      place := ⟨rfl, rfl, rfl, by simp⟩
      ready := rfl
      freed := rfl
      shows := rfl }

theorem move_of_reopened {goal : GoalRow} {planSteps : Table PlanStepRow.stepId}
    {blockers : Table BlockerRow.blockerId} (present : known.execution = some execution)
    (pinned : Pinned (viewOf known) execution step)
    (shift : Shift step.status .ready .queued .queued)
    (halted : step.status = .blocked ∨ step.status = .failed →
      execution.status = .blocked ∧ step.attemptCount < step.maxAttempts)
    (blockersMoved : BlockersMoved known.blockers blockers execution.planRevision step)
    (flowMoved : FlowMoved known.flow .queued (shownStep (some step.stepId)) flow)
    (shown : flow.state = projectedState known.goal
      { execution with status := .queued, currentStepId := some step.stepId }
      (rowsOf known execution).planSteps
      (rewriteStep step.stepId (fun row => { row with status := .ready, currentTaskId := none })
        (rowsOf known execution).stepExecutions))
    (reopened : Reopened known execution step next goal planSteps) :
    Move .shift known
      { known with
        goal := goal
        planSteps := planSteps
        execution := some
          { execution with
            status := .queued
            currentStepId := some step.stepId
            revision := execution.revision + 1 }
        stepExecutions := known.stepExecutions.update next
        flow := some flow
        blockers := blockers } := by
  refine @Move.shifted _ _ _ execution step _ .queued .queued _ _ _ present pinned
    ?_ halted reopened.place ?_ ?_ blockersMoved flowMoved ?_ reopened.goalKept
    reopened.ending reopened.stepsKept
  · rw [reopened.ready]
    exact shift
  · exact taskFree_of_none reopened.freed
  · exact Tasked.freed (Or.inl reopened.ready) reopened.freed rfl
  rw [shown, shownRow_of_idle (by rw [reopened.ready]; simp)]
  refine state_of_rewrite pinned.1 pinned.2 ?_ ?_ ?_ _ ?_
  · rfl
  · exact reopened.place.key
  · exact reopened.place.ordinal
  · exact reopened.shows.symm

theorem quiet_of_waiting (founded : Founded known) (present : known.execution = some execution)
    (pinned : Pinned (viewOf known) execution step) (waiting : step.status = .waiting)
    (flowMoved : FlowMoved known.flow flowStatus currentStep flow) : Quiet known := by
  have settled := founded.sound.settled execution present
  have live := live_of_flow settled flowMoved pinned (Or.inr (Or.inr waiting))
  have focus := focus_of_engaged settled live pinned (by simp [Engaged, waiting, finished])
  have fitting := focus.fitting
  apply none_running founded.sound present
  right
  rw [waiting] at fitting
  revert fitting
  cases execution.status <;> simp [fits]

theorem resumeWaiting_moves (founded : Founded known) (caller : Owner)
    (expectedExecutionRevision expectedFlowRevision : Nat) :
    Ensures (· = known)
      (resumeWaiting caller expectedExecutionRevision expectedFlowRevision)
      (fun _ reached => Move .shift known reached ∧ Quiet reached) := by
  refine ensures_call (currentRows_reads caller expectedExecutionRevision) ?_
  rintro rows ⟨execution, present, rfl, -⟩
  apply ensures_expect_then
  intro target found
  have pinned := pinned_of_find found
  have waiting : target.status = .waiting := by simpa using List.find?_some found
  refine ensures_called (mutate_writes _ _) ?_
  rintro after _ ⟨⟨flow, mutated⟩, rfl⟩
  apply ensures_read
  refine ensures_found present ?_
  refine ensures_found (getStepExecution_of_pinned pinned) ?_
  apply ensures_expect_then
  intro _ _
  apply ensures_demand_then
  intro _
  refine ensures_result (reopenStep_writes execution target none "resume") ?_
  rintro _ _ ⟨next, goal, planSteps, reopened, rfl⟩
  have flowMoved := flowMoved_of_mutated mutated
  constructor
  · apply move_of_reopened present pinned
    · rw [waiting]
      exact Shift.resumed
    · rw [waiting]
      simp
    · exact BlockersMoved.untouched (Or.inr waiting) rfl
    · exact flowMoved
    · exact state_of_mutated mutated rfl
    exact
      { goalKept := reopened.goalKept
        ending := reopened.ending
        stepsKept := reopened.stepsKept
        place := reopened.place
        ready := reopened.ready
        freed := reopened.freed
        shows := reopened.shows }
  · apply quiet_update (quiet_of_waiting founded present pinned waiting flowMoved) pinned
      reopened.place.key
    rw [reopened.ready]
    simp

theorem halted_of_resumable {requireFailed : Bool} {status : StepStatus}
    (isResumable : resumable requireFailed status = true) :
    status = .blocked ∨ status = .failed := by
  revert isResumable
  cases requireFailed <;> cases status <;> simp [resumable]

theorem resumeBlockedStep_moves (founded : Founded known) (caller : Owner) (input : Resolution)
    (requireFailed : Bool) :
    Ensures (· = known) (resumeBlockedStep caller input requireFailed)
      (fun _ reached => Move .shift known reached ∧ Quiet reached) := by
  refine ensures_call (currentRows_reads caller input.expectedExecutionRevision) ?_
  rintro rows ⟨execution, present, rfl, -⟩
  apply ensures_demand_then
  intro blocked
  apply ensures_demand_then
  intro _
  refine ensures_call (bounded_reads input.blockerId 256 _) ?_
  rintro _ ⟨rfl, -⟩
  apply ensures_read
  apply ensures_expect_then
  intro blocker foundBlocker
  apply ensures_demand_then
  rintro ⟨revision, -⟩
  apply ensures_expect_then
  intro target found
  have pinned := pinned_of_find found
  have ofStep : target.stepId = blocker.stepId := by simpa using List.find?_some found
  apply ensures_demand_then
  intro isResumable
  have halted := halted_of_resumable isResumable
  apply ensures_demand_then
  intro spare
  refine ensures_call (bounded_reads input.resolution 2000 _) ?_
  rintro resolution _
  refine ensures_call (bounded_reads input.resolvedBy 256 _) ?_
  rintro resolvedBy _
  refine ensures_called (mutate_writes _ _) ?_
  rintro after _ ⟨⟨flow, mutated⟩, rfl⟩
  apply ensures_read
  refine ensures_found present ?_
  refine ensures_found (getStepExecution_of_pinned pinned) ?_
  have blockerIn := known.blockers.mem_of_find foundBlocker
  refine ensures_found (known.blockers.find_of_mem blockerIn) ?_
  apply ensures_demand_then
  intro _
  refine ensures_called
    (closeBlocker_writes resolvedBy resolution _ blockerIn revision ofStep.symm halted) ?_
  rintro _ _ ⟨blockers, blockersMoved, rfl⟩
  refine ensures_result (reopenStep_writes execution target (some resolution) _) ?_
  rintro _ _ ⟨next, goal, planSteps, reopened, rfl⟩
  constructor
  · apply move_of_reopened present pinned
    · rcases halted with wasBlocked | wasFailed
      · rw [wasBlocked]
        exact Shift.unblocked
      · rw [wasFailed]
        exact Shift.retried
    · intro _
      exact ⟨blocked, spare⟩
    · exact blockersMoved
    · exact flowMoved_of_mutated mutated
    · exact state_of_mutated mutated rfl
    · exact
        { goalKept := reopened.goalKept
          ending := reopened.ending
          stepsKept := reopened.stepsKept
          place := reopened.place
          ready := reopened.ready
          freed := reopened.freed
          shows := reopened.shows }
  · apply quiet_update (none_running founded.sound present (Or.inl blocked)) pinned
      reopened.place.key
    rw [reopened.ready]
    simp

theorem assertRequested_reads {expected : ChildRequest} (requested : Option ChildRequest) :
    Ensures (· = known) (assertRequested flow expected ready requested)
      (fun _ reached => reached = known) := by
  cases requested with
  | none => exact ensures_return _ rfl
  | some request =>
    exact ensures_mono (ensures_demand _ _) (fun _ isKnown => isKnown) fun _ _ facts => facts.1

theorem startPlanStep_aside {planStep : PlanStepRow} {condition : Prop} [Decidable condition]
    {failure : GoalFailure} (found : known.getStep stepId = some planStep)
    (unfinished : condition → planStep.status ≠ .completed) :
    Ensures (· = known)
      (whenever condition (do
        let _ ← updateStep planStep.revision { planStep with status := .inProgress } failure
        pure ()))
      (fun _ reached => Aside known reached) := by
  have isKey : planStep.stepId = stepId := known.planSteps.key_of_find found
  have present : known.getStep { planStep with status := .inProgress }.stepId = some planStep := by
    rw [isKey]
    exact found
  apply ensures_whenever
  · intro holds
    refine ensures_called (updateStep_aside planStep.revision failure present ?_) ?_
    · intro completed
      exact absurd completed (unfinished holds)
    · intro _ _ aside
      exact ensures_return () aside
  · intro _ state isKnown
    rw [isKnown]
    exact aside_refl

theorem recordAdmission_writes {rows : ExecutorRows} (taskId : String) :
    Ensures (· = known) (recordAdmission rows ready execution step taskId)
      (fun _ reached => step.status = .ready ∧ ∃ goal planSteps,
        GoalKept known.goal goal ∧ SameEnd known.goal goal ∧
        StepsKept known.planSteps planSteps ∧
        TaskFree known.stepExecutions
          { step with
            status := .running
            currentTaskId := some taskId
            attemptCount := step.attemptCount + 1
            lastTerminalOutcome := none
            lastSummary := none
            lastRetryReason := none
            revision := step.revision + 1 } ∧
        reached =
          { known with
            goal := goal
            planSteps := planSteps
            execution := some
              { execution with
                status := .running
                currentStepId := some step.stepId
                revision := execution.revision + 1 }
            stepExecutions := known.stepExecutions.update
              { step with
                status := .running
                currentTaskId := some taskId
                attemptCount := step.attemptCount + 1
                lastTerminalOutcome := none
                lastSummary := none
                lastRetryReason := none
                revision := step.revision + 1 } }) := by
  apply ensures_read
  apply ensures_demand_then
  rintro ⟨-, -, isReady⟩
  apply ensures_demand_then
  intro _
  refine ensures_called (updateStepExecution_writes _ _ _) ?_
  rintro updated _ ⟨-, admits, -, rfl⟩
  apply ensures_expect_then
  intro planStep foundPlan
  refine ensures_called (startPlanStep_aside foundPlan ?_) ?_
  · rintro ⟨-, status⟩ completed
    rw [completed] at status
    simp at status
  · rintro _ _ ⟨goal, planSteps, goalKept, ending, stepsKept, rfl⟩
    refine ensures_result (updateExecution_writes _ _ _) ?_
    rintro _ _ ⟨-, rfl⟩
    exact ⟨isReady, goal, planSteps, goalKept, ending, stepsKept,
      taskFree_of_admits admits (step.revision + 1), rfl⟩

theorem flowMoved_of_childAdmitted {binding : Binding} {request : ChildRequest}
    (admitted : ChildAdmitted known binding request child children flow after) :
    FlowMoved known.flow .running (shownStep (some request.stepKey)) after where
  source := ⟨flow, admitted.present, admitted.active, admitted.kept.1, admitted.kept.2,
    admitted.revision⟩
  reached := admitted.status
  standsAt := admitted.step

theorem admitReady_moves (present : known.execution = some execution)
    (requested : Option ChildRequest) (sent : Option String) :
    Ensures (· = known) (admitReady (rowsOf known execution) requested sent)
      (fun _ reached => Move .shift known reached) := by
  apply ensures_expect_then
  intro ready found
  have pinned := pinned_of_find found
  have isReady : ready.status = .ready := by simpa using List.find?_some found
  apply ensures_demand_then
  intro _
  apply ensures_expect_then
  intro plan _
  refine ensures_call (controlled_reads _) ?_
  intro flowBefore _
  refine ensures_called (assertRequested_reads requested) ?_
  rintro _ _ rfl
  refine ensures_called (runTask_writes _ _ sent) ?_
  rintro admitted _ (⟨replayed, rfl⟩ | ⟨fresh, -, children, flow, after, childAdmitted, rfl⟩)
  · unfold projectAdmission
    apply ensures_read
    apply ensures_expect_then
    intro durable _
    refine ensures_found (getStepExecution_of_pinned pinned) ?_
    rw [if_pos replayed]
    refine ensures_mono (ensures_demand _ _) (fun _ isKnown => isKnown) ?_
    rintro _ _ ⟨-, -, running⟩
    rw [isReady] at running
    contradiction
  · unfold projectAdmission
    apply ensures_read
    refine ensures_found present ?_
    refine ensures_found (getStepExecution_of_pinned pinned) ?_
    rw [if_neg (by simp [fresh])]
    refine ensures_result (recordAdmission_writes admitted.child.taskId) ?_
    rintro _ _ ⟨-, goal, planSteps, goalKept, ending, stepsKept, taskFree, rfl⟩
    have flowMoved := flowMoved_of_childAdmitted childAdmitted
    refine @Move.shifted _ _ _ execution ready _ .running .running _ _ _ present pinned
      ?_ ?_ ?_ taskFree ?_ ?_ flowMoved ?_ goalKept ending stepsKept
    · rw [isReady]
      exact Shift.admitted
    · rw [isReady]
      simp
    · exact ⟨rfl, rfl, rfl, by simp⟩
    · apply Tasked.admitted
      · rfl
      · rfl
      · exact childAdmitted.linked
      · exact childAdmitted.stepKey
      · rw [pinned.2]
        exact childAdmitted.requested
    · exact BlockersMoved.untouched (Or.inl isReady) rfl
    · rw [childAdmitted.state]
      refine state_of_rewrite pinned.1 pinned.2 ?_ ?_ ?_ _ ?_
      · rfl
      · rfl
      · rfl
      · rfl

def snapshotOf (store : GoalStore) (execution : ExecutionRow) (task : ChildRow)
    (step : StepExecutionRow) : TerminalSnapshot where
  goal := store.goal
  execution := execution
  task := task
  stepExecution := step
  planSteps := planOf store.planRevisions execution.planRevision
  stepExecutions := stepsOf store.stepExecutions execution.planRevision

/-- What a terminal snapshot was taken of. -/
structure Snapped (store : GoalStore) (taskId : String) (execution : ExecutionRow)
    (task : ChildRow) (step : StepExecutionRow) : Prop where
  present : store.execution = some execution
  stepIn : step ∈ store.stepExecutions.rows
  taken : step.currentTaskId = some taskId
  taskIn : task ∈ store.children.rows
  isTask : task.taskId = taskId

theorem terminalSnapshot_reads (taskId : String) :
    Ensures (· = known) (terminalSnapshot taskId)
      (fun found reached => (∀ snapshot, found = some snapshot →
        ∃ execution task step, Snapped known taskId execution task step ∧
          snapshot = snapshotOf known execution task step) ∧ reached = known) := by
  apply ensures_read
  split
  next =>
    apply ensures_return
    simp
  next step found =>
    apply ensures_expect_then
    intro execution present
    apply ensures_expect_then
    intro task foundTask
    apply ensures_return
    refine ⟨?_, rfl⟩
    rintro snapshot isSnapshot
    cases isSnapshot
    refine ⟨execution, task, step, ?_, rfl⟩
    exact
      { present := present
        stepIn := List.mem_of_find?_eq_some found
        taken := by simpa using List.find?_some found
        taskIn := known.children.mem_of_find foundTask
        isTask := known.children.key_of_find foundTask }

def doneRow (step : StepExecutionRow) (summary : String) : StepExecutionRow :=
  { step with
    status := .succeeded
    lastTerminalOutcome := some .succeeded
    lastSummary := some summary
    revision := step.revision + 1 }

theorem pinned_unique (pinned : Pinned (viewOf known) execution step)
    (rowPinned : Pinned (viewOf known) execution row) (same : row.stepId = step.stepId) :
    row = step := by
  apply known.stepExecutions.row_unique rowPinned.1 pinned.1
  simp [StepExecutionRow.key, pinned.2, rowPinned.2, same]

theorem behind_running (founded : Founded known) (present : known.execution = some execution)
    (pinned : Pinned (viewOf known) execution step) (running : step.status = .running)
    (flowMoved : FlowMoved known.flow flowStatus currentStep flow) :
    ∀ row, Pinned (viewOf known) execution row → row = step ∨ Behind step row := by
  have settled := founded.sound.settled execution present
  have live := live_of_flow settled flowMoved pinned (Or.inr (Or.inl running))
  have focus := focus_of_engaged settled live pinned (by simp [Engaged, running, finished])
  exact focus.behind

/-- The step that comes after a success: the one with the next ordinal, if it waits
for its turn. -/
def Follows (store : GoalStore) (execution : ExecutionRow) (step row : StepExecutionRow) : Prop :=
  Pinned (viewOf store) execution row ∧ row.status = .pending ∧ row.ordinal = step.ordinal + 1

theorem follows_of_ready
    (behind : ∀ row, Pinned (viewOf known) execution row → row = step ∨ Behind step row)
    (running : step.status = .running)
    (found : (stepsAfterSuccess (snapshotOf known execution task step) summary).find?
      (fun row => row.status = .ready) = some ready) :
    ∃ row, Follows known execution step row ∧ ready.stepId = row.stepId := by
  have isReady : ready.status = .ready := by simpa using List.find?_some found
  obtain ⟨source, sourceIn, shape⟩ := List.mem_map.mp (List.mem_of_find?_eq_some found)
  have pinned := (mem_stepsOf known.stepExecutions execution.planRevision source).mp sourceIn
  split at shape
  next =>
    rw [← shape] at isReady
    contradiction
  next =>
    split at shape
    next follows =>
      refine ⟨source, ⟨pinned, follows⟩, ?_⟩
      rw [← shape]
    next =>
      exfalso
      rw [← shape] at isReady
      rcases behind source pinned with same | waits | done
      · rw [same, running] at isReady
        contradiction
      · rw [isReady] at waits
        exact absurd waits.1 (by simp)
      · rw [isReady] at done
        contradiction

theorem none_follows (pinned : Pinned (viewOf known) execution step)
    (running : step.status = .running)
    (missed : (stepsAfterSuccess (snapshotOf known execution task step) summary).find?
      (fun row => row.status = .ready) = none) : ∀ row, ¬ Follows known execution step row := by
  rintro row ⟨rowPinned, follows⟩
  have different : row.stepId ≠ step.stepId := by
    intro same
    have isStep := pinned_unique pinned rowPinned same
    rw [isStep, running] at follows
    exact absurd follows.1 (by simp)
  have rowIn := (mem_stepsOf known.stepExecutions execution.planRevision row).mpr rowPinned
  have readied : { row with status := .ready } ∈
      stepsAfterSuccess (snapshotOf known execution task step) summary := by
    apply List.mem_map.mpr
    refine ⟨row, rowIn, ?_⟩
    simp [snapshotOf, different, follows.1, follows.2]
  rw [List.find?_eq_none] at missed
  have notReady := missed _ readied
  simp at notReady

theorem shown_afterSuccess (founded : Founded known) {next : Option StepExecutionRow}
    (pinned : Pinned (viewOf known) execution step) (running : step.status = .running)
    (follows : ∀ row, next = some row → Follows known execution step row)
    (missed : next = none → ∀ row, ¬ Follows known execution step row) :
    (stepsAfterSuccess (snapshotOf known execution task step) summary).map showStep =
      (stepsOf (afterSuccess known.stepExecutions (doneRow step summary) next)
        execution.planRevision).map showStep := by
  have firstSteps : stepsOf (known.stepExecutions.update (doneRow step summary))
      execution.planRevision =
      (stepsOf known.stepExecutions execution.planRevision).map
        (fun row => if row.stepId = step.stepId then doneRow step summary else row) := by
    rw [← pinned.2]
    exact stepsOf_update pinned.1 rfl rfl
  -- what either side shows of a row that does not follow
  have others : ∀ row ∈ stepsOf known.stepExecutions execution.planRevision,
      ¬ Follows known execution step row →
      showStep
        (if row.stepId = step.stepId then
          { row with
            status := .succeeded
            lastTerminalOutcome := some .succeeded
            lastSummary := some summary }
        else if row.status = .pending ∧ row.ordinal = step.ordinal + 1 then
          { row with status := .ready }
        else row) =
      showStep (if row.stepId = step.stepId then doneRow step summary else row) := by
    intro row rowIn notNext
    have rowPinned := (mem_stepsOf known.stepExecutions execution.planRevision row).mp rowIn
    by_cases isStep : row.stepId = step.stepId
    · rw [if_pos isStep, if_pos isStep, pinned_unique pinned rowPinned isStep]
      rfl
    · rw [if_neg isStep, if_neg isStep, if_neg fun picked => notNext ⟨rowPinned, picked⟩]
  unfold stepsAfterSuccess snapshotOf
  rw [List.map_map]
  cases next with
  | none =>
    unfold afterSuccess
    rw [firstSteps, List.map_map]
    apply List.map_congr_left
    intro row rowIn
    exact others row rowIn (missed rfl row)
  | some readied =>
    obtain ⟨readiedPinned, pending, ordinal⟩ := follows readied rfl
    have different : readied.stepId ≠ step.stepId := by
      intro same
      rw [pinned_unique pinned readiedPinned same, running] at pending
      contradiction
    have readiedIn : readied ∈ (known.stepExecutions.update (doneRow step summary)).rows := by
      have sameKey : (doneRow step summary).key = step.key := rfl
      apply (mem_of_mem_update pinned.1 sameKey readied).mpr
      right
      refine ⟨readiedPinned.1, ?_⟩
      intro sameKey
      exact different (stepId_of_key sameKey)
    have secondSteps : stepsOf ((known.stepExecutions.update (doneRow step summary)).update
        (readiedRow readied)) execution.planRevision =
        (stepsOf (known.stepExecutions.update (doneRow step summary))
          execution.planRevision).map
          (fun row => if row.stepId = readied.stepId then readiedRow readied else row) := by
      rw [← readiedPinned.2]
      exact stepsOf_update readiedIn rfl rfl
    unfold afterSuccess
    rw [secondSteps, firstSteps, List.map_map, List.map_map]
    apply List.map_congr_left
    intro row rowIn
    have rowPinned := (mem_stepsOf known.stepExecutions execution.planRevision row).mp rowIn
    by_cases isReadied : row.stepId = readied.stepId
    · have sameRow := pinned_unique readiedPinned rowPinned isReadied
      have noTask := founded.resting readied readiedPinned.1 (Or.inl pending)
      subst sameRow
      simp only [Function.comp_apply, if_neg different, if_pos, if_pos (And.intro pending ordinal)]
      simp [showStep, readiedRow, noTask]
    · have notNext : ¬ Follows known execution step row := by
        rintro ⟨-, -, sameOrdinal⟩
        apply isReadied
        apply stepId_of_key
        exact founded.sound.placesDistinct row rowPinned.1 readied readiedPinned.1
          (rowPinned.2.trans readiedPinned.2.symm) (sameOrdinal.trans ordinal.symm)
      have shown := others row rowIn notNext
      simp only [Function.comp_apply]
      rw [shown]
      by_cases isStep : row.stepId = step.stepId
      · rw [if_pos isStep, if_neg]
        exact fun same => different same.symm
      · rw [if_neg isStep, if_neg isReadied]

theorem readyNext_writes (execution : ExecutionRow) (nextStepId : Option String) :
    Ensures (· = known) (readyNext execution nextStepId)
      (fun _ reached => (nextStepId = none ∧ reached = known) ∨
        ∃ row, nextStepId = some row.stepId ∧ Pinned (viewOf known) execution row ∧
          row.status = .pending ∧
          reached =
            { known with
              stepExecutions := known.stepExecutions.update (readiedRow row) }) := by
  cases nextStepId with
  | none => exact ensures_return _ (Or.inl ⟨rfl, rfl⟩)
  | some stepId =>
    apply ensures_read
    apply ensures_expect_then
    intro row found
    obtain ⟨pinned, isStep⟩ := pinned_of_getStepExecution found
    apply ensures_demand_then
    intro pending
    refine ensures_called (updateStepExecution_writes _ _ _) ?_
    rintro updated _ ⟨-, -, -, rfl⟩
    apply ensures_return
    right
    exact ⟨row, by rw [isStep], pinned, pending, rfl⟩

theorem applySucceededStep_writes {nextStepId : Option String}
    (present : known.execution = some execution) (pinned : Pinned (viewOf known) execution step) :
    Ensures (· = known)
      (applySucceededStep (snapshotOf known execution task step) nextStepId summary)
      (fun _ reached => ∃ planSteps next, StepsKept known.planSteps planSteps ∧
        (execution.planRevision = known.goal.planRevision → Completed planSteps step.stepId) ∧
        nextStepId = next.map StepExecutionRow.stepId ∧
        (∀ row, next = some row → Pinned (viewOf known) execution row ∧ row.status = .pending) ∧
        reached =
          { known with
            planSteps := planSteps
            execution := some
              { execution with
                status := .running
                currentStepId := next.map StepExecutionRow.stepId
                revision := execution.revision + 1 }
            stepExecutions := afterSuccess known.stepExecutions (doneRow step summary) next }) := by
  have currentStep : known.getStepExecution step.stepId execution.planRevision = some step :=
    getStepExecution_of_pinned pinned
  apply ensures_read
  refine ensures_found currentStep ?_
  refine ensures_found present ?_
  apply ensures_demand_then
  intro _
  refine ensures_called (updateStepExecution_writes _ _ _) ?_
  rintro updated _ ⟨-, -, -, rfl⟩
  apply ensures_demand_then
  intro planPresent
  refine ensures_called (projectMutableStep_writes step.stepId execution _ _ _ ?_ ?_) ?_
  · intro row
    rfl
  · intro row _ _
    rfl
  rintro _ _ ⟨planSteps, stepsKept, mirrored, rfl⟩
  have completed : execution.planRevision = known.goal.planRevision →
      Completed planSteps step.stepId := by
    intro current
    have canProject : canProjectMutablePlanStep known execution step.stepId = true := by
      unfold canProjectMutablePlanStep
      rw [if_pos current]
    exact mirrored canProject (fun _ => ⟨rfl, rfl⟩) (planPresent canProject)
  refine ensures_called (readyNext_writes execution nextStepId) ?_
  rintro _ _ (⟨noNext, rfl⟩ | ⟨row, isNext, rowPinned, pending, rfl⟩)
  · refine ensures_result (updateExecution_writes _ _ _) ?_
    rintro _ _ ⟨-, rfl⟩
    subst noNext
    refine ⟨planSteps, none, stepsKept, completed, rfl, ?_, rfl⟩
    intro row isRow
    contradiction
  · refine ensures_result (updateExecution_writes _ _ _) ?_
    rintro _ _ ⟨-, rfl⟩
    subst isNext
    refine ⟨planSteps, some row, stepsKept, completed, rfl, ?_, rfl⟩
    intro readied isReadied
    cases isReadied
    have sameKey : (doneRow step summary).key = step.key := rfl
    rcases (mem_of_mem_update pinned.1 sameKey row).mp rowPinned.1 with isDone | ⟨old, -⟩
    · rw [isDone] at pending
      contradiction
    · exact ⟨⟨old, rowPinned.2⟩, pending⟩

theorem reconcileSuccess_moves (founded : Founded known)
    (present : known.execution = some execution) (pinned : Pinned (viewOf known) execution step)
    (running : step.status = .running) :
    Ensures (· = known) (reconcileSuccess (snapshotOf known execution task step))
      (fun _ reached => Move (.succeed step) known reached ∧ Quiet reached) := by
  refine ensures_call (controlled_reads _) ?_
  intro flowBefore _
  refine ensures_called (mutate_writes _ _) ?_
  rintro after _ ⟨⟨flow, mutated⟩, rfl⟩
  refine ensures_result (applySucceededStep_writes present pinned) ?_
  rintro _ _ ⟨planSteps, next, stepsKept, mirrored, isNext, nextPinned, rfl⟩
  have flowMoved := flowMoved_of_mutated mutated
  have behind := behind_running founded present pinned running flowMoved
  have follows : ∀ row, next = some row → Follows known execution step row := by
    intro row isRow
    subst isRow
    obtain ⟨rowPinned, pending⟩ := nextPinned row rfl
    obtain ⟨ready, found, isReady⟩ := Option.map_eq_some_iff.mp isNext
    obtain ⟨source, sourceFollows, sameId⟩ := follows_of_ready behind running found
    have isSource : row = source := by
      apply pinned_unique sourceFollows.1 rowPinned
      rw [← isReady, sameId]
    rw [isSource]
    exact sourceFollows
  have missed : next = none → ∀ row, ¬ Follows known execution step row := by
    intro noNext
    subst noNext
    exact none_follows pinned running (Option.map_eq_none_iff.mp isNext)
  constructor
  · refine @Move.succeeded _ planSteps execution step (doneRow step (terminalSummary task)) next
      after present pinned running ?_ rfl rfl follows ?_ ?_ ?_ stepsKept mirrored
    · exact ⟨rfl, rfl, rfl, by simp [doneRow]⟩
    · intro noNext row rowPinned picked
      exact missed noNext row ⟨rowPinned, picked⟩
    · rw [← isNext]
      exact flowMoved
    · rw [state_of_mutated mutated rfl, isNext]
      apply projectedState_congr ⟨rfl, rfl⟩ rfl rfl rfl
      exact shown_afterSuccess founded pinned running follows missed
  · intro row rowIn isRunning
    have sameKey : (doneRow step (terminalSummary task)).key = step.key := rfl
    have nextIn : ∀ row, next = some row → row ∈ known.stepExecutions.rows :=
      fun row isRow => (follows row isRow).1.1
    rcases mem_afterSuccess pinned.1 sameKey nextIn rowIn with
      isDone | ⟨readied, -, isReadied⟩ | ⟨old, different⟩
    · rw [isDone] at isRunning
      contradiction
    · rw [isReadied] at isRunning
      contradiction
    have settled := founded.sound.settled execution present
    rcases behind row ⟨old, settled.runningPinned row old isRunning⟩ with same | waits | done
    · exact different (congrArg StepExecutionRow.key same)
    · rw [isRunning] at waits
      exact absurd waits.1 (by simp)
    · rw [isRunning] at done
      contradiction

variable {blockerId : String} {stop : Stop}

/-- A stop leaves its step blocked or failed, and no plan step that is done undone. -/
structure Stopping (stop : Stop) : Prop where
  status : stop.status = .blocked ∨ stop.status = .failed
  spares : stop.mirrors .completed = false

theorem blockedStop_stopping (task : ChildRow) : Stopping (blockedStop task) :=
  ⟨Or.inl rfl, rfl⟩

theorem failedStop_stopping (task : ChildRow) : Stopping (failedStop task) :=
  ⟨Or.inr rfl, rfl⟩

def stoppedRow (step : StepExecutionRow) (stop : Stop) (summary : String) : StepExecutionRow :=
  { step with
    status := stop.status
    lastTerminalOutcome := stop.outcome
    lastSummary := some summary
    revision := step.revision + 1 }

theorem applyStoppedStep_writes (host : Host) (fits : idFits blockerId = true)
    (stopping : Stopping stop) (present : known.execution = some execution)
    (pinned : Pinned (viewOf known) execution step) (running : step.status = .running) :
    Ensures (· = known)
      (applyStoppedStep host blockerId (snapshotOf known execution task step) stop summary)
      (fun _ reached => ∃ goal planSteps blockers, GoalKept known.goal goal ∧
        SameEnd known.goal goal ∧ StepsKept known.planSteps planSteps ∧
        BlockersMoved known.blockers blockers execution.planRevision step ∧
        reached =
          { known with
            goal := goal
            planSteps := planSteps
            execution := some
              { execution with
                status := .blocked
                currentStepId := some step.stepId
                revision := execution.revision + 1 }
            stepExecutions := known.stepExecutions.update (stoppedRow step stop summary)
            blockers := blockers }) := by
  have currentStep : known.getStepExecution step.stepId execution.planRevision = some step :=
    getStepExecution_of_pinned pinned
  apply ensures_read
  refine ensures_found currentStep ?_
  refine ensures_found present ?_
  apply ensures_expect_then
  intro _ _
  refine ensures_called (updateStepExecution_writes _ _ _) ?_
  rintro updated _ ⟨-, -, -, rfl⟩
  refine ensures_called (projectMutableStep_writes step.stepId execution _ _ _ ?_ ?_) ?_
  · intro row
    rfl
  · intro row mirrored completed
    rw [completed, stopping.spares] at mirrored
    contradiction
  rintro _ _ ⟨planSteps, stepsKept, -, rfl⟩
  refine ensures_called (updateExecution_writes _ _ _) ?_
  rintro _ _ ⟨-, rfl⟩
  refine ensures_called
    (recordBlocker_writes host blockerId execution step _ _ summary _ fits running) ?_
  rintro blocker _ ⟨blockers, blockersMoved, rfl⟩
  refine ensures_result (blockGoal_aside blocker summary _) ?_
  rintro _ _ ⟨goal, laterSteps, goalKept, ending, laterStepsKept, rfl⟩
  exact ⟨goal, laterSteps, blockers, goalKept, ending, stepsKept.trans laterStepsKept,
    blockersMoved, rfl⟩

theorem reconcileStop_moves (founded : Founded known) (host : Host) (fits : idFits blockerId = true)
    (stopping : Stopping stop) (present : known.execution = some execution)
    (pinned : Pinned (viewOf known) execution step) (running : step.status = .running) :
    Ensures (· = known)
      (reconcileStop host blockerId (snapshotOf known execution task step) stop)
      (fun _ reached => Move .shift known reached ∧ Quiet reached) := by
  refine ensures_call (controlled_reads _) ?_
  intro flowBefore _
  refine ensures_called (mutate_writes _ _) ?_
  rintro after _ ⟨⟨flow, mutated⟩, rfl⟩
  refine ensures_result (applyStoppedStep_writes host fits stopping present pinned running) ?_
  rintro _ _ ⟨goal, planSteps, blockers, goalKept, ending, stepsKept, blockersMoved, rfl⟩
  have flowMoved := flowMoved_of_mutated mutated
  have still : (stoppedRow step stop (terminalSummary task)).status ≠ .running := by
    rcases stopping.status with blocked | failed
    · simp [stoppedRow, blocked]
    · simp [stoppedRow, failed]
  constructor
  · refine @Move.shifted _ _ _ execution step (stoppedRow step stop (terminalSummary task))
      .blocked .blocked _ _ _ present pinned ?_ ?_ ?_ ?_ ?_ blockersMoved flowMoved ?_ goalKept
      ending stepsKept
    · rw [running]
      rcases stopping.status with blocked | failed
      · simp only [stoppedRow, blocked]
        exact Shift.blocked
      · simp only [stoppedRow, failed]
        exact Shift.failed
    · rw [running]
      simp
    · refine ⟨rfl, rfl, rfl, ?_⟩
      rw [if_neg still]
      rfl
    · exact taskFree_of_same founded.sound.tasksDistinct pinned.1 rfl rfl
    · exact Tasked.stopped stopping.status rfl rfl
    · rw [state_of_mutated mutated rfl, shownRow_of_idle still]
      refine state_of_rewrite pinned.1 pinned.2 ?_ ?_ ?_ _ ?_
      · rfl
      · rfl
      · rfl
      · rfl
  · have behind := behind_running founded present pinned running flowMoved
    intro row rowIn isRunning
    have sameKey : (stoppedRow step stop (terminalSummary task)).key = step.key := rfl
    rcases (mem_of_mem_update pinned.1 sameKey row).mp rowIn with isStopped | ⟨old, different⟩
    · rw [isStopped] at isRunning
      exact still isRunning
    have settled := founded.sound.settled execution present
    rcases behind row ⟨old, settled.runningPinned row old isRunning⟩ with same | waits | done
    · exact different (congrArg StepExecutionRow.key same)
    · rw [isRunning] at waits
      exact absurd waits.1 (by simp)
    · rw [isRunning] at done
      contradiction

theorem finish_moves (caller : Owner) (expectedExecutionRevision expectedFlowRevision : Nat) :
    Ensures (· = known) (finish caller expectedExecutionRevision expectedFlowRevision)
      (fun _ reached => Move .finish known reached) := by
  refine ensures_call (currentRows_reads caller expectedExecutionRevision) ?_
  rintro rows ⟨execution, present, rfl, isExpected⟩
  apply ensures_demand_then
  intro allDone
  refine ensures_called (mutate_writes _ _) ?_
  rintro after _ ⟨⟨flow, mutated⟩, rfl⟩
  refine ensures_called (updateExecution_writes _ _ _) ?_
  rintro _ _ ⟨-, rfl⟩
  apply ensures_read
  apply ensures_demand_then
  intro active
  refine ensures_called (updateGoal_writes _ _ _) ?_
  rintro updated _ ⟨-, -, rfl⟩
  apply ensures_return
  subst isExpected
  refine @Move.finished _ _ execution _ _ present ?_ (flowMoved_of_mutated mutated) ?_ ?_ active rfl
  · intro row pinned
    exact allDone row ((mem_stepsOf known.stepExecutions execution.planRevision row).mpr pinned)
  · exact state_of_mutated mutated rfl
  · exact ⟨rfl, rfl, rfl, rfl⟩

theorem failExecution_moves (caller : Owner)
    (expectedExecutionRevision expectedFlowRevision : Nat) (summary : String) :
    Ensures (· = known)
      (failExecution caller expectedExecutionRevision expectedFlowRevision summary)
      (fun _ reached => Move .fail known reached) := by
  refine ensures_call (ownedRows_reads caller) ?_
  rintro rows ⟨execution, present, rfl⟩
  refine ensures_call (bounded_reads summary 2000 _) ?_
  rintro reason _
  refine ensures_called (mutate_writes _ _) ?_
  rintro after _ ⟨⟨flow, mutated⟩, rfl⟩
  apply ensures_read
  refine ensures_found present ?_
  apply ensures_demand_then
  intro _
  refine ensures_called (updateExecution_writes _ _ _) ?_
  rintro _ _ ⟨-, rfl⟩
  have flowMoved := flowMoved_of_mutated mutated
  have shown := sameShown_of_mutated mutated rfl rfl
  apply ensures_whenever
  · intro active
    refine ensures_called (updateGoal_writes _ _ _) ?_
    rintro updated _ ⟨-, -, rfl⟩
    apply ensures_return
    refine @Move.failed _ _ execution _ _ present flowMoved shown ⟨rfl, rfl, rfl, rfl⟩ ?_
    constructor
    · intro completed
      contradiction
    · intro completed
      rw [completed] at active
      contradiction
  · intro _ state isKnown
    rw [isKnown]
    exact @Move.failed _ _ execution _ _ present flowMoved shown (GoalKept.refl _) Iff.rfl

theorem rowsOfFlow_reads :
    Ensures (· = known) rowsOfFlow
      (fun rows reached => (∃ execution, known.execution = some execution ∧
        rows = rowsOf known execution) ∧ reached = known) := by
  refine ensures_call executorRows_reads ?_
  rintro rows ⟨execution, present, isRows, -⟩
  apply ensures_demand_then
  intro _
  apply ensures_return
  exact ⟨⟨execution, present, isRows⟩, rfl⟩

theorem blockFlow_moves (expectedRevision : Nat) (currentStep : Option (Option String))
    (blockedTaskId blockedSummary : String) :
    Ensures (· = known)
      (blockFlow expectedRevision currentStep blockedTaskId blockedSummary)
      (fun _ reached => ∃ flow, known.flow = some flow ∧
        Move (.block (stepAfter flow currentStep)) known reached) := by
  refine ensures_call rowsOfFlow_reads ?_
  rintro rows ⟨execution, present, rfl⟩
  apply ensures_demand_then
  intro blocked
  refine ensures_called (mutate_writes _ _) ?_
  rintro after _ ⟨⟨flow, mutated⟩, rfl⟩
  apply ensures_return
  refine ⟨flow, mutated.present, ?_⟩
  refine Move.held present blocked (flowMoved_of_mutated mutated) ?_
  intro before isBefore
  rw [mutated.present, Option.some.injEq] at isBefore
  rw [← isBefore]
  exact mutated.state

variable {changed : ChildRow}

/-- A flow asked to stop: it stands where it stood, and shows what it showed. -/
structure Asked (before : Option FlowRow) (after : FlowRow) : Prop where
  moved : ∃ flowStatus currentStep, FlowMoved before flowStatus currentStep after ∧
    ∀ flow, before = some flow → flowStatus = flow.status
  shown : SameShown before after

theorem requestCancel_writes (binding : Binding) (expectedRevision : Nat) :
    Ensures (· = known) (requestCancel binding expectedRevision)
      (fun flow reached => (known.flow = some flow ∧ reached = known) ∨
        (Asked known.flow flow ∧ reached = { known with flow := some flow })) := by
  refine ensures_call (controlled_reads binding) ?_
  rintro flow ⟨present, -⟩
  apply ensures_ite
  · intro _
    exact ensures_return flow (Or.inl ⟨present, rfl⟩)
  intro _
  refine ensures_result (mutate_writes _ _) ?_
  rintro after _ ⟨⟨before, mutated⟩, rfl⟩
  right
  refine ⟨⟨⟨_, _, flowMoved_of_mutated mutated, ?_⟩, sameShown_of_mutated mutated rfl rfl⟩, rfl⟩
  intro other isOther
  rw [present, Option.some.injEq] at isOther
  rw [isOther]

theorem asked_moves (asked : Asked known.flow after) :
    Move .ask known { known with flow := some after } := by
  obtain ⟨⟨flowStatus, currentStep, moved, steady⟩, shown⟩ := asked
  exact Move.asked moved shown steady

theorem requestFlowCancel_moves (expectedRevision : Nat) :
    Ensures (· = known) (requestFlowCancel expectedRevision)
      (fun _ reached => reached = known ∨ Move .ask known reached) := by
  refine ensures_call executorRows_reads ?_
  rintro rows _
  refine ensures_called (requestCancel_writes _ _) ?_
  rintro flow _ (⟨-, rfl⟩ | ⟨asked, rfl⟩)
  · exact ensures_return () (Or.inl rfl)
  · exact ensures_return () (Or.inr (asked_moves asked))

theorem links_update (childIn : child ∈ children.rows) (same : link changed = link child) :
    links (children.update changed) = links children := by
  have sameTask : changed.taskId = child.taskId := congrArg Prod.fst same
  have present : children.find changed.taskId = some child := by
    rw [sameTask]
    exact children.find_of_mem childIn
  exact children.map_update changed present link same

theorem writeChild_moves (childIn : child ∈ known.children.rows)
    (same : link changed = link child) :
    Ensures (· = known) (writeChild changed) (fun _ reached => Move .child known reached) := by
  apply ensures_change
  intro state isKnown
  rw [isKnown]
  exact Move.childMoved (links_update childIn same)

theorem moveChild_moves (move : ChildMove) :
    Ensures (· = known) (moveChild move)
      (fun _ reached => reached = known ∨ Move .child known reached) := by
  apply ensures_read
  split
  next => exact ensures_return () (Or.inl rfl)
  next child found =>
    refine ensures_result (writeChild_moves (known.children.mem_of_find found) rfl) ?_
    intro _ _ moved
    exact Or.inr moved

end OpenRill.Goals.Refinement
