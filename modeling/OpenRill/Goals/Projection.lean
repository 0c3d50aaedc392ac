import OpenRill.Goals.Moves

/-!
# The state a flow shows

A call builds the state for the flow from the rows it read, with its own patch of
them, before the rows are written. Here is what the state depends on, and that a
patch of the rows read shows what the written rows show.
-/

namespace OpenRill.Goals.Projection

open Lib Ledger Executor PlanMachine Moves

variable {goal : GoalRow} {execution : ExecutionRow}

def showStep (step : StepExecutionRow) : ProjectedStep where
  stepId := step.stepId
  ordinal := step.ordinal
  status := step.status
  currentTaskId := step.currentTaskId
  attemptCount := step.attemptCount
  terminalOutcome := step.lastTerminalOutcome
  summary := step.lastSummary

def nextShown (goal : GoalRow) (planRevision : Nat) (planSteps : List PlanRevisionStepRow)
    (steps : List ProjectedStep) : Option NextStep :=
  match steps.find? (fun step => step.status = .ready) with
  | none => none
  | some next =>
    match planSteps.find? (fun step => step.stepId = next.stepId) with
    | none => none
    | some plan =>
      some
        { stepId := next.stepId
          ordinal := next.ordinal
          title := plan.title
          requestKey := requestKey goal.goalId planRevision next.stepId (next.attemptCount + 1)
          text := taskText goal plan planSteps.length
          attempt := next.attemptCount + 1 }

theorem projectedState_eq (goal : GoalRow) (execution : ExecutionRow)
    (planSteps : List PlanRevisionStepRow) (steps : List StepExecutionRow) :
    projectedState goal execution planSteps steps =
      { goalId := goal.goalId
        planRevision := execution.planRevision
        executionStatus := execution.status
        currentStepId := execution.currentStepId
        nextStep := nextShown goal execution.planRevision planSteps (steps.map showStep)
        steps := steps.map showStep } := by
  have sameNext : (steps.map showStep).find? (fun step => step.status = .ready) =
      (steps.find? fun step => step.status = .ready).map showStep := by
    rw [List.find?_map]
    rfl
  unfold projectedState nextShown
  rw [sameNext]
  cases steps.find? (fun step => step.status = .ready) with
  | none => rfl
  | some next => rfl

theorem projectedState_congr {other : GoalRow} {changed : ExecutionRow}
    {planSteps : List PlanRevisionStepRow} {steps shown : List StepExecutionRow}
    (sameGoal : other.goalId = goal.goalId ∧ other.objective = goal.objective)
    (samePlan : changed.planRevision = execution.planRevision)
    (sameStatus : changed.status = execution.status)
    (sameStep : changed.currentStepId = execution.currentStepId)
    (same : shown.map showStep = steps.map showStep) :
    projectedState other changed planSteps shown =
      projectedState goal execution planSteps steps := by
  rw [projectedState_eq, projectedState_eq, same, samePlan, sameStatus, sameStep]
  obtain ⟨sameId, sameObjective⟩ := sameGoal
  unfold nextShown taskText
  rw [sameId, sameObjective]

variable {table : Table StepExecutionRow.key} {step next : StepExecutionRow}

theorem mem_stepsOf (table : Table StepExecutionRow.key) (planRevision : Nat)
    (row : StepExecutionRow) :
    row ∈ stepsOf table planRevision ↔ row ∈ table.rows ∧ row.planRevision = planRevision := by
  simp [stepsOf]

section

variable (stepIn : step ∈ table.rows) (sameKey : next.key = step.key)
  (sameOrdinal : next.ordinal = step.ordinal)
include stepIn sameKey sameOrdinal

theorem stepsOf_update :
    stepsOf (table.update next) step.planRevision =
      (stepsOf table step.planRevision).map
        (fun row => if row.stepId = step.stepId then next else row) := by
  have replaced : (table.update next).rows.filter
      (fun row => row.planRevision = step.planRevision) =
      (table.rows.filter fun row => row.planRevision = step.planRevision).map
        (fun row => if row.stepId = step.stepId then next else row) := by
    simp only [Table.update, List.filter_map]
    have sameSelection : table.rows.filter
        ((fun row => decide (row.planRevision = step.planRevision)) ∘
          fun other => if other.key = next.key then next else other) =
        table.rows.filter (fun row => row.planRevision = step.planRevision) := by
      apply List.filter_congr
      intro row _
      by_cases isStep : row.key = next.key
      · have revision : row.planRevision = next.planRevision := planRevision_of_key isStep
        simp [isStep, revision]
      · simp [isStep]
    rw [sameSelection]
    apply List.map_congr_left
    intro row rowIn
    have revision : row.planRevision = step.planRevision := by
      simpa using (List.mem_filter.mp rowIn).2
    have keyOfId : row.key = next.key ↔ row.stepId = step.stepId := by
      rw [sameKey]
      simp [StepExecutionRow.key, revision]
    by_cases isStep : row.stepId = step.stepId
    · rw [if_pos (keyOfId.mpr isStep), if_pos isStep]
    · rw [if_neg fun same => isStep (keyOfId.mp same), if_neg isStep]
  unfold stepsOf
  rw [replaced]
  apply orderBy_map
  intro row rowIn
  by_cases isStep : row.stepId = step.stepId
  · have picked := List.mem_filter.mp rowIn
    have revision : row.planRevision = step.planRevision := by simpa using picked.2
    have isRow : row = step := by
      apply table.row_unique picked.1 stepIn
      simp [StepExecutionRow.key, revision, isStep]
    rw [if_pos isStep, sameOrdinal, isRow]
  · rw [if_neg isStep]

theorem shown_rewriteStep (rewrite : StepExecutionRow → StepExecutionRow)
    (shows : showStep (rewrite step) = showStep next) :
    (rewriteStep step.stepId rewrite (stepsOf table step.planRevision)).map showStep =
      (stepsOf (table.update next) step.planRevision).map showStep := by
  rw [stepsOf_update stepIn sameKey sameOrdinal]
  unfold rewriteStep
  rw [List.map_map, List.map_map]
  apply List.map_congr_left
  intro row rowIn
  by_cases isStep : row.stepId = step.stepId
  · obtain ⟨rowTable, revision⟩ := (mem_stepsOf table step.planRevision row).mp rowIn
    have isRow : row = step := by
      apply table.row_unique rowTable stepIn
      simp [StepExecutionRow.key, revision, isStep]
    simp only [Function.comp_apply, isRow, if_pos]
    exact shows
  · simp only [Function.comp_apply, if_neg isStep]

end

theorem state_of_rewrite {revisions : PlanRevisions} {planRevision : Nat}
    (stepIn : step ∈ table.rows) (revision : step.planRevision = planRevision)
    (samePlan : execution.planRevision = planRevision) (sameKey : next.key = step.key)
    (sameOrdinal : next.ordinal = step.ordinal) (rewrite : StepExecutionRow → StepExecutionRow)
    (shows : showStep (rewrite step) = showStep next) :
    projectedState goal execution (planOf revisions planRevision)
        (rewriteStep step.stepId rewrite (stepsOf table planRevision)) =
      stateOf goal execution revisions (table.update next) := by
  unfold stateOf
  rw [samePlan]
  apply projectedState_congr ⟨rfl, rfl⟩ rfl rfl rfl
  rw [← revision]
  exact shown_rewriteStep stepIn sameKey sameOrdinal rewrite shows

end OpenRill.Goals.Projection
