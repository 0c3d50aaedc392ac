import OpenRill.Goals.Invariants

/-!
# One active step, in order

While an execution goes on, at most one step of its pinned revision is under way. It
is the current step, everything before it is finished, and the task of a running step
is linked to the flow for that step alone.
-/

namespace OpenRill.Goals.ActiveStep

open Ledger Executor Operations PlanMachine Invariants

variable {store : GoalStore} {execution : ExecutionRow} {step other : StepExecutionRow}

def Active (status : StepStatus) : Prop :=
  status = .ready ∨ status = .running ∨ status = .waiting ∨ status = .blocked ∨ status = .failed

theorem engaged_of_active {status : StepStatus} (active : Active status) : Engaged status := by
  unfold Active at active
  unfold Engaged
  revert active
  cases status <;> simp [finished]

theorem focus_of_active (regular : Regular store) (present : store.execution = some execution)
    (live : executionTerminal execution.status = false)
    (pinned : Pinned (viewOf store) execution step) (active : Active step.status) :
    Focus (viewOf store) execution step :=
  focus_of_engaged (regular.founded.sound.settled execution present) live pinned
    (engaged_of_active active)

section

variable (focus : Focus (viewOf store) execution step)
  (pinned : Pinned (viewOf store) execution other)
include focus pinned

theorem finished_before (before : other.ordinal < step.ordinal) : finished other.status = true := by
  rcases focus.behind other pinned with same | waits | done
  · rw [same] at before
    omega
  · have behind := waits.2
    omega
  · exact done

theorem active_unique (active : Active other.status) : other = step := by
  have engaged := engaged_of_active active
  rcases focus.behind other pinned with same | waits | done
  · exact same
  · exact absurd waits.1 engaged.1
  · rw [engaged.2] at done
    contradiction

end

theorem running_task (regular : Regular store) (stepIn : step ∈ store.stepExecutions.rows)
    (running : step.status = .running) :
    ∃ child ∈ store.children.rows, step.currentTaskId = some child.taskId ∧
      child.stepKey = step.stepId ∧
      ∀ other ∈ store.stepExecutions.rows, other.currentTaskId = some child.taskId →
        other = step := by
  obtain ⟨child, childIn, taken, stepKey, -⟩ := regular.founded.admitted step stepIn running
  refine ⟨child, childIn, taken, ?_, ?_⟩
  · rw [stepKey]
    exact idFits_trimmed (named_step regular.aligned stepIn)
  intro other otherIn otherTaken
  apply store.stepExecutions.row_unique otherIn stepIn
  apply regular.founded.sound.tasksDistinct other otherIn step stepIn
  · rw [otherTaken]
    simp
  · rw [otherTaken, taken]

theorem single_active_step (world : World) (first : GoalStore) (calls : List GoalCall)
    (created : Created world first) :
    ∀ execution, (reach world first calls).execution = some execution →
      (executionTerminal execution.status = false →
        ∀ step, Pinned (viewOf (reach world first calls)) execution step →
          Active step.status →
          execution.currentStepId = some step.stepId ∧
          (∀ other, Pinned (viewOf (reach world first calls)) execution other →
            Active other.status → other = step) ∧
          (∀ other, Pinned (viewOf (reach world first calls)) execution other →
            other.ordinal < step.ordinal → finished other.status = true)) ∧
      (∀ step, Pinned (viewOf (reach world first calls)) execution step →
        step.status = .running →
        ∃ child ∈ (reach world first calls).children.rows,
          step.currentTaskId = some child.taskId ∧ child.stepKey = step.stepId ∧
          ∀ other ∈ (reach world first calls).stepExecutions.rows,
            other.currentTaskId = some child.taskId → other = step) := by
  intro execution present
  have regular := regular_of_run world calls created
  constructor
  · intro live step pinned active
    have focus := focus_of_active regular present live pinned active
    refine ⟨focus.current, ?_, ?_⟩
    · intro other otherPinned otherActive
      exact active_unique focus otherPinned otherActive
    · intro other otherPinned before
      exact finished_before focus otherPinned before
  · intro step pinned running
    exact running_task regular pinned.1 running

/-- The step of a goal that was started is the current one, and its task is its own. -/
theorem sample_step_active :
    ∃ (execution : ExecutionRow) (step : StepExecutionRow),
      (reach sampleWorld (sampleCreated ["Draft"])
        [sampleCall (.start sampleOwner 1) (some "t1")]).execution = some execution ∧
      step.status = .running ∧ execution.currentStepId = some step.stepId ∧
      ∃ child ∈ (reach sampleWorld (sampleCreated ["Draft"])
          [sampleCall (.start sampleOwner 1) (some "t1")]).children.rows,
        step.currentTaskId = some child.taskId ∧ child.stepKey = step.stepId := by
  have facts := single_active_step sampleWorld (sampleCreated ["Draft"])
    [sampleCall (.start sampleOwner 1) (some "t1")] sample_created
  rw [sample_started] at facts ⊢
  obtain ⟨ordered, tasked⟩ := facts _ rfl
  obtain ⟨step, isStep⟩ : ∃ step, sampleRunning.stepExecutions.rows = [step] := ⟨_, rfl⟩
  have stepIn : step ∈ sampleRunning.stepExecutions.rows := by simp [isStep]
  have running : step.status = .running := by
    have first : sampleRunning.stepExecutions.rows.head?.map StepExecutionRow.status =
        some .running := rfl
    simpa [isStep] using first
  have revision : step.planRevision = 1 := by
    have first : sampleRunning.stepExecutions.rows.head?.map StepExecutionRow.planRevision =
        some 1 := rfl
    simpa [isStep] using first
  have current := (ordered rfl step ⟨stepIn, revision⟩ (Or.inr (Or.inl running))).1
  obtain ⟨child, childIn, taken, stepKey, -⟩ := tasked step ⟨stepIn, revision⟩ running
  exact ⟨_, step, rfl, running, current, child, childIn, taken, stepKey⟩

end OpenRill.Goals.ActiveStep
