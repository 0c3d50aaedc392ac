import OpenRill.Goals.Invariants

/-!
# The next step of a plan

A start and an adoption look for the first step that waits for its turn. A success looks
for the step after it only: where that one is done already, what waits behind it is never
readied. While every success finds its successor waiting, or nothing else left to do, the
next step is always ready.
-/

namespace OpenRill.Goals.NextStep

open Lib Lib.Runs Lib.Transaction Ledger Executor Operations PlanMachine Moves Footing Writes
open Calls Invariants

variable {store reached : GoalStore}

/-- A step that is ready, in front of all that are not finished. -/
def ReadyNext (store : GoalStore) (execution : ExecutionRow) : Prop :=
  ∃ ready, Pinned (viewOf store) execution ready ∧ ready.status = .ready ∧
    ∀ row, Pinned (viewOf store) execution row → finished row.status = false →
      ready.ordinal ≤ row.ordinal

def AllFinished (store : GoalStore) (execution : ExecutionRow) : Prop :=
  ∀ row, Pinned (viewOf store) execution row → finished row.status = true

/-- An execution that goes on while no step runs or waits has its next step ready, or
nothing left to do. -/
def NextReady (store : GoalStore) : Prop :=
  ∀ execution, store.execution = some execution →
    execution.status = .queued ∨ execution.status = .running →
    (∀ row, Pinned (viewOf store) execution row → row.status ≠ .running ∧ row.status ≠ .waiting) →
    ReadyNext store execution ∨ AllFinished store execution

def Finishable (store : GoalStore) : Prop :=
  ∀ execution, store.execution = some execution →
    Unfocused (viewOf store) execution → AllFinished store execution

theorem nextReady_of_finishable (founded : Founded store) (finishable : Finishable store) :
    NextReady store := by
  intro execution present going resting
  have live : executionTerminal execution.status = false := by
    rcases going with queued | running
    · rw [queued]
      rfl
    · rw [running]
      rfl
  rcases (founded.sound.settled execution present).standing live with ⟨ready, focus⟩ | unfocused
  · left
    have isReady : ready.status = .ready := by
      obtain ⟨notRunning, notWaiting⟩ := resting ready focus.pinned
      have fitting := focus.fitting
      revert fitting notRunning notWaiting
      rcases going with queued | running
      · rw [queued]
        cases ready.status <;> simp [fits]
      · rw [running]
        cases ready.status <;> simp [fits]
    refine ⟨ready, focus.pinned, isReady, ?_⟩
    intro row pinned unfinished
    rcases focus.behind row pinned with same | waits | done
    · rw [same]
    · exact Nat.le_of_lt waits.2
    · rw [unfinished] at done
      contradiction
  · right
    exact finishable execution present unfocused

/-- A success that finds its successor waiting for its turn, or nothing else to do. -/
def InLine (store : GoalStore) (step : StepExecutionRow) : Prop :=
  ∀ execution, store.execution = some execution →
    (∃ next, Pinned (viewOf store) execution next ∧ next.status = .pending ∧
      next.ordinal = step.ordinal + 1) ∨
    ∀ row, Pinned (viewOf store) execution row → row.key ≠ step.key → finished row.status = true

def lineRules : Rules :=
  { Rules.free with succeed := InLine }

theorem finishable_of_kept (finishable : Finishable store)
    (execution : reached.execution = store.execution)
    (steps : reached.stepExecutions = store.stepExecutions) : Finishable reached := by
  intro pinned present unfocused row rowPinned
  rw [execution] at present
  have same : ∀ other, Pinned (viewOf store) pinned other →
      Pinned (viewOf reached) pinned other := by
    intro other otherPinned
    refine ⟨?_, otherPinned.2⟩
    change other ∈ reached.stepExecutions.rows
    rw [steps]
    exact otherPinned.1
  apply finishable pinned present ⟨unfocused.running, fun other otherPinned =>
    unfocused.idle other (same other otherPinned)⟩ row
  refine ⟨?_, rowPinned.2⟩
  change row ∈ store.stepExecutions.rows
  rw [← steps]
  exact rowPinned.1

theorem finishable_of_engaged {execution : ExecutionRow} {step : StepExecutionRow}
    (present : reached.execution = some execution)
    (pinned : Pinned (viewOf reached) execution step) (engaged : Engaged step.status) :
    Finishable reached := by
  intro other isOther unfocused
  exfalso
  rw [present, Option.some.injEq] at isOther
  subst isOther
  rcases unfocused.idle step pinned with waits | done
  · exact engaged.1 waits
  · rw [engaged.2] at done
    contradiction

theorem finishable_of_stopped {execution : ExecutionRow}
    (present : reached.execution = some execution) (stopped : execution.status ≠ .running) :
    Finishable reached := by
  intro other isOther unfocused
  rw [present, Option.some.injEq] at isOther
  subst isOther
  exact absurd unfocused.running stopped

theorem readied_in {table : Table StepExecutionRow.key} {done row : StepExecutionRow}
    (rowIn : row ∈ table.rows) : readiedRow row ∈ (afterSuccess table done (some row)).rows := by
  have keyIn : row.key ∈ (table.update done).rows.map StepExecutionRow.key := by
    rw [keys_update table done]
    exact List.mem_map_of_mem rowIn
  obtain ⟨shadow, shadowIn, sameKey⟩ := List.mem_map.mp keyIn
  have found := (table.update done).find_of_mem shadowIn
  rw [sameKey] at found
  exact ((table.update done).mem_update_iff (readiedRow row) found _).mpr (Or.inl rfl)

theorem engaged_after_shift {before after : StepStatus} {status : ExecutionStatus}
    {flowStatus : FlowStatus} (shift : Shift before after status flowStatus) :
    Engaged after := by
  unfold Engaged
  cases shift <;> decide

theorem finishable_of_move {deed : Deed} (founded : Founded store)
    (move : Move deed store reached) (allowed : lineRules.allows store deed)
    (finishable : Finishable store) : Finishable reached := by
  cases move with
  | touched _ _ => exact finishable_of_kept finishable rfl rfl
  | closed _ _ _ _ => exact finishable_of_kept finishable rfl rfl
  | childMoved _ => exact finishable_of_kept finishable rfl rfl
  | revised _ _ _ _ _ _ _ _ _ => exact finishable_of_kept finishable rfl rfl
  | asked _ _ _ => exact finishable_of_kept finishable rfl rfl
  | held _ _ _ _ => exact finishable_of_kept finishable rfl rfl
  | cut _ _ => exact finishable_of_kept finishable rfl rfl
  | started _ _ _ _ _ queued _ _ _ _ _ _ =>
    apply finishable_of_stopped rfl
    rw [queued]
    simp
  | @shifted _ _ _ execution step next _ _ _ _ _ _ pinned shift _ place _ _ _ _ _ _ _ _ =>
    apply @finishable_of_engaged _ _ next rfl _ (engaged_after_shift shift)
    refine ⟨(mem_of_mem_update pinned.1 place.key next).mpr (Or.inl rfl), ?_⟩
    exact (planRevision_of_key place.key).trans pinned.2
  | @succeeded _ _ execution step done next _ present pinned running place isDone _ successor missed
      _ _ _ _ =>
      have readiedIn : ∀ row, next = some row → row ∈ store.stepExecutions.rows :=
        fun row isNext => (successor row isNext).1.1
      cases next with
      | some row =>
        have revision : row.planRevision = execution.planRevision := (successor row rfl).1.2
        apply @finishable_of_engaged _ _ (readiedRow row) rfl _ (by simp [Engaged, readiedRow,
          finished])
        exact ⟨readied_in (readiedIn row rfl), revision⟩
      | none =>
        intro after isAfter _ row rowPinned
        cases isAfter
        rcases mem_afterSuccess pinned.1 place.key readiedIn rowPinned.1 with
          isDoneRow | ⟨readied, isNext, -⟩ | ⟨old, different⟩
        · rw [isDoneRow, isDone]
          rfl
        · contradiction
        · rcases allowed execution present with ⟨other, otherPinned, waits⟩ | others
          · exact absurd waits (missed rfl other otherPinned)
          · exact others row ⟨old, rowPinned.2⟩ different
  | @adopted _ _ _ execution _ table projected next present newer _ _ isProjected filled chosen _ _
      _ _ _ _ =>
      intro after isAfter unfocused row rowPinned
      cases isAfter
      have pinnedNew : row ∈ projected := by
        have rowIn : row ∈ table.rows := rowPinned.1
        rw [filled] at rowIn
        rcases List.mem_append.mp rowIn with old | new
        · exfalso
          have known := (founded.sound.settled execution present).stepsKnown row old
          have revision : row.planRevision = store.goal.planRevision := rowPinned.2
          omega
        · exact new
      have noReady : next = none := by
        cases isNext : next with
        | none => rfl
        | some stepId =>
          have running := unfocused.running
          rw [isNext] at running
          contradiction
      rw [isProjected] at pinnedNew
      rw [noReady] at chosen
      have noneFound := (Option.map_eq_none_iff.mp chosen.symm)
      rw [isProjected] at noneFound
      exact finished_of_no_ready (by
        intro other otherIn
        obtain ⟨definition, -, rfl⟩ := List.mem_map.mp otherIn
        exact (projectedStep_projects _ definition).2.2.2.2) noneFound row pinnedNew
  | finished _ _ _ _ _ _ _ => exact finishable_of_stopped rfl (by simp)
  | failed _ _ _ _ _ => exact finishable_of_stopped rfl (by simp)
  | @cancelled _ _ _ execution _ _ _ _ _ _ _ _ =>
    apply finishable_of_stopped rfl
    intro running
    have ended := (cancelledExecution_ended execution).1
    rw [running] at ended
    contradiction

/-- What a run of the reconciliation of a delivered child of a running step would succeed
is in line. -/
def DeliversInLine (store : GoalStore) : Prop :=
  ∀ execution step child, store.execution = some execution →
    Pinned (viewOf store) execution step → step.status = .running →
    child ∈ store.children.rows → step.currentTaskId = some child.taskId →
    child.status = .succeeded → child.terminalOutcome = some .succeeded → InLine store step

/-- A call that reconciles a delivered child finds its step in line. -/
def SucceedsInLine (store : GoalStore) (call : GoalCall) : Prop :=
  match call.op with
  | .start _ _ | .advance _ | .reconcileTask _ | .adoptPlanRevision _ _ | .recover =>
    DeliversInLine store
  | _ => True

theorem mayProject_of_inLine (inLine : DeliversInLine store) : MayProject lineRules store := by
  intro execution step child present pinned running childIn taken
  constructor
  · intro succeeded outcome
    exact inLine execution step child present pinned running childIn taken succeeded outcome
  · intro _
    exact trivial

theorem permitted_of_inLine {call : GoalCall} (inLine : SucceedsInLine store call) :
    Permitted lineRules store call.op := by
  unfold SucceedsInLine at inLine
  cases op : call.op with
  | decide expected decision =>
    cases decision with
    | block _ _ _ _ => exact fun _ _ => trivial
    | _ => exact trivial
  | start _ _ =>
    rw [op] at inLine
    exact ⟨mayProject_of_inLine inLine, trivial⟩
  | advance _ =>
    rw [op] at inLine
    exact mayProject_of_inLine inLine
  | reconcileTask _ =>
    rw [op] at inLine
    exact mayProject_of_inLine inLine
  | adoptPlanRevision _ _ =>
    rw [op] at inLine
    exact ⟨mayProject_of_inLine inLine, trivial⟩
  | recover =>
    rw [op] at inLine
    exact ⟨mayProject_of_inLine inLine, fun _ => trivial⟩
  | reconcileFlow _ => exact fun _ => trivial
  | _ => exact trivial

def sampleDelivered (taskId : String) : GoalCall :=
  sampleCall
    (.childMoves
      { taskId := taskId
        status := .succeeded
        terminalOutcome := some .succeeded
        terminalSummary := some "done"
        errorCode := none }) none

def sampleDraft (stepId : String) (ordinal : Nat) (title : String) : DraftStep where
  stepId := stepId
  ordinal := ordinal
  title := title
  required := true
  retryMode := .manual
  maxAttempts := 3

def sampleInserted : List GoalCall :=
  [sampleCall (.start sampleOwner 1) (some "t1"), sampleDelivered "t1",
    sampleCall (.reconcileTask "t1") none,
    sampleCall (.wait sampleOwner 3 3 "hold") none,
    sampleCall
      (.revisePlan sampleOwner
        { expectedGoalRevision := 1
          expectedExecutionRevision := 4
          expectedPlanRevision := 1
          steps := [sampleDraft "s0" 1 "Plan", sampleDraft "s1" 2 "Draft",
            sampleDraft "s2" 3 "Review"] }) none,
    sampleCall
      (.adoptPlanRevision sampleOwner
        { targetPlanRevision := 2
          expectedExecutionRevision := 4
          expectedFlowRevision := 4 }) (some "t2"),
    sampleDelivered "t2", sampleCall (.reconcileTask "t2") none]

/-- A goal that runs with nothing ready and something left to do. -/
def stranded (store : GoalStore) : Bool :=
  store.execution.any (fun execution =>
    execution.status = .running && execution.planRevision = 2) &&
  store.stepExecutions.rows.all (fun row =>
    row.planRevision ≠ 2 || row.status = .pending || finished row.status) &&
  store.stepExecutions.rows.any (fun row => row.planRevision = 2 && row.status = .pending)

theorem not_ready_of_stranded (isStranded : stranded store = true) : ¬ NextReady store := by
  intro nextReady
  simp only [stranded, Bool.and_eq_true, Option.any_eq_true, List.all_eq_true, List.any_eq_true,
    Bool.or_eq_true, decide_eq_true_eq] at isStranded
  obtain ⟨⟨⟨execution, present, running, revision⟩, resting⟩, waiting⟩ := isStranded
  have rests : ∀ row, Pinned (viewOf store) execution row →
      row.status = .pending ∨ finished row.status = true := by
    intro row pinned
    have isTwo : row.planRevision = 2 := pinned.2.trans revision
    rcases resting row pinned.1 with (other | pending) | done
    · exact absurd isTwo (by simpa using other)
    · exact Or.inl pending
    · exact Or.inr done
  obtain ⟨left, leftIn, leftRevision, pending⟩ := waiting
  have leftPinned : Pinned (viewOf store) execution left := ⟨leftIn, leftRevision.trans
    revision.symm⟩
  have quiet : ∀ row, Pinned (viewOf store) execution row →
      row.status ≠ .running ∧ row.status ≠ .waiting := by
    intro row pinned
    rcases rests row pinned with waits | done
    · rw [waits]
      exact ⟨by simp, by simp⟩
    constructor
    · intro runs
      rw [runs] at done
      contradiction
    · intro holds
      rw [holds] at done
      contradiction
  rcases nextReady execution present (Or.inr running) quiet with ⟨ready, pinned, isReady, -⟩ | done
  · rcases rests ready pinned with waits | done
    · rw [waits] at isReady
      contradiction
    · rw [isReady] at done
      contradiction
  · have leftDone := done left leftPinned
    rw [pending] at leftDone
    contradiction

def strandedGoal : { store : GoalStore // stranded store = true } :=
  ⟨reach sampleWorld (sampleCreated ["Draft", "Review"]) sampleInserted, by decide +kernel⟩

end OpenRill.Goals.NextStep
