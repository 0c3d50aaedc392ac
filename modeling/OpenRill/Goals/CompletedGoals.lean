import Mathlib.Data.List.Perm.Subperm
import OpenRill.Goals.Invariants

/-!
# What a completed goal has done

A goal is completed by its service, which asks every step of the mutable plan, or by
the finish of its execution, which asks the steps of the pinned revision only. A step
that succeeds is mirrored in the mutable plan while its revision is the current one,
so a finish is sound when nothing newer than the pinned revision waits to be adopted,
or when that is done already.
-/

namespace OpenRill.Goals.CompletedGoals

open Lib Lib.Runs Ledger TaskFlows Executor Operations PlanMachine Moves Footing Calls Invariants

variable {store reached : GoalStore} {execution : ExecutionRow} {deed : Deed}
variable {definition : PlanRevisionStepRow}

/-- Every required step of the current plan revision is done in the mutable plan. -/
def CurrentDone (store : GoalStore) : Prop :=
  ∀ definition ∈ planOf store.planRevisions store.goal.planRevision,
    definition.required = true → Completed store.planSteps definition.stepId

def ListedDone (store : GoalStore) : Prop :=
  ∀ definition ∈ planOf store.planRevisions store.goal.planRevision,
    definition.required = true →
    ∃ row ∈ store.listSteps, row.stepId = definition.stepId ∧ row.status = .completed

theorem definition_found
    (definitionIn : definition ∈ planOf store.planRevisions store.goal.planRevision) :
    ∃ entry, (store.planRevisions.steps.rows.filter
      (fun row => row.planRevision = store.goal.planRevision)).find?
        (fun entry => entry.stepId = definition.stepId) = some entry := by
  obtain ⟨rowIn, revision⟩ := (mem_planOf _ _ definition).mp definitionIn
  apply Option.isSome_iff_exists.mp
  rw [List.find?_isSome]
  refine ⟨definition, ?_, by simp⟩
  rw [List.mem_filter]
  exact ⟨rowIn, by simpa using revision⟩

theorem mem_listSteps {row : PlanStepRow}
    (definitionIn : definition ∈ planOf store.planRevisions store.goal.planRevision)
    (found : store.planSteps.find definition.stepId = some row) :
    ∃ listed ∈ store.listSteps, listed.stepId = definition.stepId ∧ listed.status = row.status := by
  obtain ⟨entry, isEntry⟩ := definition_found definitionIn
  have isKey : row.stepId = definition.stepId := store.planSteps.key_of_find found
  refine ⟨{ row with ordinal := entry.ordinal, title := entry.title }, ?_, isKey, rfl⟩
  unfold GoalStore.listSteps
  simp only [mem_orderBy, List.mem_filterMap]
  refine ⟨row, store.planSteps.mem_of_find found, ?_⟩
  rw [isKey, isEntry]

theorem found_of_listed {listed : PlanStepRow} (listedIn : listed ∈ store.listSteps) :
    ∃ row, store.planSteps.find listed.stepId = some row ∧ row.status = listed.status := by
  unfold GoalStore.listSteps at listedIn
  simp only [mem_orderBy, List.mem_filterMap] at listedIn
  obtain ⟨row, rowIn, shape⟩ := listedIn
  have found := store.planSteps.find_of_mem rowIn
  split at shape
  next =>
    cases shape
    exact ⟨row, found, rfl⟩
  next =>
    split at shape
    next =>
      rw [Option.some.injEq] at shape
      rw [← shape]
      exact ⟨row, found, rfl⟩
    next => contradiction

theorem listedDone_iff : ListedDone store ↔ CurrentDone store := by
  constructor
  · intro listed definition definitionIn required
    obtain ⟨shown, shownIn, isStep, completed⟩ := listed definition definitionIn required
    obtain ⟨row, found, sameStatus⟩ := found_of_listed shownIn
    rw [isStep] at found
    exact ⟨row, found, sameStatus.trans completed⟩
  · intro current definition definitionIn required
    obtain ⟨row, found, completed⟩ := current definition definitionIn required
    obtain ⟨shown, shownIn, isStep, sameStatus⟩ := mem_listSteps definitionIn found
    exact ⟨shown, shownIn, isStep, sameStatus.trans completed⟩

theorem executed_of_defined (regular : Regular store) (present : store.execution = some execution)
    (definitionIn : definition ∈ planOf store.planRevisions execution.planRevision) :
    ∃ row, Pinned (viewOf store) execution row ∧ row.stepId = definition.stepId := by
  have settled := regular.founded.sound.settled execution present
  have rowKeys : ((stepsOf store.stepExecutions execution.planRevision).map
      StepExecutionRow.key).Nodup := by
    have listed : (stepsOf store.stepExecutions execution.planRevision).Perm
        (store.stepExecutions.rows.filter fun row => row.planRevision = execution.planRevision) :=
      List.perm_insertionSort _ _
    rw [(listed.map StepExecutionRow.key).nodup_iff]
    exact store.stepExecutions.keysNodup.sublist (List.filter_sublist.map _)
  have drawn : (stepsOf store.stepExecutions execution.planRevision).map StepExecutionRow.key ⊆
      (planOf store.planRevisions execution.planRevision).map PlanRevisionStepRow.key := by
    intro key keyIn
    obtain ⟨row, rowIn, rfl⟩ := List.mem_map.mp keyIn
    have pinned := (Projection.mem_stepsOf _ _ row).mp rowIn
    obtain ⟨source, sourceIn, sameKey, -⟩ := regular.aligned.drawn row pinned.1
    rw [← sameKey]
    apply List.mem_map_of_mem
    rw [mem_planOf]
    exact ⟨sourceIn, (congrArg Prod.fst sameKey).trans pinned.2⟩
  have counted : (planOf store.planRevisions execution.planRevision).length ≤
      (stepsOf store.stepExecutions execution.planRevision).length := by
    have snapshot : stepCount store.stepExecutions execution.planRevision =
        (planOf store.planRevisions execution.planRevision).length := settled.snapshot
    unfold stepsOf
    rw [length_orderBy, ← List.countP_eq_length_filter, ← snapshot]
    exact Nat.le_refl _
  have exchanged := (rowKeys.subperm drawn).perm_of_length_le (by simpa using counted)
  have keyIn : definition.key ∈ (stepsOf store.stepExecutions execution.planRevision).map
      StepExecutionRow.key :=
    exchanged.mem_iff.mpr (List.mem_map_of_mem definitionIn)
  obtain ⟨row, rowIn, sameKey⟩ := List.mem_map.mp keyIn
  exact ⟨row, (Projection.mem_stepsOf _ _ row).mp rowIn, congrArg Prod.snd sameKey⟩

variable {status : ExecutionStatus} {flowStatus : FlowStatus}

/-- What the execution finished is done in the mutable plan, while the pinned revision
is the current one. -/
def Mirrored (store : GoalStore) : Prop :=
  ∀ execution, store.execution = some execution →
    execution.planRevision = store.goal.planRevision →
    ∀ row, Pinned (viewOf store) execution row → finished row.status = true →
      Completed store.planSteps row.stepId

theorem unfinished_of_shift {before after : StepStatus}
    (shift : Shift before after status flowStatus) : finished after = false := by
  cases shift <;> rfl

theorem unfinished_initial {plan : List PlanRevisionStepRow} {row : StepExecutionRow}
    (launched : LaunchedBy plan (initialStep .pending) row) : finished row.status = false := by
  obtain ⟨definition, -, rfl | ⟨-, rfl⟩⟩ := launched
  · rfl
  · rfl

theorem mirrored_of_move (founded : Founded store) (move : Move deed store reached)
    (mirrored : Mirrored store) : Mirrored reached := by
  cases move with
  | touched kept _ =>
    intro execution present current
    exact mirrored execution present (current.trans kept.planRevision)
  | closed _ kept _ _ =>
    intro execution present current
    exact mirrored execution present (current.trans kept.planRevision)
  | childMoved _ => exact mirrored
  | asked _ _ _ => exact mirrored
  | held _ _ _ _ => exact mirrored
  | cut _ _ => exact mirrored
  | revised _ _ newer _ _ _ _ _ _ =>
    intro execution present current
    have known := (founded.sound.settled execution present).pinnedKnown
    change execution.planRevision ≤ store.goal.planRevision at known
    rw [newer] at current
    omega
  | @started _ execution _ table first rest unstarted _ plan filled _ _ _ _ _ _ _ _ =>
    intro after present current row pinned done
    have noRows : store.stepExecutions.rows = [] := founded.sound.unstarted unstarted
    have rowIn : row ∈ table.rows := pinned.1
    rw [filled, noRows, List.nil_append, initialSteps_eq_readyFirst] at rowIn
    rw [unfinished_initial (launchedBy_of_mem rowIn)] at done
    contradiction
  | @shifted _ goal _ execution step next _ _ _ _ _ present pinnedStep shift _ place _ _ _ _ _ kept
      _ steps =>
      intro after isAfter current row pinned done
      cases isAfter
      apply steps.completed
      rcases (mem_of_mem_update pinnedStep.1 place.key row).mp pinned.1 with isNext | ⟨old, -⟩
      · rw [isNext, unfinished_of_shift shift] at done
        contradiction
      · exact mirrored execution present (current.trans kept.planRevision) row ⟨old, pinned.2⟩ done
  | @succeeded _ _ execution step done next _ present pinnedStep _ place _ _ successor _ _ _ steps
      projected =>
      intro after isAfter current row pinned ended
      cases isAfter
      have readiedIn : ∀ row, next = some row → row ∈ store.stepExecutions.rows :=
        fun row isNext => (successor row isNext).1.1
      rcases mem_afterSuccess pinnedStep.1 place.key readiedIn pinned.1 with
        isDone | ⟨readied, -, isReadied⟩ | ⟨old, -⟩
      · rw [isDone, stepId_of_key place.key]
        exact projected current
      · rw [isReadied] at ended
        contradiction
      · apply steps.completed
        exact mirrored execution present current row ⟨old, pinned.2⟩ ended
  | @adopted _ goal _ execution _ table projected _ present newer _ _ _ filled _ _ _ kept _ _
      projects =>
      intro after isAfter current row pinned done
      cases isAfter
      have rowIn : row ∈ table.rows := pinned.1
      rw [filled] at rowIn
      rcases List.mem_append.mp rowIn with old | new
      · exfalso
        have known := (founded.sound.settled execution present).stepsKnown row old
        have revision : row.planRevision = store.goal.planRevision := pinned.2
        omega
      · exact projects row new done
  | finished present _ _ _ kept _ _ =>
    intro after isAfter current row pinned done
    cases isAfter
    exact mirrored _ present (current.trans kept.planRevision) row pinned done
  | failed present _ _ kept _ =>
    intro after isAfter current row pinned done
    cases isAfter
    exact mirrored _ present (current.trans kept.planRevision) row pinned done
  | @cancelled _ goal _ execution table _ present swept _ kept _ steps =>
    intro after isAfter current row pinned done
    cases isAfter
    have samePlan := (cancelledExecution_ended execution).2
    have rowIn : row ∈ table.rows := pinned.1
    rw [swept] at rowIn
    obtain ⟨old, oldIn, rfl⟩ := List.mem_map.mp rowIn
    obtain ⟨sameKey, sameRevision, -⟩ := sweptRow_same execution.planRevision old
    apply steps.completed
    rw [stepId_of_key sameKey]
    apply mirrored execution present ((samePlan.symm.trans current).trans kept.planRevision) old
    · exact ⟨oldIn, sameRevision.symm.trans (pinned.2.trans samePlan)⟩
    · unfold sweptRow at done
      split at done
      next => contradiction
      next => exact done

def EndedWithGoal (store : GoalStore) : Prop :=
  store.goal.status = .completed → ∀ execution, store.execution = some execution →
    executionTerminal execution.status = true

theorem unended_of_live (ended : EndedWithGoal store) (present : store.execution = some execution)
    (live : executionTerminal execution.status = false) : store.goal.status ≠ .completed := by
  intro completed
  rw [ended completed execution present] at live
  contradiction

theorem live_of_shifted {step next : StepExecutionRow} {currentStep : Option String}
    {flow : FlowRow} (founded : Founded store) (present : store.execution = some execution)
    (pinned : Pinned (viewOf store) execution step)
    (shift : Shift step.status next.status status flowStatus)
    (halted : step.status = .blocked ∨ step.status = .failed →
      execution.status = .blocked ∧ step.attemptCount < step.maxAttempts)
    (flowMoved : FlowMoved store.flow flowStatus currentStep flow) :
    executionTerminal execution.status = false := by
  by_cases stopped : step.status = .blocked ∨ step.status = .failed
  · rw [(halted stopped).1]
    rfl
  · exact live_of_flow (founded.sound.settled execution present) flowMoved pinned
      ((source_of_shift shift).resolve_left stopped)

theorem endedWithGoal_of_move (founded : Founded store) (move : Move deed store reached)
    (ended : EndedWithGoal store) : EndedWithGoal reached := by
  cases move with
  | touched _ ending =>
    intro completed
    exact ended (ending.mp completed)
  | closed unstarted _ _ _ =>
    intro _ execution present
    rw [unstarted] at present
    contradiction
  | childMoved _ => exact ended
  | asked _ _ _ => exact ended
  | held _ _ _ _ => exact ended
  | cut _ _ => exact ended
  | revised unended _ _ _ _ _ _ _ _ =>
    intro completed
    exact absurd completed unended.2
  | started _ active _ _ _ _ _ _ _ _ _ _ =>
    intro completed
    rw [active] at completed
    contradiction
  | shifted present pinned shift halted _ _ _ _ flowMoved _ _ ending _ =>
    intro completed
    have live := live_of_shifted founded present pinned shift halted flowMoved
    exact absurd (ending.mp completed) (unended_of_live ended present live)
  | succeeded present pinned running _ _ _ _ _ flowMoved _ _ _ =>
    intro completed
    have live := live_of_flow (founded.sound.settled _ present) flowMoved pinned
      (Or.inr (Or.inl running))
    have unended := unended_of_live ended present live
    exact absurd completed unended
  | @adopted _ _ _ execution _ _ _ _ present _ idle _ _ _ _ _ _ _ ending _ _ =>
    intro completed
    have live : executionTerminal execution.status = false := by
      rcases idle with blocked | waiting
      · rw [blocked]
        rfl
      · rw [waiting]
        rfl
    exact absurd (ending.mp completed) (unended_of_live ended present live)
  | finished _ _ _ _ _ _ _ =>
    intro _ execution present
    cases present
    rfl
  | failed _ _ _ _ _ =>
    intro _ execution present
    cases present
    rfl
  | @cancelled _ _ _ execution _ _ _ _ _ _ _ _ =>
    intro _ after present
    cases present
    exact (cancelledExecution_ended execution).1

/-- An execution that has nothing left to run may finish the goal: nothing newer than
its pinned revision is planned, or what is planned is done. -/
def FinishReady (store : GoalStore) : Prop :=
  ∀ execution, store.execution = some execution →
    (∀ row, Pinned (viewOf store) execution row → finished row.status = true) →
    execution.planRevision = store.goal.planRevision ∨ CurrentDone store

/-- What holds of the plan of every goal that was finished in that way. -/
structure Proven (store : GoalStore) : Prop where
  mirrored : Mirrored store
  ended : EndedWithGoal store
  done : store.goal.status = .completed → CurrentDone store

def finishRules : Rules :=
  { Rules.free with finish := FinishReady }

theorem done_of_kept (done : store.goal.status = .completed → CurrentDone store)
    (ending : SameEnd store.goal reached.goal)
    (revision : reached.goal.planRevision = store.goal.planRevision)
    (plans : reached.planRevisions = store.planRevisions)
    (steps : StepsKept store.planSteps reached.planSteps) :
    reached.goal.status = .completed → CurrentDone reached := by
  intro completed definition definitionIn required
  rw [revision, plans] at definitionIn
  exact steps.completed _ (done (ending.mp completed) definition definitionIn required)

theorem done_of_finished (regular : Regular store) (mirrored : Mirrored store)
    (present : store.execution = some execution)
    (allDone : ∀ row, Pinned (viewOf store) execution row → finished row.status = true)
    (ready : FinishReady store) : CurrentDone store := by
  rcases ready execution present allDone with current | done
  · intro definition definitionIn _
    rw [← current] at definitionIn
    obtain ⟨row, pinned, isStep⟩ := executed_of_defined regular present definitionIn
    rw [← isStep]
    exact mirrored execution present current row pinned (allDone row pinned)
  · exact done

theorem proven_of_move (regular : Regular store) (move : Move deed store reached)
    (allowed : finishRules.allows store deed) (proven : Proven store) : Proven reached := by
  have mirrored := mirrored_of_move regular.founded move proven.mirrored
  have ended := endedWithGoal_of_move regular.founded move proven.ended
  refine ⟨mirrored, ended, ?_⟩
  have same : SameEnd store.goal store.goal := Iff.rfl
  cases move with
  | touched kept ending =>
    exact done_of_kept proven.done ending kept.planRevision rfl (StepsKept.refl _)
  | childMoved _ => exact proven.done
  | asked _ _ _ => exact proven.done
  | held _ _ _ _ => exact proven.done
  | cut _ _ => exact proven.done
  | revised unended _ _ _ _ _ _ _ _ =>
    intro completed
    exact absurd completed unended.2
  | started _ active _ _ _ _ _ _ _ _ _ _ =>
    intro completed
    rw [active] at completed
    contradiction
  | @closed _ goal unstarted kept done _ =>
    intro _ definition definitionIn _
    rw [kept.planRevision] at definitionIn
    have planned := (regular.aligned.planned definition
      ((mem_planOf _ _ definition).mp definitionIn).1).1
    obtain ⟨row, found⟩ := Option.isSome_iff_exists.mp planned
    obtain ⟨listed, listedIn, -, sameStatus⟩ := mem_listSteps definitionIn found
    exact ⟨row, found, sameStatus.symm.trans (done listed listedIn)⟩
  | shifted _ _ _ _ _ _ _ _ _ _ kept ending steps =>
    exact done_of_kept proven.done ending kept.planRevision rfl steps
  | succeeded _ _ _ _ _ _ _ _ _ _ steps _ =>
    exact done_of_kept proven.done same rfl rfl steps
  | @adopted _ _ _ execution _ _ _ _ present _ idle _ _ _ _ _ _ _ ending _ _ =>
    intro completed
    have live : executionTerminal execution.status = false := by
      rcases idle with blocked | waiting
      · rw [blocked]
        rfl
      · rw [waiting]
        rfl
    exact absurd (ending.mp completed) (unended_of_live proven.ended present live)
  | @finished _ goal _ _ _ present allDone _ _ kept _ _ =>
    intro _ definition definitionIn required
    rw [kept.planRevision] at definitionIn
    exact done_of_finished regular proven.mirrored present allDone allowed definition
      definitionIn required
  | failed _ _ _ kept ending =>
    exact done_of_kept proven.done ending kept.planRevision rfl (StepsKept.refl _)
  | cancelled _ _ _ kept ending steps =>
    exact done_of_kept proven.done ending kept.planRevision rfl steps

theorem proven_of_created {world : World} (created : Created world store) : Proven store := by
  obtain ⟨input, before, ran⟩ := created
  obtain ⟨objective, planSteps, revisions, added, -, -, isStore⟩ :=
    create_writes world.texts input before () store rfl ran
  clear ran
  subst isStore
  constructor
  · intro execution present
    contradiction
  · intro _ execution present
    contradiction
  · intro completed
    contradiction

/-- The executor and a controller finish only what is ready. -/
def FinishesReady (store : GoalStore) (call : GoalCall) : Prop :=
  match call.op with
  | .finish _ _ _ => FinishReady store
  | .decide _ (.finish _) => FinishReady store
  | _ => True

theorem permitted_of_finishesReady {call : GoalCall} (ready : FinishesReady store call) :
    Permitted finishRules store call.op := by
  unfold FinishesReady at ready
  have projects : MayProject finishRules store :=
    fun _ _ _ _ _ _ _ _ => ⟨fun _ _ => trivial, fun _ => trivial⟩
  cases op : call.op with
  | decide expected decision =>
    cases decision with
    | finish revision =>
      rw [op] at ready
      exact ready
    | block _ _ _ _ => exact fun _ _ => trivial
    | _ => exact trivial
  | finish caller execution flow =>
    rw [op] at ready
    exact ready
  | start _ _ => exact ⟨projects, trivial⟩
  | advance _ => exact projects
  | reconcileTask _ => exact projects
  | adoptPlanRevision _ _ => exact ⟨projects, trivial⟩
  | recover => exact ⟨projects, fun _ => trivial⟩
  | reconcileFlow _ => exact fun _ => trivial
  | _ => exact trivial

theorem completed_goal_done (world : World) (first : GoalStore) (calls : List GoalCall)
    (created : Created world first) (ready : EveryStep (step world) FinishesReady first calls) :
    (reach world first calls).goal.status = .completed → ListedDone (reach world first calls) := by
  intro completed
  have permitted : EveryStep (step world)
      (fun store call => Permitted finishRules store call.op) first calls :=
    everyStep_mono (fun _ _ => permitted_of_finishesReady) ready
  have proven := run_preserves world
    (fun _ _ _ allowed regular move proven => proven_of_move regular move allowed proven)
    calls created (proven_of_created created) permitted
  exact listedDone_iff.mpr (proven.done completed)

theorem sample_goal_done :
    (reach sampleWorld (sampleCreated ["Draft"]) sampleFinished).goal.status = .completed ∧
      ListedDone (reach sampleWorld (sampleCreated ["Draft"]) sampleFinished) := by
  have started : step sampleWorld (sampleCreated ["Draft"])
      (sampleCall (.start sampleOwner 1) (some "t1")) = sampleRunning := sample_started
  have current : ∀ store : GoalStore,
      store.execution.map ExecutionRow.planRevision = some store.goal.planRevision →
        FinishReady store := by
    intro store same execution present _
    rw [present, Option.map_some, Option.some.injEq] at same
    exact Or.inl same
  have ready : EveryStep (step sampleWorld) FinishesReady (sampleCreated ["Draft"])
      sampleFinished := by
    refine ⟨trivial, trivial, trivial, ?_, trivial⟩
    apply current
    decide +kernel
  have completed : (reach sampleWorld (sampleCreated ["Draft"]) sampleFinished).goal.status =
      .completed := by
    decide +kernel
  exact ⟨completed, completed_goal_done sampleWorld (sampleCreated ["Draft"]) sampleFinished
    sample_created ready completed⟩

/-- A second step is planned while the first one runs, and nobody adopts it. -/
def sampleRevision : RevisionInput where
  expectedGoalRevision := 1
  expectedExecutionRevision := 2
  expectedPlanRevision := 1
  steps :=
    [ { stepId := "s1"
        ordinal := 1
        title := "Draft"
        required := true
        retryMode := .manual
        maxAttempts := 3 },
      { stepId := "s2"
        ordinal := 2
        title := "Review"
        required := true
        retryMode := .manual
        maxAttempts := 3 } ]

def sampleOutrun : List GoalCall :=
  [sampleCall (.start sampleOwner 1) (some "t1"),
    sampleCall (.revisePlan sampleOwner sampleRevision) none, sampleDelivery,
    sampleCall (.reconcileTask "t1") none, sampleCall (.finish sampleOwner 3 3) none]

theorem sample_goal_undone :
    Created sampleWorld (sampleCreated ["Draft"]) ∧
      (reach sampleWorld (sampleCreated ["Draft"]) sampleOutrun).goal.status = .completed ∧
      ¬ ListedDone (reach sampleWorld (sampleCreated ["Draft"]) sampleOutrun) := by
  rw [show reach sampleWorld (sampleCreated ["Draft"]) sampleOutrun =
    reach sampleWorld sampleRunning sampleOutrun.tail from sample_continued _]
  refine ⟨sample_created, by decide +kernel, ?_⟩
  intro listed
  have open_ : ∃ definition ∈ planOf
      (reach sampleWorld sampleRunning sampleOutrun.tail).planRevisions
      (reach sampleWorld sampleRunning sampleOutrun.tail).goal.planRevision,
      definition.required = true ∧
        ∀ row ∈ (reach sampleWorld sampleRunning sampleOutrun.tail).listSteps,
          row.stepId = definition.stepId → row.status ≠ .completed := by
    decide +kernel
  obtain ⟨definition, definitionIn, required, undone⟩ := open_
  obtain ⟨row, rowIn, isStep, completed⟩ := listed definition definitionIn required
  exact undone row rowIn isStep completed

end OpenRill.Goals.CompletedGoals
