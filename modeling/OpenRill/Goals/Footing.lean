import OpenRill.Goals.Moves

/-!
# What every move keeps

The footing of every transaction: the rows of the execution are sound, a step that
waits for its turn has no task, the task of a step is a child of the flow, and the
child of a running step was admitted under the key of its attempt.
-/

namespace OpenRill.Goals.Footing

open Lib Lib.Text Ledger Executor PlanMachine Moves

variable {goal : GoalRow} {step row : StepExecutionRow} {store reached : GoalStore}
variable {execution : ExecutionRow}

def Resting (status : StepStatus) : Prop :=
  status = .pending ∨ status = .ready ∨ status = .waiting

def AdmittedAs (goalId : String) (row : StepExecutionRow) (child : ChildRow) : Prop :=
  row.currentTaskId = some child.taskId ∧ child.stepKey = trim row.stepId ∧
    child.requestKey = trim (requestKey goalId row.planRevision row.stepId row.attemptCount)

structure Founded (store : GoalStore) : Prop where
  sound : Sound (viewOf store)
  resting : ∀ row ∈ store.stepExecutions.rows, Resting row.status → row.currentTaskId = none
  linked : ∀ row ∈ store.stepExecutions.rows, ∀ taskId, row.currentTaskId = some taskId →
    ∃ child ∈ store.children.rows, child.taskId = taskId
  admitted : ∀ row ∈ store.stepExecutions.rows, row.status = .running →
    ∃ child ∈ store.children.rows, AdmittedAs store.goal.goalId row child

variable {before after : Table ChildRow.taskId} {child : ChildRow}

def ChildrenKept (before after : Table ChildRow.taskId) : Prop :=
  ∀ child ∈ before.rows, ∃ later ∈ after.rows, link later = link child

theorem childrenKept_refl (children : Table ChildRow.taskId) : ChildrenKept children children :=
  fun child childIn => ⟨child, childIn, rfl⟩

theorem childrenKept_appended (linked : after.rows = before.rows ++ [child]) :
    ChildrenKept before after := by
  intro other otherIn
  refine ⟨other, ?_, rfl⟩
  rw [linked]
  exact List.mem_append_left _ otherIn

theorem childrenKept_of_links (same : links after = links before) : ChildrenKept before after := by
  intro child childIn
  have linkIn : link child ∈ links after := by
    rw [same]
    exact List.mem_map_of_mem childIn
  obtain ⟨later, laterIn, isLink⟩ := List.mem_map.mp linkIn
  exact ⟨later, laterIn, isLink⟩

theorem childrenKept_of_tasked {next : StepExecutionRow}
    (tasked : Tasked goal before after step next) : ChildrenKept before after := by
  cases tasked with
  | admitted _ _ linked _ _ => exact childrenKept_appended linked
  | stopped _ _ same =>
    rw [same]
    exact childrenKept_refl before
  | freed _ _ same =>
    rw [same]
    exact childrenKept_refl before

theorem admittedAs_of_link {goalId : String} {later : ChildRow} (same : link later = link child)
    (admitted : AdmittedAs goalId row child) : AdmittedAs goalId row later := by
  simp only [link, Prod.mk.injEq] at same
  obtain ⟨sameTask, sameRequest, sameStep⟩ := same
  obtain ⟨task, stepKey, requested⟩ := admitted
  refine ⟨?_, ?_, ?_⟩
  · rw [sameTask]
    exact task
  · rw [sameStep]
    exact stepKey
  · rw [sameRequest]
    exact requested

section Preservation

variable (founded : Founded store) (sound : Sound (viewOf reached)) (goalId : reached.goal.goalId
  = store.goal.goalId) (children : ChildrenKept store.children reached.children)

include founded sound goalId children

theorem founded_of_rows (rows : ∀ row ∈ reached.stepExecutions.rows,
      (∃ old ∈ store.stepExecutions.rows, row.key = old.key ∧
        row.currentTaskId = old.currentTaskId ∧
        (Resting row.status → Resting old.status) ∧
        (row.status = .running → old.status = .running ∧ row.attemptCount = old.attemptCount)) ∨
      (row.currentTaskId = none ∧ row.status ≠ .running) ∨
      (row.status = .running ∧
        ∃ child ∈ reached.children.rows, AdmittedAs store.goal.goalId row child)) :
    Founded reached := by
  constructor
  · exact sound
  · intro row rowIn rests
    rcases rows row rowIn with ⟨old, oldIn, -, task, restedBefore, -⟩ | fresh | ⟨running, -⟩
    · rw [task]
      exact founded.resting old oldIn (restedBefore rests)
    · exact fresh.1
    · rw [running] at rests
      simp [Resting] at rests
  · intro row rowIn taskId taken
    rcases rows row rowIn with ⟨old, oldIn, -, task, -, -⟩ | fresh | ⟨-, child, childIn, as⟩
    · rw [task] at taken
      obtain ⟨child, childIn, isTask⟩ := founded.linked old oldIn taskId taken
      obtain ⟨later, laterIn, same⟩ := children child childIn
      refine ⟨later, laterIn, ?_⟩
      rw [← isTask]
      exact congrArg Prod.fst same
    · rw [fresh.1] at taken
      contradiction
    · rw [as.1, Option.some.injEq] at taken
      exact ⟨child, childIn, taken⟩
  · intro row rowIn running
    rw [goalId]
    rcases rows row rowIn with ⟨old, oldIn, key, task, -, ranBefore⟩ | fresh | ⟨-, admitted⟩
    · obtain ⟨wasRunning, attempts⟩ := ranBefore running
      obtain ⟨child, childIn, taken, stepKey, requested⟩ :=
        founded.admitted old oldIn wasRunning
      obtain ⟨later, laterIn, same⟩ := children child childIn
      refine ⟨later, laterIn, admittedAs_of_link same ?_⟩
      refine ⟨task.trans taken, ?_, ?_⟩
      · rw [stepId_of_key key]
        exact stepKey
      · rw [stepId_of_key key, planRevision_of_key key, attempts]
        exact requested
    · exact absurd running fresh.2
    · exact admitted

theorem founded_of_kept (same : reached.stepExecutions = store.stepExecutions) :
    Founded reached := by
  apply founded_of_rows founded sound goalId children
  intro row rowIn
  rw [same] at rowIn
  left
  exact ⟨row, rowIn, rfl, rfl, id, fun running => ⟨running, rfl⟩⟩

end Preservation

variable {view : ExecutionView} {flow : FlowRow}

theorem sound_flow {flowStatus : FlowStatus} {currentStep : Option String} (sound : Sound view)
    (flowMoved : FlowMoved view.flow flowStatus currentStep flow) :
    Sound { view with flow := some flow } := by
  constructor
  · exact sound.plansKnown
  · exact sound.unstarted
  · exact sound.placesDistinct
  · exact sound.tasksDistinct
  intro execution present
  have settled := sound.settled execution present
  constructor
  · exact settled.pinnedKnown
  · exact settled.stepsKnown
  · exact settled.runningPinned
  · exact settled.snapshot
  · intro live
    rcases settled.standing live with ⟨row, focus⟩ | unfocused
    · exact Or.inl ⟨row, focus.pinned, focus.current, focus.fitting, focus.behind⟩
    · exact Or.inr ⟨unfocused.running, unfocused.idle⟩
  · intro terminal
    right
    rcases settled.ended terminal with ⟨before, isFlow, ended⟩ | still
    · obtain ⟨source, isSource, active, -⟩ := flowMoved.source
      rw [isFlow, Option.some.injEq] at isSource
      rw [isSource, active] at ended
      contradiction
    · exact still

theorem sound_ended (ending : ExecutionRow) (sound : Sound view)
    (present : view.execution = some execution)
    (samePlan : ending.planRevision = execution.planRevision)
    (terminal : executionTerminal ending.status = true)
    (flowTerminated : flowTerminal flow.status = true) :
    Sound { view with execution := some ending, flow := some flow } := by
  apply sound_reflowed sound present samePlan
  · intro live
    rw [terminal] at live
    contradiction
  · intro _
    exact Or.inl ⟨flow, rfl, flowTerminated⟩

variable {deed : Deed}

theorem viewOf_goal (kept : GoalKept store.goal goal) :
    viewOf { store with goal := goal } = viewOf store := by
  unfold viewOf
  simp only [kept.owner, kept.planRevision]

theorem initialStep_projects (definition : PlanRevisionStepRow) :
    (initialStep .pending definition).stepId = definition.stepId ∧
      (initialStep .pending definition).planRevision = definition.planRevision ∧
      (initialStep .pending definition).ordinal = definition.ordinal ∧
      (initialStep .pending definition).currentTaskId = none ∧
      ((initialStep .pending definition).status = .pending ∨
        finished (initialStep .pending definition).status = true) :=
  ⟨rfl, rfl, rfl, rfl, Or.inl rfl⟩

theorem projectedStep_projects (rows : ExecutorRows) (definition : PlanRevisionStepRow) :
    (projectedStep rows definition).stepId = definition.stepId ∧
      (projectedStep rows definition).planRevision = definition.planRevision ∧
      (projectedStep rows definition).ordinal = definition.ordinal ∧
      (projectedStep rows definition).currentTaskId = none ∧
      ((projectedStep rows definition).status = .pending ∨
        finished (projectedStep rows definition).status = true) := by
  unfold projectedStep
  simp only
  split
  next => exact initialStep_projects definition
  next old _ =>
    split
    next =>
      split
      next done => exact ⟨rfl, rfl, rfl, rfl, Or.inr done⟩
      next => exact ⟨rfl, rfl, rfl, rfl, Or.inl rfl⟩
    next => exact initialStep_projects definition

theorem cancelledExecution_ended (execution : ExecutionRow) :
    executionTerminal (cancelledExecution execution).status = true ∧
      (cancelledExecution execution).planRevision = execution.planRevision := by
  unfold cancelledExecution
  split
  next terminal => exact ⟨terminal, rfl⟩
  next => exact ⟨rfl, rfl⟩

theorem none_running (sound : Sound (viewOf store)) (present : store.execution = some execution)
    (idle : execution.status = .blocked ∨ execution.status = .waiting) :
    ∀ row ∈ store.stepExecutions.rows, row.status ≠ .running := by
  intro row rowIn running
  have settled := sound.settled execution present
  have live : executionTerminal execution.status = false := by
    rcases idle with blocked | waiting
    · rw [blocked]
      rfl
    · rw [waiting]
      rfl
  have focus := focus_of_engaged settled live
    ⟨rowIn, settled.runningPinned row rowIn running⟩ (by simp [Engaged, running, finished])
  have fitting := focus.fitting
  rw [running] at fitting
  rcases idle with blocked | waiting
  · rw [blocked] at fitting
    contradiction
  · rw [waiting] at fitting
    contradiction

theorem sound_of_move (move : Move deed store reached) (sound : Sound (viewOf store)) :
    Sound (viewOf reached) := by
  cases move with
  | touched kept _ =>
    rw [viewOf_goal kept]
    exact sound
  | closed _ kept _ _ =>
    rw [viewOf_goal kept]
    exact sound
  | childMoved _ => exact sound
  | revised _ same newer appended newest _ _ _ _ =>
    have revised := sound_revised sound appended newest
    unfold viewOf at revised ⊢
    simp only [same.2.1, newer]
    exact revised
  | started unstarted _ plan filled pinned queued current _ _ _ _ _ =>
    have noRows := sound.unstarted unstarted
    rw [initialSteps_eq_readyFirst, ← plan] at filled
    refine sound_launched sound ?_ initialStep_projects filled pinned ?_ ?_
    · intro row rowIn
      rw [noRows] at rowIn
      simp at rowIn
    · change _ = Option.map _ (List.find? _ (readyFirst
        ((planOf store.planRevisions store.goal.planRevision).map (initialStep .pending))))
      rw [plan, ← initialSteps_eq_readyFirst, current]
      simp [initialSteps, initialStep]
    · rw [current, queued]
      rfl
  | shifted present pinned shift halted place taskFree _ _ flowMoved _ kept _ _ =>
    have shifted := sound_shifted sound present pinned shift (fun stopped => (halted stopped).1)
      place taskFree flowMoved
    unfold viewOf at shifted ⊢
    simp only [kept.owner, kept.planRevision]
    exact shifted
  | succeeded present pinned running place isDone task successor _ flowMoved _ _ _ =>
    exact sound_succeeded sound present pinned running place isDone task flowMoved successor
  | @adopted _ goal _ execution flow table projected next present newer idle _ isProjected filled
      chosen _ _ kept _ _ _ =>
      have settled := sound.settled execution present
      rw [isProjected] at filled chosen
      have older : ∀ row ∈ (viewOf store).stepExecutions.rows,
          row.planRevision < (viewOf store).planRevision ∧ row.status ≠ .running := by
        intro row rowIn
        constructor
        · exact Nat.lt_of_le_of_lt (settled.stepsKnown row rowIn) newer
        · exact none_running sound present idle row rowIn
      have launched := @sound_launched (viewOf store)
        { execution with
          planRevision := store.goal.planRevision
          status := if next.isSome then .queued else .running
          currentStepId := next
          revision := execution.revision + 1 }
        (some flow) table (projectedStep (rowsOf store execution)) sound older
        (projectedStep_projects (rowsOf store execution)) filled rfl chosen rfl
      unfold viewOf at launched ⊢
      simp only [kept.owner, kept.planRevision]
      exact launched
  | @finished _ goal execution flow _ present _ flowMoved _ kept _ _ =>
    have flowOver : flowTerminal flow.status = true := by
      rw [flowMoved.reached]
      rfl
    have ended := sound_ended
      { execution with
        status := .succeeded
        currentStepId := none
        revision := execution.revision + 1 } sound present rfl rfl flowOver
    unfold viewOf at ended ⊢
    simp only [kept.owner, kept.planRevision]
    exact ended
  | @failed _ goal execution flow _ present flowMoved _ kept _ =>
    have flowOver : flowTerminal flow.status = true := by
      rw [flowMoved.reached]
      rfl
    have ended := sound_ended
      { execution with
        status := .failed
        revision := execution.revision + 1 } sound present rfl rfl flowOver
    unfold viewOf at ended ⊢
    simp only [kept.owner, kept.planRevision]
    exact ended
  | @cancelled _ goal _ execution table flow present swept _ kept _ _ =>
    obtain ⟨terminal, samePlan⟩ := cancelledExecution_ended execution
    have closed := @sound_swept (viewOf store) execution (cancelledExecution execution) table
      flow sound present samePlan terminal swept
    unfold viewOf at closed ⊢
    simp only [kept.owner, kept.planRevision]
    exact closed
  | asked flowMoved _ _ => exact sound_flow sound flowMoved
  | held _ _ flowMoved _ => exact sound_flow sound flowMoved
  | cut flowMoved _ => exact sound_flow sound flowMoved

theorem launched_at_rest {plan : List PlanRevisionStepRow}
    {project : PlanRevisionStepRow → StepExecutionRow}
    (projects : ∀ definition, (project definition).currentTaskId = none ∧
      ((project definition).status = .pending ∨ finished (project definition).status = true))
    (rowIn : row ∈ readyFirst (plan.map project)) :
    row.currentTaskId = none ∧ row.status ≠ .running := by
  obtain ⟨source, sourceIn, shape⟩ := mem_readyFirst rowIn
  obtain ⟨definition, -, rfl⟩ := List.mem_map.mp sourceIn
  obtain ⟨task, status⟩ := projects definition
  rcases shape with same | ⟨-, readied⟩
  · rw [same]
    refine ⟨task, ?_⟩
    intro running
    rcases status with pending | done
    · rw [pending] at running
      contradiction
    · rw [running] at done
      contradiction
  · rw [readied]
    exact ⟨task, by simp⟩

theorem mem_afterSuccess {table : Table StepExecutionRow.key} {done : StepExecutionRow}
    {next : Option StepExecutionRow} (stepIn : step ∈ table.rows) (sameKey : done.key = step.key)
    (successor : ∀ row, next = some row → row ∈ table.rows)
    (rowIn : row ∈ (afterSuccess table done next).rows) :
    row = done ∨ (∃ readied, next = some readied ∧ row = readiedRow readied) ∨
      (row ∈ table.rows ∧ row.key ≠ step.key) := by
  have first : ∀ other, other ∈ (table.update done).rows →
      other = done ∨ (other ∈ table.rows ∧ other.key ≠ step.key) := by
    intro other otherIn
    exact (mem_of_mem_update stepIn sameKey other).mp otherIn
  cases next with
  | none =>
    rcases first row rowIn with isDone | old
    · exact Or.inl isDone
    · exact Or.inr (Or.inr old)
  | some readied =>
    obtain ⟨shadow, found⟩ : ∃ shadow, (table.update done).find (readiedRow readied).key =
        some shadow := by
      have present : table.find done.key = some step := by
        rw [sameKey]
        exact table.find_of_mem stepIn
      rw [table.find_update done present]
      by_cases isDone : done.key = (readiedRow readied).key
      · exact ⟨done, if_pos isDone⟩
      · rw [if_neg isDone]
        exact ⟨readied, table.find_of_mem (successor readied rfl)⟩
    rcases ((table.update done).mem_update_iff _ found row).mp rowIn with isReadied | ⟨old, -⟩
    · exact Or.inr (Or.inl ⟨readied, rfl, isReadied⟩)
    · rcases first row old with isDone | kept
      · exact Or.inl isDone
      · exact Or.inr (Or.inr kept)

theorem founded_of_move (move : Move deed store reached) (founded : Founded store) :
    Founded reached := by
  have sound := sound_of_move move founded.sound
  cases move with
  | touched kept _ =>
    exact founded_of_kept founded sound kept.goalId (childrenKept_refl _) rfl
  | closed _ kept _ _ =>
    exact founded_of_kept founded sound kept.goalId (childrenKept_refl _) rfl
  | childMoved same =>
    exact founded_of_kept founded sound rfl (childrenKept_of_links same) rfl
  | revised _ same _ _ _ _ _ _ _ =>
    exact founded_of_kept founded sound same.1 (childrenKept_refl _) rfl
  | finished _ _ _ _ kept _ _ =>
    exact founded_of_kept founded sound kept.goalId (childrenKept_refl _) rfl
  | failed _ _ _ kept _ =>
    exact founded_of_kept founded sound kept.goalId (childrenKept_refl _) rfl
  | asked _ _ _ => exact founded_of_kept founded sound rfl (childrenKept_refl _) rfl
  | held _ _ _ _ => exact founded_of_kept founded sound rfl (childrenKept_refl _) rfl
  | cut _ _ => exact founded_of_kept founded sound rfl (childrenKept_refl _) rfl
  | started unstarted _ plan filled _ _ _ _ _ _ _ _ =>
    apply founded_of_rows founded sound rfl (childrenKept_refl _)
    intro row rowIn
    right
    left
    have noRows : store.stepExecutions.rows = [] := founded.sound.unstarted unstarted
    rw [filled, noRows, List.nil_append, initialSteps_eq_readyFirst] at rowIn
    exact launched_at_rest (fun definition => ⟨rfl, Or.inl rfl⟩) rowIn
  | adopted _ _ _ _ isProjected filled _ _ _ kept _ _ _ =>
    apply founded_of_rows founded sound kept.goalId (childrenKept_refl _)
    intro row rowIn
    rw [filled] at rowIn
    rcases List.mem_append.mp rowIn with old | new
    · left
      exact ⟨row, old, rfl, rfl, id, fun running => ⟨running, rfl⟩⟩
    · right
      left
      rw [isProjected] at new
      exact launched_at_rest (fun definition => (projectedStep_projects _ definition).2.2.2) new
  | @shifted _ goal _ execution step next _ _ flow _ children _ pinned _ _ place _ tasked _ _ _
      kept _ _ =>
      apply founded_of_rows founded sound kept.goalId (childrenKept_of_tasked tasked)
      intro row rowIn
      rcases (mem_of_mem_update pinned.1 place.key row).mp rowIn with isNext | ⟨old, -⟩
      · rw [isNext]
        cases tasked with
        | @admitted child running taken linked stepKey requested =>
          right
          right
          refine ⟨running, child, ?_, taken, ?_, ?_⟩
          · rw [linked]
            simp
          · rw [stepId_of_key place.key]
            exact stepKey
          · rw [stepId_of_key place.key, planRevision_of_key place.key]
            exact requested
        | stopped status task _ =>
          left
          refine ⟨step, pinned.1, place.key, task, ?_, ?_⟩
          · intro rests
            rcases status with blocked | failed
            · simp [Resting, blocked] at rests
            · simp [Resting, failed] at rests
          · intro running
            rcases status with blocked | failed
            · rw [blocked] at running
              contradiction
            · rw [failed] at running
              contradiction
        | freed status task _ =>
          right
          left
          refine ⟨task, ?_⟩
          intro running
          rcases status with ready | waiting
          · rw [ready] at running
            contradiction
          · rw [waiting] at running
            contradiction
      · left
        exact ⟨row, old, rfl, rfl, id, fun running => ⟨running, rfl⟩⟩
  | @succeeded _ _ execution step done next flow _ pinned _ place isDone task successor _ _ _ _
      _ =>
      apply founded_of_rows founded sound rfl (childrenKept_refl _)
      intro row rowIn
      have readiedIn : ∀ row, next = some row → row ∈ store.stepExecutions.rows :=
        fun row isNext => (successor row isNext).1.1
      rcases mem_afterSuccess pinned.1 place.key readiedIn rowIn with
        isDoneRow | ⟨readied, -, isReadied⟩ | ⟨old, -⟩
      · left
        rw [isDoneRow]
        refine ⟨step, pinned.1, place.key, task, ?_, ?_⟩
        · intro rests
          simp [Resting, isDone] at rests
        · intro running
          rw [isDone] at running
          contradiction
      · right
        left
        rw [isReadied]
        exact ⟨rfl, by simp [readiedRow]⟩
      · left
        exact ⟨row, old, rfl, rfl, id, fun running => ⟨running, rfl⟩⟩
  | @cancelled _ _ _ execution table _ present swept _ kept _ _ =>
    apply founded_of_rows founded sound kept.goalId (childrenKept_refl _)
    intro row rowIn
    rw [swept] at rowIn
    obtain ⟨old, oldIn, rfl⟩ := List.mem_map.mp rowIn
    left
    obtain ⟨key, -, -, task⟩ := sweptRow_same execution.planRevision old
    refine ⟨old, oldIn, key, task, ?_, ?_⟩
    · unfold sweptRow
      split
      next =>
        intro rests
        simp [Resting, cancelledRow] at rests
      next => exact id
    · unfold sweptRow
      split
      next =>
        intro running
        simp [cancelledRow] at running
      next =>
        intro running
        exact ⟨running, rfl⟩

end OpenRill.Goals.Footing
