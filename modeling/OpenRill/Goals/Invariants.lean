import OpenRill.Goals.Calls

/-!
# Definitions, attempts and blockers

Every step execution is drawn from the definition of its revision and stays within
its attempts, and the blocker that is open is the one of a stopped step. What a move
can make of a step execution is said once, by its origin.
-/

namespace OpenRill.Goals.Invariants

open Lib Lib.Text Ledger Executor GoalService Operations PlanMachine Moves Footing Projection
open Revisions Calls

variable {store reached : GoalStore}
variable {deed : Deed} {row : StepExecutionRow} {plan : List PlanRevisionStepRow}
variable {project : PlanRevisionStepRow → StepExecutionRow} {definition : PlanRevisionStepRow}
variable {flowStatus : FlowStatus} {execution : ExecutionRow} {flow : FlowRow}

/-- A step execution that a revision begins with, projected from its definition. -/
def LaunchedBy (plan : List PlanRevisionStepRow)
    (project : PlanRevisionStepRow → StepExecutionRow) (row : StepExecutionRow) : Prop :=
  ∃ definition ∈ plan, row = project definition ∨
    ((project definition).status = .pending ∧ row = { project definition with status := .ready })

/-- Where a step execution of the state after a move comes from. -/
inductive Origin (store : GoalStore) (row : StepExecutionRow) : Prop where
  | kept (rowIn : row ∈ store.stepExecutions.rows)
  | rewritten {old : StepExecutionRow}
      (oldIn : old ∈ store.stepExecutions.rows)
      (place : SamePlace old row)
      (admitted : row.status = .running → old.status = .ready)
      (rests : Resting row.status → old.attemptCount < old.maxAttempts ∨ Resting old.status)
  | started
      (unstarted : store.execution = none)
      (launched : LaunchedBy (planOf store.planRevisions store.goal.planRevision)
        (initialStep .pending) row)
  | adopted {execution : ExecutionRow}
      (present : store.execution = some execution)
      (newer : execution.planRevision < store.goal.planRevision)
      (idle : execution.status = .blocked ∨ execution.status = .waiting)
      (unblocked : ∀ blocker, ¬ OpenAt store.blockers execution.planRevision blocker)
      (launched : LaunchedBy (planOf store.planRevisions store.goal.planRevision)
        (projectedStep (rowsOf store execution)) row)

theorem launchedBy_of_mem (rowIn : row ∈ readyFirst (plan.map project)) :
    LaunchedBy plan project row := by
  obtain ⟨source, sourceIn, shape⟩ := mem_readyFirst rowIn
  obtain ⟨definition, definitionIn, rfl⟩ := List.mem_map.mp sourceIn
  exact ⟨definition, definitionIn, shape⟩

theorem origin_of_move (founded : Founded store) (move : Move deed store reached)
    (rowIn : row ∈ reached.stepExecutions.rows) : Origin store row := by
  cases move with
  | touched _ _ => exact Origin.kept rowIn
  | closed _ _ _ _ => exact Origin.kept rowIn
  | childMoved _ => exact Origin.kept rowIn
  | revised _ _ _ _ _ _ _ _ _ => exact Origin.kept rowIn
  | finished _ _ _ _ _ _ _ => exact Origin.kept rowIn
  | failed _ _ _ _ _ => exact Origin.kept rowIn
  | asked _ _ _ => exact Origin.kept rowIn
  | held _ _ _ _ => exact Origin.kept rowIn
  | cut _ _ => exact Origin.kept rowIn
  | @started _ _ _ table _ _ unstarted _ plan filled _ _ _ _ _ _ _ _ =>
    have noRows : store.stepExecutions.rows = [] := founded.sound.unstarted unstarted
    rw [filled, noRows, List.nil_append, initialSteps_eq_readyFirst, ← plan] at rowIn
    exact Origin.started unstarted (launchedBy_of_mem rowIn)
  | @adopted _ _ _ execution _ table _ _ present newer idle unblocked isProjected filled _ _ _ _ _
      _ _ =>
      rw [filled] at rowIn
      rcases List.mem_append.mp rowIn with old | new
      · exact Origin.kept old
      · rw [isProjected] at new
        exact Origin.adopted present newer idle unblocked (launchedBy_of_mem new)
  | @shifted _ _ _ execution step next _ _ _ _ _ _ pinned shift halted place _ _ _ _ _ _ _ _ =>
    rcases (mem_of_mem_update pinned.1 place.key row).mp rowIn with isNext | ⟨old, -⟩
    · rw [isNext]
      refine Origin.rewritten pinned.1 place ?_ ?_
      · intro running
        rw [running] at shift
        generalize step.status = before at shift
        cases shift
        rfl
      · intro rests
        rcases source_of_shift shift with stopped | ready | running | waiting
        · exact Or.inl (halted stopped).2
        · exact Or.inr (Or.inr (Or.inl ready))
        · exfalso
          rw [running] at shift
          generalize next.status = after at shift rests
          cases shift <;> simp [Resting] at rests
        · exact Or.inr (Or.inr (Or.inr waiting))
    · exact Origin.kept old
  | @succeeded _ _ execution step done next _ _ pinned running place isDone _ successor _ _ _ _ _ =>
    have readiedIn : ∀ row, next = some row → row ∈ store.stepExecutions.rows :=
      fun row isNext => (successor row isNext).1.1
    rcases mem_afterSuccess pinned.1 place.key readiedIn rowIn with
      isDoneRow | ⟨readied, isNext, isReadied⟩ | ⟨old, -⟩
    · rw [isDoneRow]
      refine Origin.rewritten pinned.1 place ?_ ?_
      · intro runs
        rw [isDone] at runs
        contradiction
      · intro rests
        simp [Resting, isDone] at rests
    · rw [isReadied]
      refine Origin.rewritten (readiedIn readied isNext) ⟨rfl, rfl, rfl, rfl⟩ ?_ ?_
      · intro runs
        contradiction
      · intro _
        exact Or.inr (Or.inl (successor readied isNext).2.1)
    · exact Origin.kept old
  | @cancelled _ _ _ execution table _ _ swept _ _ _ _ =>
    rw [swept] at rowIn
    obtain ⟨old, oldIn, isSwept⟩ := List.mem_map.mp rowIn
    unfold sweptRow at isSwept
    split at isSwept
    next =>
      rw [← isSwept]
      refine Origin.rewritten oldIn ⟨rfl, rfl, rfl, rfl⟩ ?_ ?_
      · intro runs
        contradiction
      · intro rests
        simp [Resting, cancelledRow] at rests
    next =>
      rw [← isSwept]
      exact Origin.kept oldIn

def DrawnFrom (definition : PlanRevisionStepRow) (row : StepExecutionRow) : Prop :=
  definition.key = row.key ∧ definition.ordinal = row.ordinal ∧
    definition.maxAttempts = row.maxAttempts

/-- The plans and their step executions agree. -/
structure Aligned (store : GoalStore) : Prop where
  named : ∀ row ∈ store.planSteps.rows, idFits row.stepId = true
  planned : ∀ row ∈ store.planRevisions.steps.rows,
    (store.planSteps.find row.stepId).isSome = true ∧ 1 ≤ row.maxAttempts
  drawn : ∀ row ∈ store.stepExecutions.rows,
    ∃ definition ∈ store.planRevisions.steps.rows, DrawnFrom definition row

theorem drawnFrom_samePlace {old : StepExecutionRow} (place : SamePlace old row)
    (drawn : DrawnFrom definition old) : DrawnFrom definition row :=
  ⟨drawn.1.trans place.key.symm, drawn.2.1.trans place.ordinal.symm,
    drawn.2.2.trans place.limit.symm⟩

theorem drawnFrom_projected (rows : ExecutorRows) (definition : PlanRevisionStepRow) :
    DrawnFrom definition (projectedStep rows definition) := by
  unfold projectedStep
  simp only
  split
  next => exact ⟨rfl, rfl, rfl⟩
  next =>
    split
    next =>
      split
      next => exact ⟨rfl, rfl, rfl⟩
      next => exact ⟨rfl, rfl, rfl⟩
    next => exact ⟨rfl, rfl, rfl⟩

theorem drawnFrom_launched (projects : ∀ definition, DrawnFrom definition (project definition))
    (launched : LaunchedBy plan project row) : ∃ definition ∈ plan, DrawnFrom definition row := by
  obtain ⟨definition, definitionIn, rfl | ⟨-, rfl⟩⟩ := launched
  · exact ⟨definition, definitionIn, projects definition⟩
  · exact ⟨definition, definitionIn, projects definition⟩

theorem plans_of_move (move : Move deed store reached) :
    PlanGrown store.planSteps reached.planSteps ∧
      ∃ added, reached.planRevisions.steps.rows = store.planRevisions.steps.rows ++ added ∧
        ∀ row ∈ added, row.planRevision = store.goal.planRevision + 1 ∧
          1 ≤ row.maxAttempts ∧ (reached.planSteps.find row.stepId).isSome = true := by
  have unchanged : ∃ added, store.planRevisions.steps.rows =
      store.planRevisions.steps.rows ++ added ∧ ∀ row ∈ added,
        row.planRevision = store.goal.planRevision + 1 ∧ 1 ≤ row.maxAttempts ∧
          (reached.planSteps.find row.stepId).isSome = true :=
    ⟨[], by simp, by simp⟩
  cases move with
  | revised _ _ _ appended newest limited planned present named =>
    refine ⟨⟨present, named⟩, _, appended, ?_⟩
    intro row rowIn
    exact ⟨newest row rowIn, limited row rowIn, planned row rowIn⟩
  | shifted _ _ _ _ _ _ _ _ _ _ _ _ steps => exact ⟨planGrown_of_keys steps.keys, unchanged⟩
  | succeeded _ _ _ _ _ _ _ _ _ _ steps _ => exact ⟨planGrown_of_keys steps.keys, unchanged⟩
  | adopted _ _ _ _ _ _ _ _ _ _ _ keys _ => exact ⟨planGrown_of_keys keys, unchanged⟩
  | cancelled _ _ _ _ _ steps => exact ⟨planGrown_of_keys steps.keys, unchanged⟩
  | _ => exact ⟨planGrown_of_keys rfl, unchanged⟩

theorem aligned_of_move (founded : Founded store) (move : Move deed store reached)
    (aligned : Aligned store) : Aligned reached := by
  obtain ⟨grown, added, appended, news⟩ := plans_of_move move
  have older : ∀ definition ∈ store.planRevisions.steps.rows,
      definition ∈ reached.planRevisions.steps.rows := by
    intro definition definitionIn
    rw [appended]
    exact List.mem_append_left _ definitionIn
  have fromPlan : ∀ definition ∈ planOf store.planRevisions store.goal.planRevision,
      definition ∈ reached.planRevisions.steps.rows := by
    intro definition definitionIn
    exact older definition ((mem_planOf _ _ definition).mp definitionIn).1
  constructor
  · intro row rowIn
    rcases grown.named row rowIn with fits | found
    · exact fits
    · obtain ⟨old, isOld⟩ := Option.isSome_iff_exists.mp found
      rw [← store.planSteps.key_of_find isOld]
      exact aligned.named old (store.planSteps.mem_of_find isOld)
  · intro row rowIn
    rw [appended] at rowIn
    rcases List.mem_append.mp rowIn with old | new
    · obtain ⟨found, limited⟩ := aligned.planned row old
      exact ⟨grown.present row.stepId found, limited⟩
    · obtain ⟨-, limited, found⟩ := news row new
      exact ⟨found, limited⟩
  · intro row rowIn
    cases origin_of_move founded move rowIn with
    | kept oldIn =>
      obtain ⟨definition, definitionIn, drawn⟩ := aligned.drawn row oldIn
      exact ⟨definition, older definition definitionIn, drawn⟩
    | rewritten oldIn place _ _ =>
      obtain ⟨definition, definitionIn, drawn⟩ := aligned.drawn _ oldIn
      exact ⟨definition, older definition definitionIn, drawnFrom_samePlace place drawn⟩
    | started _ launched =>
      obtain ⟨definition, definitionIn, drawn⟩ :=
        drawnFrom_launched (fun _ => ⟨rfl, rfl, rfl⟩) launched
      exact ⟨definition, fromPlan definition definitionIn, drawn⟩
    | adopted _ _ _ _ launched =>
      obtain ⟨definition, definitionIn, drawn⟩ :=
        drawnFrom_launched (drawnFrom_projected _) launched
      exact ⟨definition, fromPlan definition definitionIn, drawn⟩

theorem idFits_trimmed {text : String} (fits : idFits text = true) : trim text = text := by
  unfold idFits at fits
  simp only [Bool.and_eq_true, decide_eq_true_eq] at fits
  exact fits.1.1

theorem named_definition (aligned : Aligned store)
    (definitionIn : definition ∈ store.planRevisions.steps.rows) :
    idFits definition.stepId = true := by
  obtain ⟨planStep, found⟩ :=
    Option.isSome_iff_exists.mp (aligned.planned definition definitionIn).1
  rw [← store.planSteps.key_of_find found]
  exact aligned.named planStep (store.planSteps.mem_of_find found)

theorem named_step (aligned : Aligned store) (rowIn : row ∈ store.stepExecutions.rows) :
    idFits row.stepId = true := by
  obtain ⟨definition, definitionIn, drawn⟩ := aligned.drawn row rowIn
  rw [← show definition.stepId = row.stepId from congrArg Prod.snd drawn.1]
  exact named_definition aligned definitionIn

variable {status : ExecutionStatus}

/-- The blocker of a stopped step is the only one that is open. -/
structure Guarded (store : GoalStore) : Prop where
  known : ∀ row ∈ store.blockers.rows, ∃ execution, store.execution = some execution ∧
    row.planRevision ≤ execution.planRevision
  named : ∀ row ∈ store.blockers.rows, idFits row.blockerId = true
  blocked : ∀ execution, store.execution = some execution → execution.status = .blocked →
    ∃ blocker, OpenAt store.blockers execution.planRevision blocker ∧
      execution.currentStepId = some blocker.stepId ∧
      ∀ row, OpenAt store.blockers execution.planRevision row → row = blocker
  clear : ∀ execution, store.execution = some execution →
    executionTerminal execution.status = false → execution.status ≠ .blocked →
    ∀ row, ¬ OpenAt store.blockers execution.planRevision row

theorem guarded_of_kept (guarded : Guarded store)
    (blockers : reached.blockers = store.blockers)
    (execution : ∀ execution, store.execution = some execution →
      ∃ changed, reached.execution = some changed ∧
        changed.planRevision = execution.planRevision ∧
        (executionTerminal changed.status = false →
          changed.status = execution.status ∧ changed.currentStepId = execution.currentStepId))
    (unstarted : store.execution = none → reached.execution = none) : Guarded reached := by
  constructor
  · intro row rowIn
    rw [blockers] at rowIn
    obtain ⟨before, present, known⟩ := guarded.known row rowIn
    obtain ⟨changed, isChanged, sameRevision, -⟩ := execution before present
    refine ⟨changed, isChanged, ?_⟩
    rw [sameRevision]
    exact known
  · intro row rowIn
    rw [blockers] at rowIn
    exact guarded.named row rowIn
  · intro after present blocked
    cases before : store.execution with
    | none =>
      rw [unstarted before] at present
      contradiction
    | some old =>
      obtain ⟨changed, isChanged, sameRevision, same⟩ := execution old before
      rw [present, Option.some.injEq] at isChanged
      subst isChanged
      obtain ⟨sameStatus, sameStep⟩ := same (by rw [blocked]; rfl)
      rw [blockers, sameRevision, sameStep]
      exact guarded.blocked old before (sameStatus.symm.trans blocked)
  · intro after present live unblocked
    cases before : store.execution with
    | none =>
      rw [unstarted before] at present
      contradiction
    | some old =>
      obtain ⟨changed, isChanged, sameRevision, same⟩ := execution old before
      rw [present, Option.some.injEq] at isChanged
      subst isChanged
      obtain ⟨sameStatus, -⟩ := same live
      rw [blockers, sameRevision]
      rw [sameStatus] at live unblocked
      exact guarded.clear old before live unblocked

theorem status_of_fits {step : StepStatus} (fitting : fits status step = true) :
    executionTerminal status = false ∧ (step = .blocked ∨ step = .failed ↔ status = .blocked) := by
  cases status <;> cases step <;> simp_all [fits, executionTerminal]

theorem blocked_of_shift {before after : StepStatus}
    (shift : Shift before after status flowStatus) :
    status = .blocked ↔ before = .running := by
  cases shift <;> simp

theorem guarded_shifted {goal : GoalRow} {planSteps : Table PlanStepRow.stepId}
    {step next : StepExecutionRow} {blockers : Table BlockerRow.blockerId}
    {children : Table ChildRow.taskId} (founded : Founded store) (guarded : Guarded store)
    (present : store.execution = some execution) (pinned : Pinned (viewOf store) execution step)
    (shift : Shift step.status next.status status flowStatus)
    (halted : step.status = .blocked ∨ step.status = .failed →
      execution.status = .blocked ∧ step.attemptCount < step.maxAttempts)
    (blockersMoved : BlockersMoved store.blockers blockers execution.planRevision step)
    (flowMoved : FlowMoved store.flow flowStatus (shownStep (some step.stepId)) flow) :
    Guarded
      { store with
        goal := goal
        planSteps := planSteps
        execution := some
          { execution with
            status := status
            currentStepId := some step.stepId
            revision := execution.revision + 1 }
        stepExecutions := store.stepExecutions.update next
        blockers := blockers
        flow := some flow
        children := children } := by
  have settled := founded.sound.settled execution present
  have calm : step.status = .ready ∨ step.status = .running ∨ step.status = .waiting →
      executionTerminal execution.status = false ∧ execution.status ≠ .blocked := by
    intro active
    have live := live_of_flow settled flowMoved pinned active
    refine ⟨live, ?_⟩
    intro isBlocked
    have focus := focus_of_engaged settled live pinned (engaged_of_shift shift)
    have stopped := (status_of_fits focus.fitting).2.mpr isBlocked
    rcases stopped with blocked | failed
    · rw [blocked] at active
      simp at active
    · rw [failed] at active
      simp at active
  have knownAt : ∀ row ∈ store.blockers.rows, row.planRevision ≤ execution.planRevision := by
    intro row rowIn
    obtain ⟨other, isOther, bound⟩ := guarded.known row rowIn
    rw [present, Option.some.injEq] at isOther
    subst isOther
    exact bound
  have keptKnown : BlockersKept store.blockers blockers execution.planRevision →
      (∀ row ∈ blockers.rows, row.planRevision ≤ execution.planRevision) ∧
        ∀ row ∈ blockers.rows, idFits row.blockerId = true := by
    intro kept
    constructor
    · intro row rowIn
      rcases kept.revisions row rowIn with same | ⟨old, oldIn, same⟩
      · exact Nat.le_of_eq same
      · rw [← same]
        exact knownAt old oldIn
    · intro row rowIn
      rcases kept.named row rowIn with fits | ⟨old, oldIn, same⟩
      · exact fits
      · rw [← same]
        exact guarded.named old oldIn
  cases blockersMoved with
  | untouched calmStep same =>
    have before := calm (by rcases calmStep with ready | waiting <;> simp [*])
    have unblocked : status ≠ .blocked := by
      intro isBlocked
      have running := (blocked_of_shift shift).mp isBlocked
      rw [running] at calmStep
      simp at calmStep
    rw [same]
    constructor
    · intro row rowIn
      exact ⟨_, rfl, knownAt row rowIn⟩
    · exact guarded.named
    · intro after isAfter blocked
      cases isAfter
      exact absurd blocked unblocked
    · intro after isAfter _ _
      cases isAfter
      exact guarded.clear execution present before.1 before.2
  | @closed blocker haltedStep wasOpen ofStep rest kept =>
    obtain ⟨revisions, named⟩ := keptKnown kept
    have wasBlocked := (halted haltedStep).1
    obtain ⟨only, -, -, unique⟩ := guarded.blocked execution present wasBlocked
    have noneOpen : ∀ row, ¬ OpenAt blockers execution.planRevision row := by
      intro row isOpen
      obtain ⟨openBefore, different⟩ := rest row isOpen
      apply different
      rw [unique row openBefore, unique blocker wasOpen]
    constructor
    · intro row rowIn
      exact ⟨_, rfl, revisions row rowIn⟩
    · exact named
    · intro after isAfter blocked
      cases isAfter
      have running := (blocked_of_shift shift).mp blocked
      rw [running] at haltedStep
      simp at haltedStep
    · intro after isAfter _ _
      cases isAfter
      exact noneOpen
  | @recorded blocker running isOpen ofStep rest kept =>
    obtain ⟨revisions, named⟩ := keptKnown kept
    have before := calm (Or.inr (Or.inl running))
    constructor
    · intro row rowIn
      exact ⟨_, rfl, revisions row rowIn⟩
    · exact named
    · intro after isAfter _
      cases isAfter
      refine ⟨blocker, isOpen, by rw [ofStep], ?_⟩
      intro row openRow
      rcases rest row openRow with same | openBefore
      · exact same
      · exact absurd openBefore (guarded.clear execution present before.1 before.2 row)
    · intro after isAfter _ unblocked
      cases isAfter
      exact absurd ((blocked_of_shift shift).mpr running) unblocked

theorem guarded_of_clear {after : ExecutionRow} (guarded : Guarded store)
    (blockers : reached.blockers = store.blockers) (present : reached.execution = some after)
    (known : ∀ row ∈ store.blockers.rows, row.planRevision ≤ after.planRevision)
    (unblocked : after.status ≠ .blocked)
    (noneOpen : ∀ row, ¬ OpenAt store.blockers after.planRevision row) : Guarded reached := by
  constructor
  · intro row rowIn
    rw [blockers] at rowIn
    exact ⟨after, present, known row rowIn⟩
  · rw [blockers]
    exact guarded.named
  · intro other isOther blocked
    rw [present, Option.some.injEq] at isOther
    rw [← isOther] at blocked
    contradiction
  · intro other isOther _ _
    rw [present, Option.some.injEq] at isOther
    rw [← isOther, blockers]
    exact noneOpen

theorem guarded_of_move (founded : Founded store) (move : Move deed store reached)
    (guarded : Guarded store) : Guarded reached := by
  have same : ∀ execution, store.execution = some execution →
      ∃ changed, store.execution = some changed ∧
        changed.planRevision = execution.planRevision ∧
        (executionTerminal changed.status = false →
          changed.status = execution.status ∧ changed.currentStepId = execution.currentStepId) :=
    fun execution present => ⟨execution, present, rfl, fun _ => ⟨rfl, rfl⟩⟩
  cases move with
  | touched _ _ => exact guarded_of_kept guarded rfl same id
  | closed _ _ _ _ => exact guarded_of_kept guarded rfl same id
  | childMoved _ => exact guarded_of_kept guarded rfl same id
  | revised _ _ _ _ _ _ _ _ _ => exact guarded_of_kept guarded rfl same id
  | asked _ _ _ => exact guarded_of_kept guarded rfl same id
  | held _ _ _ _ => exact guarded_of_kept guarded rfl same id
  | cut _ _ => exact guarded_of_kept guarded rfl same id
  | @finished _ _ execution _ _ present _ _ _ _ _ _ =>
    refine guarded_of_kept guarded rfl ?_ (by rw [present]; intro missing; contradiction)
    intro before isBefore
    rw [present, Option.some.injEq] at isBefore
    subst isBefore
    exact ⟨_, rfl, rfl, fun live => absurd live (by simp [executionTerminal])⟩
  | @failed _ _ execution _ _ present _ _ _ _ =>
    refine guarded_of_kept guarded rfl ?_ (by rw [present]; intro missing; contradiction)
    intro before isBefore
    rw [present, Option.some.injEq] at isBefore
    subst isBefore
    exact ⟨_, rfl, rfl, fun live => absurd live (by simp [executionTerminal])⟩
  | @cancelled _ _ _ execution _ _ present _ _ _ _ _ =>
    refine guarded_of_kept guarded rfl ?_ (by rw [present]; intro missing; contradiction)
    intro before isBefore
    rw [present, Option.some.injEq] at isBefore
    subst isBefore
    obtain ⟨terminal, samePlan⟩ := cancelledExecution_ended execution
    refine ⟨_, rfl, samePlan, ?_⟩
    intro live
    rw [terminal] at live
    contradiction
  | @started _ execution _ _ _ _ unstarted _ _ _ pinned queued _ _ _ _ _ _ =>
    have noBlockers : ∀ row, row ∉ store.blockers.rows := by
      intro row rowIn
      obtain ⟨other, isOther, -⟩ := guarded.known row rowIn
      rw [unstarted] at isOther
      contradiction
    exact guarded_of_clear guarded rfl rfl
      (fun row rowIn => absurd rowIn (noBlockers row)) (by rw [queued]; simp)
      fun row isOpen => noBlockers row isOpen.mem
  | shifted present pinned shift halted _ _ _ blockersMoved flowMoved _ _ _ _ =>
    exact guarded_shifted founded guarded present pinned shift halted blockersMoved flowMoved
  | @succeeded _ _ execution step _ _ _ present pinned running _ _ _ _ _ flowMoved _ _ _ =>
    have settled := founded.sound.settled execution present
    have live := live_of_flow settled flowMoved pinned (Or.inr (Or.inl running))
    have focus := focus_of_engaged settled live pinned (by simp [Engaged, running, finished])
    have unblocked : execution.status ≠ .blocked := by
      intro isBlocked
      have stopped := (status_of_fits focus.fitting).2.mpr isBlocked
      rw [running] at stopped
      simp at stopped
    refine guarded_of_clear guarded rfl rfl ?_ (by simp)
      (guarded.clear execution present live unblocked)
    intro row rowIn
    obtain ⟨other, isOther, known⟩ := guarded.known row rowIn
    rw [present, Option.some.injEq] at isOther
    subst isOther
    exact known
  | @adopted _ _ _ execution _ _ _ next present newer _ _ _ _ _ _ _ _ _ _ _ =>
    have older : ∀ row ∈ store.blockers.rows,
        row.planRevision < store.goal.planRevision := by
      intro row rowIn
      obtain ⟨other, isOther, known⟩ := guarded.known row rowIn
      rw [present, Option.some.injEq] at isOther
      subst isOther
      exact Nat.lt_of_le_of_lt known newer
    refine guarded_of_clear guarded rfl rfl (fun row rowIn => Nat.le_of_lt (older row rowIn)) ?_ ?_
    · cases next <;> simp
    · intro row isOpen
      have below := older row isOpen.mem
      have same := isOpen.revision
      simp only at same
      omega

/-- No step goes beyond its attempts, and one that may still run has some left. -/
structure Counted (store : GoalStore) : Prop where
  limited : ∀ row ∈ store.stepExecutions.rows, row.attemptCount ≤ row.maxAttempts
  left : ∀ row ∈ store.stepExecutions.rows, Resting row.status → row.attemptCount < row.maxAttempts

section

variable (founded : Founded store) (aligned : Aligned store) (guarded : Guarded store)
include founded aligned guarded

/-- An adopted step begins within its attempts: a stopped one has an open blocker, so
it cannot be carried over. -/
theorem counted_projected (counted : Counted store) (present : store.execution = some execution)
    (idle : execution.status = .blocked ∨ execution.status = .waiting)
    (unblocked : ∀ blocker, ¬ OpenAt store.blockers execution.planRevision blocker)
    (limit : 1 ≤ definition.maxAttempts) :
    (projectedStep (rowsOf store execution) definition).attemptCount ≤
        definition.maxAttempts ∧
      ((projectedStep (rowsOf store execution) definition).status = .pending →
        (projectedStep (rowsOf store execution) definition).attemptCount <
          definition.maxAttempts) := by
  have waiting : execution.status = .waiting := by
    rcases idle with blocked | waiting
    · obtain ⟨blocker, isOpen, -⟩ := guarded.blocked execution present blocked
      exact absurd isOpen (unblocked blocker)
    · exact waiting
  have fresh : (initialStep .pending definition).attemptCount ≤ definition.maxAttempts ∧
      ((initialStep .pending definition).status = .pending →
        (initialStep .pending definition).attemptCount < definition.maxAttempts) :=
    ⟨Nat.zero_le _, fun _ => limit⟩
  unfold projectedStep
  simp only
  split
  next => exact fresh
  next old found =>
    split
    next same =>
      obtain ⟨oldDefinition, isOld, sameDefinition⟩ := Option.map_eq_some_iff.mp same
      have oldIn := (mem_stepsOf _ _ old).mp (List.mem_of_find?_eq_some found)
      have oldId : old.stepId = definition.stepId := by simpa using List.find?_some found
      have definitionIn := (mem_planOf _ _ oldDefinition).mp (List.mem_of_find?_eq_some isOld)
      have definitionId : oldDefinition.stepId = definition.stepId := by
        simpa using List.find?_some isOld
      obtain ⟨source, sourceIn, drawn⟩ := aligned.drawn old oldIn.1
      have isSource : source = oldDefinition := by
        apply store.planRevisions.steps.row_unique sourceIn definitionIn.1
        rw [drawn.1]
        simp [PlanRevisionStepRow.key, StepExecutionRow.key, oldIn.2, definitionIn.2, oldId,
          definitionId]
      have sameLimit : old.maxAttempts = definition.maxAttempts := by
        rw [← drawn.2.2, isSource]
        exact congrArg StepDefinition.maxAttempts sameDefinition
      have limited := counted.limited old oldIn.1
      split
      next done =>
        refine ⟨?_, ?_⟩
        · change old.attemptCount ≤ definition.maxAttempts
          omega
        · intro pending
          change old.status = .pending at pending
          rw [pending] at done
          simp [finished] at done
      next undone =>
        have left : old.attemptCount < old.maxAttempts := by
          apply counted.left old oldIn.1
          have live : executionTerminal execution.status = false := by
            rw [waiting]
            rfl
          rcases (founded.sound.settled execution present).standing live with
            ⟨row, focus⟩ | unfocused
          · rcases focus.behind old oldIn with isRow | waits | done
            · have fitting := focus.fitting
              rw [waiting, ← isRow] at fitting
              right
              right
              revert fitting
              cases old.status <;> simp [fits]
            · exact Or.inl waits.1
            · exact absurd done undone
          · have running := unfocused.running
            rw [waiting] at running
            contradiction
        constructor
        · change old.attemptCount ≤ definition.maxAttempts
          omega
        · intro _
          change old.attemptCount < definition.maxAttempts
          omega
    next => exact fresh

theorem counted_of_move (move : Move deed store reached) (counted : Counted store) :
    Counted reached := by
  have both : ∀ row ∈ reached.stepExecutions.rows, row.attemptCount ≤ row.maxAttempts ∧
      (Resting row.status → row.attemptCount < row.maxAttempts) := by
    intro row rowIn
    cases origin_of_move founded move rowIn with
    | kept oldIn => exact ⟨counted.limited row oldIn, counted.left row oldIn⟩
    | @rewritten old oldIn place admitted rests =>
      have attempts := place.attempts
      have limit := place.limit
      have limited := counted.limited old oldIn
      constructor
      · by_cases running : row.status = .running
        · have left := counted.left old oldIn (Or.inr (Or.inl (admitted running)))
          rw [if_pos running] at attempts
          omega
        · rw [if_neg running] at attempts
          omega
      · intro resting
        have notRunning : row.status ≠ .running := by
          intro running
          rw [running] at resting
          simp [Resting] at resting
        rw [if_neg notRunning] at attempts
        have left : old.attemptCount < old.maxAttempts := by
          rcases rests resting with left | restedBefore
          · exact left
          · exact counted.left old oldIn restedBefore
        omega
    | started _ launched =>
      obtain ⟨definition, definitionIn, shape⟩ := launched
      have limit := (aligned.planned definition ((mem_planOf _ _ _).mp definitionIn).1).2
      rcases shape with rfl | ⟨-, rfl⟩
      · exact ⟨Nat.zero_le _, fun _ => limit⟩
      · exact ⟨Nat.zero_le _, fun _ => limit⟩
    | @adopted execution present _ idle unblocked launched =>
      obtain ⟨definition, definitionIn, shape⟩ := launched
      have limit := (aligned.planned definition ((mem_planOf _ _ _).mp definitionIn).1).2
      obtain ⟨limited, left⟩ := counted_projected founded aligned guarded counted present idle
        unblocked limit
      have drawn := drawnFrom_projected (rowsOf store execution) definition
      rcases shape with rfl | ⟨pending, rfl⟩
      · rw [← drawn.2.2]
        refine ⟨limited, ?_⟩
        intro resting
        apply left
        rcases (projectedStep_projects (rowsOf store execution) definition).2.2.2.2 with
          pending | done
        · exact pending
        · exfalso
          revert done resting
          cases (projectedStep (rowsOf store execution) definition).status <;>
            simp [finished, Resting]
      · change _ ≤ (projectedStep (rowsOf store execution) definition).maxAttempts ∧
          (_ → _ < (projectedStep (rowsOf store execution) definition).maxAttempts)
        rw [← drawn.2.2]
        exact ⟨limited, fun _ => left pending⟩
  exact ⟨fun row rowIn => (both row rowIn).1, fun row rowIn => (both row rowIn).2⟩

end

/-- The flow of an execution exists with it and is bound to its owner and controller. -/
structure Bound (store : GoalStore) : Prop where
  unbound : store.execution = none → store.flow = none
  owned : ∀ execution, store.execution = some execution → execution.owner = store.goal.owner
  bound : ∀ execution, store.execution = some execution →
    ∃ flow, store.flow = some flow ∧ flow.owner = execution.owner ∧
      flow.controllerId = execution.controllerId

theorem bound_of_kept (bound : Bound store) (execution : reached.execution = store.execution)
    (flow : reached.flow = store.flow) (owner : reached.goal.owner = store.goal.owner) :
    Bound reached := by
  constructor
  · rw [execution, flow]
    exact bound.unbound
  · rw [execution, owner]
    exact bound.owned
  · rw [execution, flow]
    exact bound.bound

theorem bound_of_flowMoved {currentStep : Option String} (bound : Bound store)
    (flowMoved : FlowMoved store.flow flowStatus currentStep flow)
    (written : reached.flow = some flow) (owner : reached.goal.owner = store.goal.owner)
    (unstarted : reached.execution = none → store.execution = none)
    (same : ∀ after, reached.execution = some after →
      ∃ before, store.execution = some before ∧ after.owner = before.owner ∧
        after.controllerId = before.controllerId) : Bound reached := by
  obtain ⟨source, isSource, -, sameOwner, sameController, -⟩ := flowMoved.source
  constructor
  · intro missing
    rw [bound.unbound (unstarted missing)] at isSource
    contradiction
  · intro after present
    obtain ⟨before, wasPresent, ownerKept, -⟩ := same after present
    rw [ownerKept, owner]
    exact bound.owned before wasPresent
  · intro after present
    obtain ⟨before, wasPresent, ownerKept, controllerKept⟩ := same after present
    obtain ⟨old, isOld, oldOwner, oldController⟩ := bound.bound before wasPresent
    rw [isSource, Option.some.injEq] at isOld
    subst isOld
    refine ⟨flow, written, ?_, ?_⟩
    · rw [sameOwner, oldOwner, ownerKept]
    · rw [sameController, oldController, controllerKept]

theorem bound_of_move (move : Move deed store reached) (bound : Bound store) : Bound reached := by
  have same : ∀ execution, store.execution = some execution → ∀ after : ExecutionRow,
      after.owner = execution.owner → after.controllerId = execution.controllerId →
      ∀ other, some after = some other → ∃ before, store.execution = some before ∧
        other.owner = before.owner ∧ other.controllerId = before.controllerId := by
    intro execution present after ownerKept controllerKept other isOther
    cases isOther
    exact ⟨execution, present, ownerKept, controllerKept⟩
  have unchanged : ∀ after, store.execution = some after →
      ∃ before, store.execution = some before ∧ after.owner = before.owner ∧
        after.controllerId = before.controllerId :=
    fun after present => ⟨after, present, rfl, rfl⟩
  cases move with
  | touched kept _ => exact bound_of_kept bound rfl rfl kept.owner
  | closed _ kept _ _ => exact bound_of_kept bound rfl rfl kept.owner
  | childMoved _ => exact bound_of_kept bound rfl rfl rfl
  | revised _ kept _ _ _ _ _ _ _ => exact bound_of_kept bound rfl rfl kept.2.1
  | @started _ execution flow _ _ _ _ _ _ _ _ _ _ binding owned _ _ _ =>
    constructor
    · intro missing
      contradiction
    · intro after present
      cases present
      exact owned
    · intro after present
      cases present
      exact ⟨flow, rfl, binding.1, binding.2⟩
  | shifted present _ _ _ _ _ _ _ flowMoved _ kept _ _ =>
    exact bound_of_flowMoved bound flowMoved rfl kept.owner (by simp) (same _ present _ rfl rfl)
  | succeeded present _ _ _ _ _ _ _ flowMoved _ _ _ =>
    exact bound_of_flowMoved bound flowMoved rfl rfl (by simp) (same _ present _ rfl rfl)
  | adopted present _ _ _ _ _ _ flowMoved _ kept _ _ _ =>
    exact bound_of_flowMoved bound flowMoved rfl kept.owner (by simp) (same _ present _ rfl rfl)
  | finished present _ flowMoved _ kept _ _ =>
    exact bound_of_flowMoved bound flowMoved rfl kept.owner (by simp) (same _ present _ rfl rfl)
  | failed present flowMoved _ kept _ =>
    exact bound_of_flowMoved bound flowMoved rfl kept.owner (by simp) (same _ present _ rfl rfl)
  | asked flowMoved _ _ =>
    exact bound_of_flowMoved bound flowMoved rfl rfl id unchanged
  | held _ _ flowMoved _ =>
    exact bound_of_flowMoved bound flowMoved rfl rfl id unchanged
  | cut flowMoved _ =>
    exact bound_of_flowMoved bound flowMoved rfl rfl id unchanged
  | @cancelled _ _ _ execution _ _ present _ flowClosed kept _ _ =>
    have sameRow : (cancelledExecution execution).owner = execution.owner ∧
        (cancelledExecution execution).controllerId = execution.controllerId := by
      unfold cancelledExecution
      split
      next => exact ⟨rfl, rfl⟩
      next => exact ⟨rfl, rfl⟩
    cases flowClosed with
    | @before flow isFlow _ unmoved =>
      constructor
      · intro missing
        contradiction
      · intro after isAfter
        cases isAfter
        rw [sameRow.1]
        exact (bound.owned execution present).trans kept.owner.symm
      · intro after isAfter
        cases isAfter
        rw [sameRow.1, sameRow.2]
        rw [unmoved]
        exact bound.bound execution present
    | now moved _ written =>
      exact bound_of_flowMoved bound moved written kept.owner (by simp)
        (same _ present _ sameRow.1 sameRow.2)

variable {world : World} {rules : Rules} {first : GoalStore}

/-- What holds of every state a run reaches. -/
structure Regular (store : GoalStore) : Prop where
  founded : Founded store
  aligned : Aligned store
  guarded : Guarded store
  counted : Counted store
  bound : Bound store

theorem regular_of_move (move : Move deed store reached) (regular : Regular store) :
    Regular reached where
  founded := founded_of_move move regular.founded
  aligned := aligned_of_move regular.founded move regular.aligned
  guarded := guarded_of_move regular.founded move regular.guarded
  counted := counted_of_move regular.founded regular.aligned regular.guarded move regular.counted
  bound := bound_of_move move regular.bound

theorem regular_of_created (created : Created world store) : Regular store := by
  have founded := founded_of_created created
  obtain ⟨input, before, ran⟩ := created
  obtain ⟨objective, planSteps, revisions, added, grown, revised, isStore⟩ :=
    create_writes world.texts input before () store rfl ran
  subst isStore
  refine ⟨founded, ?_, ?_, ?_, ?_⟩
  · constructor
    · intro row rowIn
      rcases grown.named row rowIn with fits | found
      · exact fits
      · exact absurd found (by simp [Table.empty, Table.find])
    · intro row rowIn
      rw [revised.appended] at rowIn
      exact ⟨revised.planned row rowIn, revised.limited row rowIn⟩
    · intro row rowIn
      exact absurd rowIn (by simp [bareGoal, Table.empty])
  · constructor
    · intro row rowIn
      exact absurd rowIn (by simp [bareGoal, Table.empty])
    · intro row rowIn
      exact absurd rowIn (by simp [bareGoal, Table.empty])
    · intro execution present
      exact absurd present (by simp [bareGoal])
    · intro execution present
      exact absurd present (by simp [bareGoal])
  · constructor
    · intro row rowIn
      exact absurd rowIn (by simp [bareGoal, Table.empty])
    · intro row rowIn
      exact absurd rowIn (by simp [bareGoal, Table.empty])
  · constructor
    · intro _
      rfl
    · intro execution present
      exact absurd present (by simp [bareGoal])
    · intro execution present
      exact absurd present (by simp [bareGoal])

theorem unstarted_of_created (created : Created world store) : store.execution = none := by
  obtain ⟨input, before, ran⟩ := created
  obtain ⟨objective, planSteps, revisions, added, -, -, isStore⟩ :=
    create_writes world.texts input before () store rfl ran
  rw [isStore]
  rfl

theorem regular_of_led (led : Led rules store reached) (regular : Regular store) :
    Regular reached :=
  led_keeps (fun _ _ _ _ _ move => regular_of_move move) led regular

theorem regular_of_run (world : World) (calls : List GoalCall) (created : Created world first) :
    Regular (reach world first calls) := by
  apply Runs.run_invariant (step world) Regular
  · intro state call regular
    exact regular_of_led (step_led world regular.founded call (permitted_free call.op)) regular
  · exact regular_of_created created

/-- Every run of the services is a path of the plan machine. -/
theorem run_follows_moves (world : World) (calls : List GoalCall) (created : Created world first) :
    Led .free first (reach world first calls) := by
  have both := @Runs.run_invariant _ _ (step world)
    (fun store => Regular store ∧ Led .free first store) (by
      rintro store call ⟨regular, led⟩
      have later := step_led world regular.founded call (permitted_free call.op)
      exact ⟨regular_of_led later regular, led.trans later⟩) first calls
    ⟨regular_of_created created, Led.refl⟩
  exact both.2

theorem sample_run_follows :
    Led .free (sampleCreated ["Draft"]) (reach sampleWorld (sampleCreated ["Draft"])
      [sampleCall (.start sampleOwner 1) (some "t1")]) :=
  run_follows_moves sampleWorld _ sample_created

theorem run_preserves {invariant : GoalStore → Prop} (world : World)
    (preserved : ∀ deed store reached, rules.allows store deed → Regular store →
      Move deed store reached → invariant store → invariant reached) (calls : List GoalCall)
    (created : Created world first) (initially : invariant first)
    (meets : Runs.EveryStep (step world) (fun store call => Permitted rules store call.op) first
      calls) : invariant (reach world first calls) := by
  have regular := regular_of_created created
  have both := @run_keeps rules (fun store => Regular store ∧ invariant store) world
    (fun deed store reached allowed _ move holds => ⟨regular_of_move move holds.1,
      preserved deed store reached allowed holds.1 move holds.2⟩)
    calls first regular.founded ⟨regular, initially⟩ meets
  exact both.2

end OpenRill.Goals.Invariants
