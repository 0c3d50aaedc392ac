import OpenRill.Goals.CompletedGoals

/-!
# The children of a step and its attempts

Only an admission adds a child, and it counts an attempt of the step it is for. An
adoption carries the attempts of a step over while its definition stays as it was, so
the attempts count the children that were ever admitted for the step.
-/

namespace OpenRill.Goals.RetryBound

open Lib Lib.Text Lib.Transaction Lib.Runs Ledger Executor Operations PlanMachine Moves Footing
open Projection Writes Calls Invariants CompletedGoals

variable {store reached : GoalStore} {stepId : String} {deed : Deed} {execution : ExecutionRow}

def admissions (store : GoalStore) (stepId : String) : Nat :=
  store.children.rows.countP (fun child => child.stepKey = stepId)

theorem admissions_eq_links (store : GoalStore) (stepId : String) :
    admissions store stepId = (links store.children).countP (fun entry => entry.2.2 = stepId) := by
  unfold admissions links
  rw [List.countP_map]
  rfl

theorem links_of_move (move : Move deed store reached) :
    links store.children <+: links reached.children := by
  cases move with
  | @shifted _ _ _ _ _ _ _ _ _ _ children _ _ _ _ _ _ tasked _ _ _ _ _ _ =>
    cases tasked with
    | admitted _ _ linked _ _ =>
      unfold links
      rw [linked, List.map_append]
      exact List.prefix_append _ _
    | stopped _ _ same =>
      subst same
      exact List.prefix_rfl
    | freed _ _ same =>
      subst same
      exact List.prefix_rfl
  | @childMoved _ children same =>
    exact same ▸ List.prefix_rfl
  | _ => exact List.prefix_rfl

theorem links_of_led {rules : Rules} (led : Led rules store reached) :
    links store.children <+: links reached.children :=
  @led_keeps rules store reached (fun state => links store.children <+: links state.children)
    (fun _ _ _ _ _ move grown => List.IsPrefix.trans grown (links_of_move move)) led
    List.prefix_rfl

theorem links_of_reach (world : World) (calls : List GoalCall) (regular : Regular store) :
    links store.children <+: links (reach world store calls).children := by
  apply run_relates (step world) Regular
    fun before after => links before.children <+: links after.children
  · intro state
    exact List.prefix_rfl
  · intro first second third before after
    exact before.trans after
  · intro state call holds
    exact regular_of_led (step_led world holds.founded call (permitted_free call.op)) holds
  · intro state call holds
    exact links_of_led (step_led world holds.founded call (permitted_free call.op))
  · exact regular

variable {after : ExecutionRow} {row : StepExecutionRow} {plan : List PlanRevisionStepRow}
variable {table : Table StepExecutionRow.key}

/-- The attempts of a step of the pinned revision are its children; a step that the
revision does not have has none. -/
structure Tallied (stepId : String) (store : GoalStore) : Prop where
  unstarted : store.execution = none → admissions store stepId = 0
  counted : ∀ execution, store.execution = some execution →
    ∀ row, Pinned (viewOf store) execution row → row.stepId = stepId →
      row.attemptCount = admissions store stepId
  absent : ∀ execution, store.execution = some execution →
    (∀ row, Pinned (viewOf store) execution row → row.stepId ≠ stepId) → admissions store stepId = 0

/-- A move past which the same steps are pinned, and which admits as many children for
a pinned step as it counts attempts of it. -/
theorem tallied_of_counted (tallied : Tallied stepId store) (added : Nat)
    (count : admissions reached stepId = admissions store stepId + added)
    (unstarted : reached.execution = none → store.execution = none ∧ added = 0)
    (pinnedTo : ∀ after, reached.execution = some after → ∃ before,
      store.execution = some before ∧ after.planRevision = before.planRevision ∧
      (∀ row ∈ reached.stepExecutions.rows, ∃ old ∈ store.stepExecutions.rows,
        row.key = old.key ∧ (old.planRevision = before.planRevision → old.stepId = stepId →
          row.attemptCount = old.attemptCount + added)) ∧
      reached.stepExecutions.rows.map StepExecutionRow.key =
        store.stepExecutions.rows.map StepExecutionRow.key ∧
      (added ≠ 0 → ∃ old, Pinned (viewOf store) before old ∧ old.stepId = stepId)) :
    Tallied stepId reached := by
  constructor
  · intro missing
    obtain ⟨wasMissing, noneAdded⟩ := unstarted missing
    rw [count, tallied.unstarted wasMissing, noneAdded]
  · intro after present row pinned isStep
    obtain ⟨before, wasPresent, samePlan, rows, -, -⟩ := pinnedTo after present
    obtain ⟨old, oldIn, sameKey, attempts⟩ := rows row pinned.1
    have revision : old.planRevision = before.planRevision := by
      rw [← planRevision_of_key sameKey, ← samePlan]
      exact pinned.2
    have isOld : old.stepId = stepId := (stepId_of_key sameKey).symm.trans isStep
    rw [attempts revision isOld, count]
    rw [tallied.counted before wasPresent old ⟨oldIn, revision⟩ isOld]
  · intro after present missing
    obtain ⟨before, wasPresent, samePlan, -, keys, owned⟩ := pinnedTo after present
    have wasMissing : ∀ old, Pinned (viewOf store) before old → old.stepId ≠ stepId := by
      intro old pinned isOld
      have keyIn : old.key ∈ reached.stepExecutions.rows.map StepExecutionRow.key := by
        rw [keys]
        exact List.mem_map_of_mem pinned.1
      obtain ⟨row, rowIn, sameKey⟩ := List.mem_map.mp keyIn
      apply missing row ⟨rowIn, ?_⟩
      · exact (stepId_of_key sameKey).trans isOld
      · rw [planRevision_of_key sameKey, samePlan]
        exact pinned.2
    have noneAdded : added = 0 := by
      by_contra some
      obtain ⟨old, pinned, isOld⟩ := owned some
      exact wasMissing old pinned isOld
    rw [count, tallied.absent before wasPresent wasMissing, noneAdded]

theorem tallied_of_kept (tallied : Tallied stepId store)
    (rows : reached.stepExecutions = store.stepExecutions)
    (children : links reached.children = links store.children)
    (unstarted : reached.execution = none → store.execution = none)
    (pinnedTo : ∀ after, reached.execution = some after → ∃ before,
      store.execution = some before ∧ after.planRevision = before.planRevision) :
    Tallied stepId reached := by
  apply tallied_of_counted tallied 0
  · rw [admissions_eq_links, admissions_eq_links, children, Nat.add_zero]
  · intro missing
    exact ⟨unstarted missing, rfl⟩
  · intro after present
    obtain ⟨before, wasPresent, samePlan⟩ := pinnedTo after present
    rw [rows]
    exact ⟨before, wasPresent, samePlan, fun row rowIn => ⟨row, rowIn, rfl, fun _ _ => rfl⟩,
      rfl, fun some => absurd rfl some⟩

theorem keys_afterSuccess (table : Table StepExecutionRow.key) (done : StepExecutionRow)
    (next : Option StepExecutionRow) :
    (afterSuccess table done next).rows.map StepExecutionRow.key =
      table.rows.map StepExecutionRow.key := by
  cases next with
  | none => exact keys_update table done
  | some row =>
    have readied := keys_update (table.update done) (readiedRow row)
    exact readied.trans (keys_update table done)

/-- The revision that is planned defines the step as the pinned one does. -/
def StableFor (stepId : String) (store : GoalStore) : Prop :=
  ∀ execution, store.execution = some execution →
    ∀ definition ∈ planOf store.planRevisions execution.planRevision,
      definition.stepId = stepId →
      ∃ newer ∈ planOf store.planRevisions store.goal.planRevision,
        newer.stepId = stepId ∧ definitionOfRow newer = definitionOfRow definition

theorem definition_unique {planRevision : Nat} {first second : PlanRevisionStepRow}
    (firstIn : first ∈ planOf store.planRevisions planRevision)
    (secondIn : second ∈ planOf store.planRevisions planRevision)
    (same : first.stepId = second.stepId) : first = second := by
  obtain ⟨firstRow, firstRevision⟩ := (mem_planOf _ _ first).mp firstIn
  obtain ⟨secondRow, secondRevision⟩ := (mem_planOf _ _ second).mp secondIn
  apply store.planRevisions.steps.row_unique firstRow secondRow
  simp [PlanRevisionStepRow.key, firstRevision, secondRevision, same]

theorem defined_of_executed (regular : Regular store)
    (pinned : Pinned (viewOf store) execution row) :
    ∃ definition ∈ planOf store.planRevisions execution.planRevision,
      definition.stepId = row.stepId := by
  obtain ⟨definition, definitionIn, sameKey, -⟩ := regular.aligned.drawn row pinned.1
  refine ⟨definition, (mem_planOf _ _ definition).mpr ⟨definitionIn, ?_⟩, congrArg Prod.snd sameKey⟩
  exact (congrArg Prod.fst sameKey).trans pinned.2

theorem attempts_of_projected (regular : Regular store) (tallied : Tallied stepId store)
    (present : store.execution = some execution) (stable : StableFor stepId store)
    {definition : PlanRevisionStepRow}
    (definitionIn : definition ∈ planOf store.planRevisions store.goal.planRevision)
    (isStep : definition.stepId = stepId) :
    (projectedStep (rowsOf store execution) definition).attemptCount = admissions store stepId := by
  unfold projectedStep
  simp only
  split
  next missing =>
    rw [List.find?_eq_none] at missing
    have absent : ∀ row, Pinned (viewOf store) execution row → row.stepId ≠ stepId := by
      intro row pinned isRow
      apply missing row ((mem_stepsOf _ _ row).mpr pinned)
      simpa [isStep] using isRow
    rw [tallied.absent execution present absent]
    rfl
  next old found =>
    have pinned : Pinned (viewOf store) execution old :=
      (mem_stepsOf _ _ old).mp (List.mem_of_find?_eq_some found)
    have isOld : old.stepId = stepId := by
      rw [← isStep]
      simpa using List.find?_some found
    obtain ⟨drawn, drawnIn, isDrawn⟩ := defined_of_executed regular pinned
    have drawnStep : drawn.stepId = stepId := isDrawn.trans isOld
    obtain ⟨newer, newerIn, isNewer, same⟩ := stable execution present drawn drawnIn drawnStep
    have isDefinition : newer = definition :=
      definition_unique newerIn definitionIn (isNewer.trans isStep.symm)
    have looked : (rowsOf store execution).planSteps.find?
        (fun step => step.stepId = definition.stepId) = some drawn := by
      cases search : (rowsOf store execution).planSteps.find?
          (fun step => step.stepId = definition.stepId) with
      | none =>
        exfalso
        rw [List.find?_eq_none] at search
        apply search drawn drawnIn
        simpa [isStep] using drawnStep
      | some other =>
        have otherIn : other ∈ planOf store.planRevisions execution.planRevision :=
          List.mem_of_find?_eq_some search
        have isOther : other.stepId = definition.stepId := by
          simpa using List.find?_some search
        rw [definition_unique otherIn drawnIn (isOther.trans (isStep.trans drawnStep.symm))]
    have carried : ((rowsOf store execution).planSteps.find?
        fun step => step.stepId = definition.stepId).map definitionOfRow =
          some (definitionOfRow definition) := by
      rw [looked, Option.map_some, ← same, isDefinition]
    rw [if_pos carried]
    have attempts := tallied.counted execution present old pinned isOld
    split
    next => exact attempts
    next => exact attempts

theorem attempts_of_launched {project : PlanRevisionStepRow → StepExecutionRow}
    (launched : LaunchedBy plan project row) :
    ∃ definition ∈ plan, row.attemptCount = (project definition).attemptCount ∧
      row.stepId = (project definition).stepId := by
  obtain ⟨definition, definitionIn, rfl | ⟨-, rfl⟩⟩ := launched
  · exact ⟨definition, definitionIn, rfl, rfl⟩
  · exact ⟨definition, definitionIn, rfl, rfl⟩

theorem tallied_of_adopted {projected : List StepExecutionRow} (regular : Regular store)
    (regularAfter : Regular reached) (tallied : Tallied stepId store)
    (stable : StableFor stepId store) (present : store.execution = some execution)
    (newer : execution.planRevision < store.goal.planRevision)
    (isProjected : projected = readyFirst ((planOf store.planRevisions
      store.goal.planRevision).map (projectedStep (rowsOf store execution))))
    (filled : table.rows = store.stepExecutions.rows ++ projected)
    (isTable : reached.stepExecutions = table) (isAfter : reached.execution = some after)
    (pinnedTo : after.planRevision = store.goal.planRevision)
    (plans : reached.planRevisions = store.planRevisions)
    (children : reached.children = store.children) : Tallied stepId reached := by
  have sameCount : admissions reached stepId = admissions store stepId := by
    unfold admissions
    rw [children]
  constructor
  · intro missing
    rw [isAfter] at missing
    contradiction
  · intro other isOther row pinned isStep
    rw [isAfter, Option.some.injEq] at isOther
    subst isOther
    have rowIn : row ∈ reached.stepExecutions.rows := pinned.1
    rw [isTable, filled] at rowIn
    rcases List.mem_append.mp rowIn with old | new
    · exfalso
      have known := (regular.founded.sound.settled execution present).stepsKnown row old
      have revision : row.planRevision = after.planRevision := pinned.2
      omega
    · rw [isProjected] at new
      obtain ⟨definition, definitionIn, attempts, sameStep⟩ :=
        attempts_of_launched (launchedBy_of_mem new)
      have isDefinition : definition.stepId = stepId := by
        rw [← isStep, sameStep]
        exact (projectedStep_projects _ definition).1.symm
      rw [attempts, sameCount]
      exact attempts_of_projected regular tallied present stable definitionIn isDefinition
  · intro other isOther missing
    rw [isAfter, Option.some.injEq] at isOther
    subst isOther
    rw [sameCount]
    apply tallied.absent execution present
    intro row pinned isRow
    obtain ⟨definition, definitionIn, isDefinition⟩ := defined_of_executed regular pinned
    obtain ⟨planned, plannedIn, isPlanned, -⟩ :=
      stable execution present definition definitionIn (isDefinition.trans isRow)
    have laterIn : planned ∈ planOf reached.planRevisions after.planRevision := by
      rw [plans, pinnedTo]
      exact plannedIn
    obtain ⟨later, laterPinned, isLater⟩ := executed_of_defined regularAfter isAfter laterIn
    exact missing later laterPinned (isLater.trans isPlanned)

theorem tallied_of_started (tallied : Tallied stepId store) (founded : Founded store)
    (unstarted : store.execution = none)
    (filled : table.rows = store.stepExecutions.rows ++ initialSteps plan)
    (isTable : reached.stepExecutions = table) (children : reached.children = store.children) :
    Tallied stepId reached := by
  have noRows : store.stepExecutions.rows = [] := founded.sound.unstarted unstarted
  have noChildren : admissions reached stepId = 0 := by
    have before := tallied.unstarted unstarted
    unfold admissions at before ⊢
    rw [children]
    exact before
  constructor
  · intro _
    exact noChildren
  · intro _ _ row pinned _
    have rowIn : row ∈ reached.stepExecutions.rows := pinned.1
    rw [isTable, filled, noRows, List.nil_append, initialSteps_eq_readyFirst] at rowIn
    obtain ⟨definition, -, attempts, -⟩ := attempts_of_launched (launchedBy_of_mem rowIn)
    rw [attempts, noChildren]
    rfl
  · intro _ _ _
    exact noChildren

theorem tallied_of_shifted {goal : GoalRow} {step next : StepExecutionRow} (regular : Regular store)
    (tallied : Tallied stepId store) (present : store.execution = some execution)
    (pinned : Pinned (viewOf store) execution step) (place : SamePlace step next)
    (tasked : Tasked goal store.children reached.children step next)
    (rows : reached.stepExecutions = store.stepExecutions.update next)
    (isAfter : reached.execution = some after)
    (samePlan : after.planRevision = execution.planRevision) : Tallied stepId reached := by
  have named : trim step.stepId = step.stepId :=
    idFits_trimmed (named_step regular.aligned pinned.1)
  -- what the move admits for the step, as the attempts of its row count it
  have admitted : admissions reached stepId = admissions store stepId +
      if step.stepId = stepId ∧ next.status = .running then 1 else 0 := by
    cases tasked with
    | @admitted child running _ linked stepKey _ =>
      unfold admissions
      rw [linked, List.countP_append, List.countP_singleton, stepKey, named]
      simp [running]
    | stopped status _ same =>
      have idle : next.status ≠ .running := by
        rcases status with blocked | failed <;> simp [*]
      unfold admissions
      rw [same, if_neg fun both => idle both.2, Nat.add_zero]
    | freed status _ same =>
      have idle : next.status ≠ .running := by
        rcases status with ready | waiting <;> simp [*]
      unfold admissions
      rw [same, if_neg fun both => idle both.2, Nat.add_zero]
  apply tallied_of_counted tallied _ admitted
  · intro missing
    rw [isAfter] at missing
    contradiction
  intro other isOther
  rw [isAfter, Option.some.injEq] at isOther
  subst isOther
  refine ⟨execution, present, samePlan, ?_, ?_, ?_⟩
  · intro row rowIn
    rw [rows] at rowIn
    rcases (mem_of_mem_update pinned.1 place.key row).mp rowIn with isNext | ⟨old, different⟩
    · refine ⟨step, pinned.1, by rw [isNext, place.key], ?_⟩
      intro _ isStep
      rw [isNext, place.attempts]
      simp [isStep]
    · refine ⟨row, old, rfl, ?_⟩
      intro revision isRow
      have another : step.stepId ≠ stepId := by
        intro isStep
        apply different
        unfold StepExecutionRow.key
        rw [revision, isRow, isStep]
        exact congrArg (fun value => (value, stepId)) pinned.2.symm
      rw [if_neg fun both => another both.1, Nat.add_zero]
  · rw [rows]
    exact keys_update store.stepExecutions next
  · intro some
    refine ⟨step, pinned, ?_⟩
    by_contra another
    apply some
    rw [if_neg fun both => another both.1]

theorem tallied_of_move (regular : Regular store) (move : Move deed store reached)
    (stable : deed = .adopt → StableFor stepId store) (tallied : Tallied stepId store) :
    Tallied stepId reached := by
  have regularAfter := regular_of_move move regular
  have same : ∀ after, store.execution = some after → ∃ before, store.execution = some before ∧
      after.planRevision = before.planRevision :=
    fun after present => ⟨after, present, rfl⟩
  cases move with
  | touched _ _ => exact tallied_of_kept tallied rfl rfl id same
  | closed _ _ _ _ => exact tallied_of_kept tallied rfl rfl id same
  | childMoved sameLinks => exact tallied_of_kept tallied rfl sameLinks id same
  | revised _ _ _ _ _ _ _ _ _ => exact tallied_of_kept tallied rfl rfl id same
  | asked _ _ _ => exact tallied_of_kept tallied rfl rfl id same
  | held _ _ _ _ => exact tallied_of_kept tallied rfl rfl id same
  | cut _ _ => exact tallied_of_kept tallied rfl rfl id same
  | started unstarted _ _ filled _ _ _ _ _ _ _ _ =>
    exact tallied_of_started tallied regular.founded unstarted filled rfl rfl
  | shifted present pinned _ _ place _ tasked _ _ _ _ _ _ =>
    exact tallied_of_shifted regular tallied present pinned place tasked rfl rfl rfl
  | adopted present newer _ _ isProjected filled _ _ _ _ _ _ _ =>
    exact tallied_of_adopted regular regularAfter tallied (stable rfl) present newer isProjected
      filled rfl rfl rfl rfl rfl
  | @finished _ _ execution _ _ present _ _ _ _ _ _ =>
    refine tallied_of_kept tallied rfl rfl (by simp) ?_
    intro after isAfter
    cases isAfter
    exact ⟨execution, present, rfl⟩
  | @failed _ _ execution _ _ present _ _ _ _ =>
    refine tallied_of_kept tallied rfl rfl (by simp) ?_
    intro after isAfter
    cases isAfter
    exact ⟨execution, present, rfl⟩
  | @succeeded _ _ execution step done next _ present pinned _ place isDone _ successor _ _ _ _ _ =>
    have readiedIn : ∀ row, next = some row → row ∈ store.stepExecutions.rows :=
      fun row isNext => (successor row isNext).1.1
    refine tallied_of_counted tallied 0 rfl ?_ ?_
    · intro missing
      contradiction
    intro after isAfter
    cases isAfter
    refine ⟨execution, present, rfl, ?_, ?_, fun some => absurd rfl some⟩
    · intro row rowIn
      rcases mem_afterSuccess pinned.1 place.key readiedIn rowIn with
        isDoneRow | ⟨readied, isNext, isReadied⟩ | ⟨old, -⟩
      · refine ⟨step, pinned.1, by rw [isDoneRow, place.key], ?_⟩
        intro _ _
        rw [isDoneRow, place.attempts, isDone]
        rfl
      · rw [isReadied]
        exact ⟨readied, readiedIn readied isNext, rfl, fun _ _ => rfl⟩
      · exact ⟨row, old, rfl, fun _ _ => rfl⟩
    · exact keys_afterSuccess store.stepExecutions done next
  | @cancelled _ _ _ execution table _ present swept _ _ _ _ =>
    refine tallied_of_counted tallied 0 rfl ?_ ?_
    · intro missing
      contradiction
    intro after isAfter
    cases isAfter
    refine ⟨execution, present, (cancelledExecution_ended execution).2, ?_, ?_,
      fun some => absurd rfl some⟩
    · intro row rowIn
      rw [swept] at rowIn
      obtain ⟨old, oldIn, rfl⟩ := List.mem_map.mp rowIn
      refine ⟨old, oldIn, (sweptRow_same execution.planRevision old).1, ?_⟩
      intro _ _
      unfold sweptRow
      split
      next => rfl
      next => rfl
    · change table.rows.map StepExecutionRow.key = _
      rw [swept, List.map_map]
      apply List.map_congr_left
      intro old _
      exact (sweptRow_same execution.planRevision old).1

/-- A call that moves the execution to another revision. -/
def Adopts (before after : GoalStore) : Prop :=
  before.execution ≠ none ∧
    after.execution.map ExecutionRow.planRevision ≠ before.execution.map ExecutionRow.planRevision

instance (before after : GoalStore) : Decidable (Adopts before after) :=
  inferInstanceAs (Decidable (_ ∧ _))

/-- A call that moves the execution to another revision keeps the definition. -/
def KeepsDefinition (world : World) (stepId : String) (store : GoalStore) (call : GoalCall) :
    Prop :=
  Adopts store (step world store call) → StableFor stepId store

def Moved (before after : GoalStore) : Prop :=
  ∃ first last, before.execution = some first ∧ after.execution = some last ∧
    first.planRevision < last.planRevision

def adoptRules (origin : GoalStore) : Rules :=
  { Rules.free with adopt := fun store => store = origin }

theorem pin_of_move (move : Move deed store reached) (present : store.execution = some execution) :
    ∃ after, reached.execution = some after ∧
      execution.planRevision ≤ after.planRevision ∧
      (deed = .adopt → execution.planRevision < after.planRevision) := by
  cases move with
  | started unstarted _ _ _ _ _ _ _ _ _ _ _ =>
    rw [unstarted] at present
    contradiction
  | adopted isExecution newer _ _ _ _ _ _ _ _ _ _ _ =>
    rw [present, Option.some.injEq] at isExecution
    subst isExecution
    exact ⟨_, rfl, Nat.le_of_lt newer, fun _ => newer⟩
  | shifted isExecution _ _ _ _ _ _ _ _ _ _ _ _ =>
    rw [present, Option.some.injEq] at isExecution
    subst isExecution
    exact ⟨_, rfl, Nat.le_refl _, by simp⟩
  | succeeded isExecution _ _ _ _ _ _ _ _ _ _ _ =>
    rw [present, Option.some.injEq] at isExecution
    subst isExecution
    exact ⟨_, rfl, Nat.le_refl _, by simp⟩
  | finished isExecution _ _ _ _ _ _ =>
    rw [present, Option.some.injEq] at isExecution
    subst isExecution
    exact ⟨_, rfl, Nat.le_refl _, by simp⟩
  | failed isExecution _ _ _ _ =>
    rw [present, Option.some.injEq] at isExecution
    subst isExecution
    exact ⟨_, rfl, Nat.le_refl _, by simp⟩
  | cancelled isExecution _ _ _ _ _ =>
    rw [present, Option.some.injEq] at isExecution
    subst isExecution
    refine ⟨_, rfl, ?_, by simp⟩
    rw [(cancelledExecution_ended execution).2]
  | _ => exact ⟨execution, present, Nat.le_refl _, by simp⟩

theorem permitted_adopt (origin : GoalStore) (op : GoalOp) :
    Permitted (adoptRules origin) origin op := by
  have projects : MayProject (adoptRules origin) origin :=
    fun _ _ _ _ _ _ _ _ => ⟨fun _ _ => trivial, fun _ => trivial⟩
  cases op with
  | decide expected decision =>
    cases decision with
    | block _ _ _ _ => exact fun _ _ => trivial
    | _ => exact trivial
  | start _ _ => exact ⟨projects, trivial⟩
  | advance _ => exact projects
  | reconcileTask _ => exact projects
  | adoptPlanRevision _ _ => exact ⟨projects, rfl⟩
  | recover => exact ⟨projects, fun _ => trivial⟩
  | reconcileFlow _ => exact fun _ => trivial
  | _ => exact trivial

section

variable (regular : Regular store) (led : Led (adoptRules store) store reached)
include regular led

theorem tallied_of_stable (stable : StableFor stepId store) (tallied : Tallied stepId store) :
    Tallied stepId reached := by
  have both := @led_keeps (adoptRules store) store reached
    (fun state => Regular state ∧ Tallied stepId state) (by
      intro deed state next allowed _ move holds
      refine ⟨regular_of_move move holds.1, tallied_of_move holds.1 move ?_ holds.2⟩
      intro isAdopt
      rw [isAdopt] at allowed
      rw [show state = store from allowed]
      exact stable) led ⟨regular, tallied⟩
  exact both.2

theorem tallied_or_moved (tallied : Tallied stepId store) :
    Tallied stepId reached ∨ Moved store reached := by
  have both := @led_keeps (adoptRules store) store reached
    (fun state => Regular state ∧ (Tallied stepId state ∨ Moved store state)) (by
      intro deed state next allowed _ move holds
      refine ⟨regular_of_move move holds.1, ?_⟩
      rcases holds.2 with counted | ⟨first, last, isFirst, isLast, further⟩
      · by_cases isAdopt : deed = .adopt
        · right
          rw [isAdopt] at allowed
          have isOrigin : state = store := allowed
          rw [isOrigin] at move
          rw [isAdopt] at move
          obtain ⟨execution, present⟩ : ∃ execution, store.execution = some execution := by
            cases move with
            | adopted present _ _ _ _ _ _ _ _ _ _ _ _ => exact ⟨_, present⟩
          obtain ⟨after, isAfter, -, newer⟩ := pin_of_move move present
          exact ⟨execution, after, present, isAfter, newer rfl⟩
        · left
          exact tallied_of_move holds.1 move (fun adopts => absurd adopts isAdopt) counted
      · right
        obtain ⟨after, isAfter, later, -⟩ := pin_of_move move isLast
        exact ⟨first, after, isFirst, isAfter, Nat.lt_of_lt_of_le further later⟩) led
    ⟨regular, Or.inl tallied⟩
  exact both.2

end

theorem tallied_of_call (world : World) (regular : Regular store) (call : GoalCall)
    (keeps : KeepsDefinition world stepId store call) (tallied : Tallied stepId store) :
    Tallied stepId (step world store call) := by
  have led := step_led world regular.founded call (permitted_adopt store call.op)
  by_cases adopts : Adopts store (step world store call)
  · exact tallied_of_stable regular led (keeps adopts) tallied
  rcases tallied_or_moved regular led tallied with counted | ⟨first, last, isFirst, isLast, less⟩
  · exact counted
  exfalso
  apply adopts
  refine ⟨by simp [isFirst], ?_⟩
  rw [isFirst, isLast, Option.map_some, Option.map_some]
  intro same
  rw [Option.some.injEq] at same
  omega

theorem tallied_of_created {world : World} (created : Created world store) :
    Tallied stepId store := by
  obtain ⟨input, before, ran⟩ := created
  obtain ⟨objective, planSteps, revisions, added, -, -, isStore⟩ :=
    create_writes world.texts input before () store rfl ran
  clear ran
  subst isStore
  constructor
  · intro _
    rfl
  · intro execution present
    contradiction
  · intro execution present
    contradiction

end OpenRill.Goals.RetryBound
