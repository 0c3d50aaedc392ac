import Mathlib.Data.List.Induction
import OpenRill.Goals.CompletedGoals
import OpenRill.Goals.GoalBook

/-!
# The plan of a goal that nobody executes

While a goal has no execution its mutable plan only changes by status: the steps,
their order and their titles stay what the plan was set to, and each plan revision
holds them as rows. The steps are worked off in order, because a step that is done
or cancelled is never opened again.
-/

namespace OpenRill.Goals.ManualGoals

open Lib Lib.Runs Lib.Transaction Ledger GoalService Writes Revisions GoalBook

variable {known store : GoalStore} {steps : List PlanStepRow} {planSteps : Table PlanStepRow.stepId}
variable {book : Book} {caller : GoalCaller} {op : ServiceOp}

def snapshotRow (planRevision : Nat) (step : PlanStepRow) : PlanRevisionStepRow where
  planRevision := planRevision
  stepId := step.stepId
  ordinal := step.ordinal
  title := step.title
  required := true
  retryMode := .manual
  maxAttempts := 3

def advanced : PlanStepStatus → Bool
  | .inProgress | .blocked | .completed => true
  | .pending | .cancelled => false

def closed : PlanStepStatus → Bool
  | .completed | .cancelled => true
  | .pending | .inProgress | .blocked => false

/-- Everything below a step whose turn has come is closed. -/
def InOrder (steps : List PlanStepRow) : Prop :=
  ∀ step ∈ steps, advanced step.status = true →
    ∀ other ∈ steps, other.ordinal < step.ordinal → closed other.status = true

/-- What holds of every goal while nobody executes it. -/
structure Manual (store : GoalStore) : Prop where
  unexecuted : store.execution = none
  numbered : 1 ≤ store.goal.planRevision
  ascending : (store.planSteps.rows.map PlanStepRow.ordinal).Pairwise (· < ·)
  past : ∀ row ∈ store.planRevisions.steps.rows, row.planRevision ≤ store.goal.planRevision
  snapshot : store.planRevisions.steps.rows.filter
      (fun row => row.planRevision = store.goal.planRevision) =
    store.planSteps.rows.map (snapshotRow store.goal.planRevision)
  inOrder : InOrder store.planSteps.rows

theorem orderBy_ordinal {rows : List PlanStepRow}
    (ascending : (rows.map PlanStepRow.ordinal).Pairwise (· < ·)) :
    orderBy PlanStepRow.ordinal rows = rows := by
  apply orderBy_of_ascending
  rw [List.pairwise_map] at ascending
  exact ascending.imp fun lower => Nat.le_of_lt lower

theorem listSteps_of_manual (manual : Manual store) : store.listSteps = store.planSteps.rows := by
  unfold GoalStore.listSteps
  rw [manual.snapshot]
  have ordered : orderBy PlanStepRow.ordinal (store.planSteps.rows.filterMap some) =
      store.planSteps.rows := by
    rw [List.filterMap_some]
    exact orderBy_ordinal manual.ascending
  refine Eq.trans (congrArg (orderBy PlanStepRow.ordinal) (List.filterMap_congr ?_)) ordered
  intro row rowIn
  have isRow : store.planSteps.find row.stepId = some row := store.planSteps.find_of_mem rowIn
  have found : (store.planSteps.rows.map (snapshotRow store.goal.planRevision)).find?
      (fun entry => entry.stepId = row.stepId) =
        some (snapshotRow store.goal.planRevision row) := by
    rw [List.find?_map]
    unfold Table.find at isRow
    change Option.map _ (store.planSteps.rows.find? fun step => step.stepId = row.stepId) = _
    rw [isRow]
    rfl
  rw [found]
  rfl

theorem listSteps_of_unlisted (unlisted : ∀ row ∈ store.planRevisions.steps.rows,
      row.planRevision ≠ store.goal.planRevision) :
    store.listSteps = orderBy PlanStepRow.ordinal store.planSteps.rows := by
  have none_ : store.planRevisions.steps.rows.filter
      (fun row => row.planRevision = store.goal.planRevision) = [] := by
    rw [List.filter_eq_nil_iff]
    intro row rowIn
    simpa using unlisted row rowIn
  unfold GoalStore.listSteps
  rw [none_]
  simp

theorem insertStep_appends (row : PlanStepRow) :
    Ensures (· = known) (insertStep row)
      (fun _ reached => ∃ planSteps : Table PlanStepRow.stepId,
        planSteps.rows = known.planSteps.rows ++ [row] ∧
        reached = { known with planSteps := planSteps }) := by
  apply ensures_read
  apply ensures_demand_then
  intro _
  apply ensures_demand_then
  intro _
  apply ensures_tryChange
  intro state reached isKnown written
  subst isKnown
  obtain ⟨planSteps, added, rfl⟩ := Option.map_eq_some_iff.mp written
  exact ⟨planSteps, ((state.planSteps.insert_some_iff planSteps row).mp added).2, rfl⟩

theorem insertPlan_appends :
    Ensures (· = known) (insertPlan steps)
      (fun _ reached => ∃ planSteps : Table PlanStepRow.stepId,
        planSteps.rows = known.planSteps.rows ++ steps ∧
        reached = { known with planSteps := planSteps }) := by
  induction steps generalizing known with
  | nil =>
    apply ensures_return
    exact ⟨known.planSteps, (List.append_nil _).symm, rfl⟩
  | cons step rest ih =>
    refine ensures_called (insertStep_appends step) ?_
    rintro _ _ ⟨planSteps, first, rfl⟩
    refine ensures_result ih ?_
    rintro _ _ ⟨longer, appended, rfl⟩
    refine ⟨longer, ?_, rfl⟩
    rw [appended, first, List.append_assoc, List.singleton_append]

theorem snapshotPlan_appends (planRevision : Nat) :
    Ensures (· = known) (snapshotPlan planRevision steps)
      (fun _ reached => ∃ revisions : PlanRevisions,
        revisions.steps.rows =
          known.planRevisions.steps.rows ++ steps.map (snapshotRow planRevision) ∧
        reached = { known with planRevisions := revisions }) := by
  induction steps generalizing known with
  | nil =>
    apply ensures_return
    exact ⟨known.planRevisions, (List.append_nil _).symm, rfl⟩
  | cons step rest ih =>
    refine ensures_called (insertPlanRevisionStep_writes _) ?_
    rintro _ _ ⟨revisions, first, rfl⟩
    refine ensures_result ih ?_
    rintro _ _ ⟨longer, appended, rfl⟩
    refine ⟨longer, ?_, rfl⟩
    rw [appended, first, List.append_assoc, List.singleton_append, List.map_cons]
    rfl

theorem plannedSteps_ordinals (stepIds : Nat → String) (titles : List String) :
    (plannedSteps stepIds titles).map PlanStepRow.ordinal = List.range' 1 titles.length := by
  unfold plannedSteps
  apply List.ext_getElem
  · simp
  · intro index _ _
    simp [Nat.add_comm]

theorem plannedSteps_pending {stepIds : Nat → String} {titles : List String} {step : PlanStepRow}
    (stepIn : step ∈ plannedSteps stepIds titles) : step.status = .pending := by
  obtain ⟨index, isIndex, rfl⟩ := List.mem_mapIdx.mp stepIn
  rfl

theorem inOrder_of_pending (pending : ∀ step ∈ steps, step.status = .pending) : InOrder steps := by
  intro step stepIn turn
  rw [pending step stepIn] at turn
  contradiction

variable {goal : GoalRow}

/-- The statuses of a goal and of its steps moved by the two transition tables, and the
steps that were added are pending. -/
structure StatusMoves (before after : GoalStore) : Prop where
  goal : after.goal.status = before.goal.status ∨
    goalTransitions before.goal.status after.goal.status = true
  steps : ∀ row ∈ before.listSteps, ∃ later ∈ after.listSteps, later.stepId = row.stepId ∧
    (later.status = row.status ∨ stepTransitions row.status later.status = true)
  added : ∀ later ∈ after.listSteps,
    (∃ row ∈ before.listSteps, row.stepId = later.stepId) ∨ later.status = .pending

def HistoryKept (before after : GoalStore) : Prop :=
  ∀ planRevision ≤ before.goal.planRevision,
    after.listPlanRevisionSteps planRevision = before.listPlanRevisionSteps planRevision

structure Follows (before after : GoalStore) : Prop where
  goalId : after.goal.goalId = before.goal.goalId
  owner : after.goal.owner = before.goal.owner
  statuses : StatusMoves before after
  planRevision : after.goal.planRevision = before.goal.planRevision ∨
    after.goal.planRevision = before.goal.planRevision + 1
  history : HistoryKept before after

def Managed (before after : GoalStore) : Prop :=
  Manual after ∧ Follows before after

theorem statusMoves_refl (store : GoalStore) : StatusMoves store store where
  goal := Or.inl rfl
  steps := fun row rowIn => ⟨row, rowIn, rfl, Or.inl rfl⟩
  added := fun later laterIn => Or.inl ⟨later, laterIn, rfl⟩

theorem managed_of_goal (manual : Manual known) (sameId : goal.goalId = known.goal.goalId)
    (sameOwner : goal.owner = known.goal.owner)
    (samePlan : goal.planRevision = known.goal.planRevision)
    (moved : goal.status = known.goal.status ∨
      goalTransitions known.goal.status goal.status = true) :
    Managed known { known with goal := goal } := by
  have kept : Manual { known with goal := goal } := by
    constructor
    · exact manual.unexecuted
    · rw [samePlan]
      exact manual.numbered
    · exact manual.ascending
    · rw [samePlan]
      exact manual.past
    · rw [samePlan]
      exact manual.snapshot
    · exact manual.inOrder
  have same : GoalStore.listSteps { known with goal := goal } = known.listSteps := by
    rw [listSteps_of_manual kept, listSteps_of_manual manual]
  refine ⟨kept, sameId, sameOwner, ⟨moved, ?_, ?_⟩, Or.inl samePlan, fun _ _ => rfl⟩
  · rw [same]
    exact (statusMoves_refl known).steps
  · rw [same]
    exact (statusMoves_refl known).added

theorem managed_of_plan (manual : Manual known) {revisions : PlanRevisions}
    (sameId : goal.goalId = known.goal.goalId) (sameOwner : goal.owner = known.goal.owner)
    (sameStatus : goal.status = known.goal.status)
    (nextPlan : goal.planRevision = known.goal.planRevision + 1)
    (appended : revisions.steps.rows = known.planRevisions.steps.rows ++
      planSteps.rows.map (snapshotRow goal.planRevision))
    (ascending : (planSteps.rows.map PlanStepRow.ordinal).Pairwise (· < ·))
    (inOrder : InOrder planSteps.rows)
    (moved : ∀ row ∈ known.planSteps.rows, ∃ later ∈ planSteps.rows, later.stepId = row.stepId ∧
      (later.status = row.status ∨ stepTransitions row.status later.status = true))
    (added : ∀ later ∈ planSteps.rows,
      (∃ row ∈ known.planSteps.rows, row.stepId = later.stepId) ∨ later.status = .pending) :
    Managed known
      { known with goal := goal, planSteps := planSteps, planRevisions := revisions } := by
  have newest : ∀ row ∈ planSteps.rows.map (snapshotRow goal.planRevision),
      row.planRevision = known.goal.planRevision + 1 := by
    intro row rowIn
    obtain ⟨step, -, rfl⟩ := List.mem_map.mp rowIn
    exact nextPlan
  have kept : Manual { known with goal := goal, planSteps := planSteps, planRevisions := revisions } := by
    constructor
    · exact manual.unexecuted
    · change 1 ≤ goal.planRevision
      omega
    · exact ascending
    · intro row rowIn
      change row.planRevision ≤ goal.planRevision
      rw [appended, List.mem_append] at rowIn
      rcases rowIn with old | new
      · have bound := manual.past row old
        omega
      · have isNext := newest row new
        omega
    · change revisions.steps.rows.filter _ = planSteps.rows.map (snapshotRow goal.planRevision)
      rw [appended, List.filter_append]
      have noneOld : known.planRevisions.steps.rows.filter
          (fun row => row.planRevision = goal.planRevision) = [] := by
        rw [List.filter_eq_nil_iff]
        intro row rowIn
        have bound := manual.past row rowIn
        simp only [decide_eq_true_eq]
        omega
      have allNew : (planSteps.rows.map (snapshotRow goal.planRevision)).filter
          (fun row => row.planRevision = goal.planRevision) =
            planSteps.rows.map (snapshotRow goal.planRevision) := by
        rw [List.filter_eq_self]
        intro row rowIn
        simpa [nextPlan] using newest row rowIn
      rw [noneOld, allNew, List.nil_append]
    · exact inOrder
  refine ⟨kept, sameId, sameOwner, ⟨Or.inl sameStatus, ?_, ?_⟩, Or.inr nextPlan, ?_⟩
  · rw [listSteps_of_manual kept, listSteps_of_manual manual]
    exact moved
  · rw [listSteps_of_manual kept, listSteps_of_manual manual]
    exact added
  intro planRevision past
  unfold GoalStore.listPlanRevisionSteps
  rw [appended, List.filter_append]
  have later : (planSteps.rows.map (snapshotRow goal.planRevision)).filter
      (fun row => row.planRevision = planRevision) = [] := by
    rw [List.filter_eq_nil_iff]
    intro row rowIn
    have isNext := newest row rowIn
    simp only [decide_eq_true_eq]
    omega
  rw [later, List.append_nil]

variable {before after : PlanStepStatus} {target next : PlanStepRow}

def UpToDate (store : GoalStore) (caller : GoalCaller) : ServiceOp → Prop
  | .prepareContext => True
  | .changeStep input =>
    store.goal.revision = caller.expectedGoalRevision ∧
      ∀ step ∈ store.listSteps, step.stepId = input.stepId →
        step.revision = input.expectedStepRevision
  | _ => store.goal.revision = caller.expectedGoalRevision

theorem activeGoal_expects (caller : GoalCaller) :
    Ensures (· = known) (activeGoal caller)
      (fun goal reached => (goal = known.goal ∧ known.goal.status = .active ∧
        known.goal.revision = caller.expectedGoalRevision) ∧ reached = known) := by
  refine ensures_call (unexecutedGoal_reads caller) ?_
  rintro goal ⟨rfl, -⟩
  apply ensures_demand_then
  rintro ⟨active, expected⟩
  exact ensures_return _ ⟨⟨rfl, active, expected⟩, rfl⟩

theorem updateGoal_managed (manual : Manual known) {row : GoalRow} {expectedRevision : Nat}
    {failure : GoalFailure} (sameId : row.goalId = known.goal.goalId)
    (sameOwner : row.owner = known.goal.owner)
    (samePlan : row.planRevision = known.goal.planRevision)
    (moved : row.status = known.goal.status ∨ goalTransitions known.goal.status row.status = true) :
    Ensures (· = known) (updateGoal expectedRevision row failure)
      (fun _ reached => Managed known reached) := by
  refine ensures_result (updateGoal_writes expectedRevision row failure) ?_
  rintro _ _ ⟨-, -, rfl⟩
  exact managed_of_goal manual sameId sameOwner samePlan moved

theorem setPlan_managed (manual : Manual known) (texts : GoalTexts) (caller : GoalCaller)
    (titles : List String) (stepIds : Nat → String) :
    Ensures (· = known) (setPlan texts caller titles stepIds)
      (fun _ reached => Managed known reached ∧
        known.goal.revision = caller.expectedGoalRevision) := by
  refine ensures_call (normalizeTitles_reads texts 1 _ titles) ?_
  intro checked _
  refine ensures_call (activeGoal_expects caller) ?_
  rintro goal ⟨rfl, -, expected⟩
  apply ensures_read
  apply ensures_demand_then
  intro unplanned
  have noSteps : known.planSteps.rows = [] := by
    rw [← listSteps_of_manual manual]
    exact unplanned
  refine ensures_called insertPlan_appends ?_
  rintro _ _ ⟨planSteps, inserted, rfl⟩
  refine ensures_called (updateGoal_writes _ _ _) ?_
  rintro updated _ ⟨-, isUpdated, rfl⟩
  refine ensures_result (snapshotPlan_appends _) ?_
  rintro _ _ ⟨revisions, appended, rfl⟩
  rw [noSteps, List.nil_append] at inserted
  rw [isUpdated, ← inserted] at appended
  refine ⟨managed_of_plan manual rfl rfl rfl rfl appended ?_ ?_ ?_ ?_, expected⟩
  · rw [inserted, plannedSteps_ordinals]
    exact List.pairwise_lt_range'
  · rw [inserted]
    exact inOrder_of_pending fun step stepIn => plannedSteps_pending stepIn
  · intro row rowIn
    rw [noSteps] at rowIn
    contradiction
  · intro later laterIn
    rw [inserted] at laterIn
    exact Or.inr (plannedSteps_pending laterIn)

theorem closed_stays (done : closed before = true) : stepTransitions before after = false := by
  cases before <;> first | contradiction | (cases after <;> rfl)

theorem advanced_before (moved : stepTransitions before after = true)
    (turn : advanced after = true) :
    (after = .inProgress ∨ after = .completed) ∨ advanced before = true := by
  cases before <;> cases after <;> simp_all [stepTransitions, advanced]

/-- The order survives the move of one step when a step that begins or ends has only
closed ones below it. -/
theorem inOrder_of_moved (inOrder : InOrder planSteps.rows)
    (found : planSteps.find next.stepId = some target) (sameOrdinal : next.ordinal = target.ordinal)
    (moved : stepTransitions target.status next.status = true)
    (cleared : next.status = .inProgress ∨ next.status = .completed →
      ∀ other ∈ planSteps.rows, other.ordinal < target.ordinal → closed other.status = true) :
    InOrder (planSteps.update next).rows := by
  have targetIn := planSteps.mem_of_find found
  intro step stepIn turn other otherIn below
  rcases (planSteps.mem_update_iff next found step).mp stepIn with isNext | ⟨stepOld, -⟩
  · rw [isNext] at turn below
    rcases (planSteps.mem_update_iff next found other).mp otherIn with isSame | ⟨otherOld, -⟩
    · rw [isSame] at below
      omega
    · rw [sameOrdinal] at below
      rcases advanced_before moved turn with begins | before
      · exact cleared begins other otherOld below
      · exact inOrder target targetIn before other otherOld below
  · rcases (planSteps.mem_update_iff next found other).mp otherIn with isNext | ⟨otherOld, -⟩
    · rw [isNext, sameOrdinal] at below
      have done := inOrder step stepOld turn target targetIn below
      rw [closed_stays done] at moved
      contradiction
    · exact inOrder step stepOld turn other otherOld below

theorem ordinals_update (found : planSteps.find next.stepId = some target)
    (sameOrdinal : next.ordinal = target.ordinal) :
    (planSteps.update next).rows.map PlanStepRow.ordinal = planSteps.rows.map PlanStepRow.ordinal :=
  planSteps.map_update next found PlanStepRow.ordinal sameOrdinal

section

variable (manual : Manual known)
include manual

theorem changeStep_managed (caller : GoalCaller) (input : StepChange) :
    Ensures (· = known) (changeStep caller input)
      (fun _ reached => Managed known reached ∧ UpToDate known caller (.changeStep input)) := by
  have listed := listSteps_of_manual manual
  refine ensures_call (optionalNote_reads input.note _) ?_
  intro note _
  refine ensures_call (activeGoal_expects caller) ?_
  rintro goal ⟨rfl, -, expected⟩
  apply ensures_read
  apply ensures_expect_then
  intro target picked
  apply ensures_demand_then
  intro sameRevision
  apply ensures_demand_then
  intro moved
  apply ensures_demand_then
  intro cleared
  apply ensures_expect_then
  intro durable found
  rw [listed] at picked cleared
  have targetIn := List.mem_of_find?_eq_some picked
  have isTarget : target.stepId = input.stepId := by simpa using List.find?_some picked
  have isDurable : durable = target := by
    have own := known.planSteps.find_of_mem targetIn
    unfold GoalStore.getStep at found
    rw [own] at found
    exact (Option.some.inj found).symm
  subst isDurable
  have upToDate : UpToDate known caller (.changeStep input) := by
    refine ⟨expected, ?_⟩
    intro step stepIn same
    rw [listed] at stepIn
    rw [known.planSteps.row_unique stepIn targetIn (same.trans isTarget.symm)]
    exact sameRevision
  refine ensures_called (updateStep_writes _ _ _) ?_
  rintro _ _ ⟨-, -, rfl⟩
  refine ensures_called (updateGoal_writes _ _ _) ?_
  rintro updated _ ⟨-, isUpdated, rfl⟩
  apply ensures_read
  refine ensures_result (snapshotPlan_appends _) ?_
  rintro _ _ ⟨revisions, appended, rfl⟩
  have unlisted : ∀ row ∈ known.planRevisions.steps.rows,
      row.planRevision ≠ known.goal.planRevision + 1 := by
    intro row rowIn
    have bound := manual.past row rowIn
    omega
  rw [isUpdated, listSteps_of_unlisted unlisted] at appended
  generalize isNext : ({ durable with
    status := input.status
    note := note
    revision := durable.revision + 1 } : PlanStepRow) = next at appended
  have nextId : next.stepId = durable.stepId := by rw [← isNext]
  have nextOrdinal : next.ordinal = durable.ordinal := by rw [← isNext]
  have nextStatus : next.status = input.status := by rw [← isNext]
  have written : known.planSteps.find next.stepId = some durable := by
    rw [nextId]
    exact found
  have ascending : ((known.planSteps.update next).rows.map PlanStepRow.ordinal).Pairwise
      (· < ·) := by
    rw [ordinals_update written nextOrdinal]
    exact manual.ascending
  rw [orderBy_ordinal ascending] at appended
  rw [← nextStatus] at moved cleared
  refine ⟨managed_of_plan manual rfl rfl rfl rfl appended ascending ?_ ?_ ?_, upToDate⟩
  · apply inOrder_of_moved manual.inOrder written nextOrdinal moved
    intro begins other otherIn below
    rcases cleared begins other otherIn below with completed | cancelled
    · rw [completed]
      rfl
    · rw [cancelled]
      rfl
  · intro row rowIn
    by_cases same : row.stepId = next.stepId
    · have isTarget : row = durable :=
        known.planSteps.row_unique rowIn targetIn (same.trans nextId)
      refine ⟨next, ?_, same.symm, Or.inr ?_⟩
      · exact (known.planSteps.mem_update_iff next written next).mpr (Or.inl rfl)
      · rw [isTarget]
        exact moved
    · refine ⟨row, ?_, rfl, Or.inl rfl⟩
      exact (known.planSteps.mem_update_iff next written row).mpr (Or.inr ⟨rowIn, same⟩)
  · intro later laterIn
    left
    rcases (known.planSteps.mem_update_iff next written later).mp laterIn with isNew | ⟨old, -⟩
    · refine ⟨durable, targetIn, ?_⟩
      rw [isNew]
      exact nextId.symm
    · exact ⟨later, old, rfl⟩

theorem reportBlocker_managed (texts : GoalTexts) (caller : GoalCaller) (note : String) :
    Ensures (· = known) (reportBlocker texts caller note)
      (fun _ reached => Managed known reached ∧
        known.goal.revision = caller.expectedGoalRevision) := by
  refine ensures_call (boundedText_reads note _ 2000) ?_
  intro checked _
  refine ensures_call (activeGoal_expects caller) ?_
  rintro goal ⟨rfl, active, expected⟩
  have halts : ∀ count : Nat,
      (if 3 ≤ count then GoalStatus.blocked else .active) = .active ∨
        goalTransitions .active (if 3 ≤ count then GoalStatus.blocked else .active) = true := by
    intro count
    split
    next => exact Or.inr rfl
    next => exact Or.inl rfl
  refine ensures_called (updateGoal_managed manual rfl rfl rfl ?_) ?_
  · rw [active]
    exact halts _
  · intro _ reached managed
    exact ensures_return _ ⟨managed, expected⟩

theorem control_managed (caller : GoalCaller) (action : ControlAction) (note : Option String) :
    Ensures (· = known) (GoalService.control caller action note)
      (fun _ reached => Managed known reached ∧
        known.goal.revision = caller.expectedGoalRevision) := by
  refine ensures_call (optionalNote_reads note _) ?_
  intro checked _
  refine ensures_call (unexecutedGoal_reads caller) ?_
  rintro goal ⟨rfl, -⟩
  apply ensures_demand_then
  intro expected
  apply ensures_demand_then
  intro moved
  refine ensures_called (updateGoal_managed manual rfl rfl rfl (Or.inr moved)) ?_
  intro _ reached managed
  exact ensures_return _ ⟨managed, expected⟩

theorem complete_managed (caller : GoalCaller) (note : Option String) :
    Ensures (· = known) (complete caller note)
      (fun _ reached => Managed known reached ∧
        known.goal.revision = caller.expectedGoalRevision) := by
  refine ensures_call (optionalNote_reads note _) ?_
  intro checked _
  refine ensures_call (activeGoal_expects caller) ?_
  rintro goal ⟨rfl, active, expected⟩
  apply ensures_read
  apply ensures_demand_then
  intro _
  refine ensures_called (updateGoal_managed manual rfl rfl rfl ?_) ?_
  · rw [active]
    exact Or.inr rfl
  · intro _ reached managed
    exact ensures_return _ ⟨managed, expected⟩

theorem managed_refl : Managed known known :=
  managed_of_goal manual rfl rfl rfl (Or.inl rfl)

theorem prepareContext_managed (caller : GoalCaller) :
    Ensures (· = known) (prepareContext caller) (fun _ reached => Managed known reached) := by
  apply ensures_demand_then
  intro _
  apply ensures_read
  apply ensures_whenever
  · intro _
    refine ensures_called (updateGoal_managed manual rfl rfl rfl (Or.inl rfl)) ?_
    intro _ reached managed
    exact ensures_return _ managed
  · intro _ state isKnown
    rw [isKnown]
    exact managed_refl manual

theorem serve_managed (texts : GoalTexts) (caller : GoalCaller) (op : ServiceOp) :
    Ensures (· = known) (serve texts caller op)
      (fun _ reached => Managed known reached ∧ UpToDate known caller op) := by
  cases op with
  | setPlan titles stepIds _ => exact setPlan_managed manual texts caller titles stepIds
  | changeStep input => exact changeStep_managed manual caller input
  | reportBlocker note => exact reportBlocker_managed manual texts caller note
  | control action note => exact control_managed manual caller action note
  | complete note => exact complete_managed manual caller note
  | prepareContext =>
    refine ensures_result (prepareContext_managed manual caller) ?_
    intro _ reached managed
    exact ⟨managed, trivial⟩

end

structure Begun (goalId : String) (owner : Owner) (store : GoalStore) : Prop where
  manual : Manual store
  goalId : store.goal.goalId = goalId
  owner : store.goal.owner = owner
  active : store.goal.status = .active
  planRevision : store.goal.planRevision = 1
  pending : ∀ row ∈ store.listSteps, row.status = .pending

theorem create_begins (texts : GoalTexts) {input : NewGoal} :
    Ensures (· = known) (create texts input)
      (fun _ reached => Begun input.goalId input.owner reached) := by
  refine ensures_call (boundedText_reads input.objective _ 4000) ?_
  intro objective _
  refine ensures_call (normalizeTitles_reads texts 0 _ input.titles) ?_
  intro titles _
  apply ensures_write
  refine ensures_called insertPlan_appends ?_
  rintro _ _ ⟨planSteps, inserted, rfl⟩
  refine ensures_result (snapshotPlan_appends 1) ?_
  rintro _ _ ⟨revisions, appended, rfl⟩
  change planSteps.rows = [] ++ plannedSteps input.stepIds titles at inserted
  change revisions.steps.rows = [] ++ _ at appended
  rw [List.nil_append] at inserted appended
  have pending : ∀ step ∈ planSteps.rows, step.status = .pending := by
    intro step stepIn
    rw [inserted] at stepIn
    exact plannedSteps_pending stepIn
  have first : ∀ row ∈ revisions.steps.rows, row.planRevision = 1 := by
    intro row rowIn
    rw [appended] at rowIn
    obtain ⟨step, -, rfl⟩ := List.mem_map.mp rowIn
    rfl
  have manual : Manual
      { bareGoal input objective with
        planSteps := planSteps
        planRevisions := revisions } := by
    constructor
    · rfl
    · exact Nat.le_refl 1
    · change (planSteps.rows.map PlanStepRow.ordinal).Pairwise (· < ·)
      rw [inserted, plannedSteps_ordinals]
      exact List.pairwise_lt_range'
    · intro row rowIn
      exact Nat.le_of_eq (first row rowIn)
    · change revisions.steps.rows.filter (fun row => row.planRevision = 1) =
        planSteps.rows.map (snapshotRow 1)
      rw [inserted, ← appended, List.filter_eq_self]
      intro row rowIn
      simpa using first row rowIn
    · exact inOrder_of_pending pending
  refine ⟨manual, rfl, rfl, rfl, rfl, ?_⟩
  rw [listSteps_of_manual manual]
  exact pending

variable {reached : GoalStore} {foreignSteps : List String}

def ManualBook (book : Book) : Prop :=
  ∀ store ∈ book.rows, Manual store

/-- A conversation has at most one open goal. -/
def OneOpen (book : Book) : Prop :=
  ∀ first ∈ book.rows, ∀ second ∈ book.rows,
    first.goal.owner.conversationId = second.goal.owner.conversationId →
    openStatus first.goal.status = true → openStatus second.goal.status = true →
    first.goal.goalId = second.goal.goalId

/-- What one call makes of the ledger: goals follow, and at most one of them is new. -/
structure BookFollows (before after : Book) : Prop where
  kept : ∀ goalId store, before.find goalId = some store →
    ∃ later, after.find goalId = some later ∧ Follows store later
  begun : ∀ goalId later, before.find goalId = none → after.find goalId = some later →
    Begun goalId later.goal.owner later

theorem follows_refl (manual : Manual store) : Follows store store :=
  (managed_refl manual).2

theorem bookFollows_refl (manual : ManualBook book) : BookFollows book book where
  kept := fun _ store found => ⟨store, found, follows_refl (manual store (book.mem_of_find found))⟩
  begun := fun _ _ absent found => by
    rw [absent] at found
    contradiction

theorem open_before {before after : GoalStatus}
    (moved : after = before ∨ goalTransitions before after = true)
    (isOpen : openStatus after = true) : openStatus before = true := by
  rcases moved with same | moved
  · rw [← same]
    exact isOpen
  · cases before <;> first | rfl | (cases after <;> contradiction)

/-- What a call needs of the ledger and what it keeps of it. -/
structure Steady (before after : Book) : Prop where
  manual : ManualBook after
  oneOpen : OneOpen after
  follows : BookFollows before after

theorem onRows_reads {body : GoalTransaction Unit} {fact : GoalStore → Prop}
    (triple : Ensures (· = store) body (fun _ reached => fact reached)) :
    Ensures (· = book) (onRows store body) (fun made reached => fact made ∧ reached = book) := by
  intro state made reached isBook done
  subst isBook
  unfold onRows at done
  cases ran : body.run store with
  | error failure =>
    rw [ran] at done
    contradiction
  | ok pair =>
    rw [ran] at done
    cases done
    exact ⟨triple store pair.1 pair.2 rfl ran, rfl⟩

theorem createGoal_steady (manual : ManualBook book) (oneOpen : OneOpen book) (texts : GoalTexts)
    (known : Bool) (input : NewGoal) :
    Ensures (· = book) (createGoal texts known input) (fun _ reached => Steady book reached) := by
  apply ensures_read
  refine ensures_call (onRows_reads (create_begins texts)) ?_
  intro made begun
  apply ensures_demand_then
  intro _
  apply ensures_demand_then
  intro noneOpen
  apply ensures_tryChange
  intro state reached isBook inserted
  subst isBook
  have madeOwner : made.goal.owner = input.owner := begun.owner
  have others : ∀ store ∈ state.rows,
      store.goal.owner.conversationId = input.owner.conversationId →
      openStatus store.goal.status = false := by
    intro store storeIn same
    unfold getOpen at noneOpen
    rw [List.find?_eq_none] at noneOpen
    simpa [same] using noneOpen store storeIn
  refine ⟨?_, ?_, ?_, ?_⟩
  · intro store storeIn
    rcases (state.mem_insert_iff reached made inserted store).mp storeIn with old | isMade
    · exact manual store old
    · rw [isMade]
      exact begun.manual
  · intro first firstIn second secondIn same firstOpen secondOpen
    rcases (state.mem_insert_iff reached made inserted first).mp firstIn with firstOld | firstMade
    · rcases (state.mem_insert_iff reached made inserted second).mp secondIn with
        secondOld | secondMade
      · exact oneOpen first firstOld second secondOld same firstOpen secondOpen
      · rw [secondMade, madeOwner] at same
        rw [others first firstOld same] at firstOpen
        contradiction
    · rcases (state.mem_insert_iff reached made inserted second).mp secondIn with
        secondOld | secondMade
      · rw [firstMade, madeOwner] at same
        rw [others second secondOld same.symm] at secondOpen
        contradiction
      · rw [firstMade, secondMade]
  · intro goalId store found
    exact ⟨store, state.kept_insert reached made inserted found,
      follows_refl (manual store (state.mem_of_find found))⟩
  · intro goalId later absent found
    rw [state.find_insert reached made goalId inserted, absent] at found
    split at found
    next isKey =>
      cases found
      exact ⟨begun.manual, isKey, rfl, begun.active, begun.planRevision, begun.pending⟩
    next => contradiction

theorem manual_of_foreign (manual : Manual store) (foreignSteps : List String) :
    Manual { store with foreignSteps := foreignSteps } :=
  ⟨manual.unexecuted, manual.numbered, manual.ascending, manual.past, manual.snapshot,
    manual.inOrder⟩

theorem managed_of_foreign (managed : Managed { store with foreignSteps := foreignSteps } reached) :
    Managed store reached := by
  obtain ⟨manual, goalId, owner, ⟨goal, steps, added⟩, planRevision, history⟩ := managed
  exact ⟨manual, goalId, owner, ⟨goal, steps, added⟩, planRevision, history⟩

theorem upToDate_of_foreign
    (upToDate : UpToDate { store with foreignSteps := foreignSteps } caller op) :
    UpToDate store caller op := by
  cases op with
  | changeStep input =>
    obtain ⟨expected, listed⟩ := upToDate
    exact ⟨expected, listed⟩
  | prepareContext => trivial
  | setPlan titles stepIds _ => exact upToDate
  | reportBlocker note => exact upToDate
  | control action note => exact upToDate
  | complete note => exact upToDate

theorem goalOf_found (isTarget : goalOf book caller op = some store) : store ∈ book.rows := by
  unfold goalOf at isTarget
  split at isTarget
  next => exact List.mem_of_find?_eq_some isTarget
  next => exact book.mem_of_find isTarget

theorem steady_of_managed (manual : ManualBook book) (oneOpen : OneOpen book)
    (storeIn : store ∈ book.rows) (managed : Managed store reached) :
    Steady book (book.update reached) := by
  obtain ⟨kept, follows⟩ := managed
  have sameKey : goalKey reached = goalKey store := follows.goalId
  have found : book.find (goalKey reached) = some store := by
    rw [sameKey]
    exact book.find_of_mem storeIn
  -- every goal of the new ledger stands for one of the old, and was open if it is
  have source : ∀ later ∈ (book.update reached).rows, ∃ earlier ∈ book.rows,
      Manual later ∧ Follows earlier later := by
    intro later laterIn
    rcases (book.mem_update_iff reached found later).mp laterIn with isReached | ⟨old, -⟩
    · rw [isReached]
      exact ⟨store, storeIn, kept, follows⟩
    · exact ⟨later, old, manual later old, follows_refl (manual later old)⟩
  refine ⟨?_, ?_, ?_, ?_⟩
  · intro later laterIn
    obtain ⟨earlier, -, isManual, -⟩ := source later laterIn
    exact isManual
  · intro first firstIn second secondIn same firstOpen secondOpen
    obtain ⟨firstBefore, firstOld, -, firstFollows⟩ := source first firstIn
    obtain ⟨secondBefore, secondOld, -, secondFollows⟩ := source second secondIn
    have sameGoal := oneOpen firstBefore firstOld secondBefore secondOld
      (by rw [← firstFollows.owner, ← secondFollows.owner]; exact same)
      (open_before firstFollows.statuses.goal firstOpen)
      (open_before secondFollows.statuses.goal secondOpen)
    rw [firstFollows.goalId, secondFollows.goalId]
    exact sameGoal
  · intro goalId earlier isEarlier
    rw [book.find_update reached found]
    by_cases same : goalKey reached = goalId
    · rw [if_pos same]
      rw [← same, found] at isEarlier
      cases isEarlier
      exact ⟨reached, rfl, follows⟩
    · rw [if_neg same]
      exact ⟨earlier, isEarlier, follows_refl (manual earlier (book.mem_of_find isEarlier))⟩
  · intro goalId later absent isLater
    rw [book.find_update reached found, absent] at isLater
    split at isLater
    next same =>
      rw [← same, found] at absent
      contradiction
    next => contradiction

theorem serveGoal_steady (manual : ManualBook book) (oneOpen : OneOpen book) (texts : GoalTexts)
    (caller : GoalCaller) (op : ServiceOp) :
    Ensures (· = book) (serveGoal texts caller op)
      (fun _ reached => Steady book reached ∧
        ∀ store, goalOf book caller op = some store → UpToDate store caller op) := by
  apply ensures_read
  split
  next absent =>
    have unchanged : Ensures (· = book) (missing caller op) (fun _ reached => reached = book) := by
      unfold missing
      split
      next => exact ensures_result (ensures_demand _ _) fun _ _ holds => holds.1
      next => exact ensures_fail _
    refine ensures_result unchanged ?_
    rintro _ reached rfl
    refine ⟨⟨manual, oneOpen, bookFollows_refl manual⟩, ?_⟩
    intro store isTarget
    rw [absent] at isTarget
    contradiction
  next store isTarget =>
    have storeIn := goalOf_found isTarget
    have served := serve_managed (manual_of_foreign (manual store storeIn)
      (stepsBeside book store.goal.goalId)) texts caller op
    refine ensures_call (onRows_reads served) ?_
    rintro reached ⟨managed, upToDate⟩
    apply ensures_change
    intro state isBook
    rw [isBook]
    refine ⟨steady_of_managed manual oneOpen storeIn (managed_of_foreign managed), ?_⟩
    intro other isOther
    have same : store = other := Option.some.inj (isTarget.symm.trans isOther)
    rw [← same]
    exact upToDate_of_foreign upToDate

variable {goalId : String}

section

variable (texts : GoalTexts)
include texts

theorem steady_step (manual : ManualBook book) (oneOpen : OneOpen book) (op : BookOp) :
    Steady book (step texts book op) := by
  have same : Steady book book := ⟨manual, oneOpen, bookFollows_refl manual⟩
  cases op with
  | create known input =>
    have created := createGoal_steady manual oneOpen texts known input
    exact @perform_ensures _ _ _ (Steady book) _ _ created book rfl same
  | serve caller op =>
    have served : Ensures (· = book) (serveGoal texts caller op)
        (fun _ reached => Steady book reached) :=
      ensures_result (serveGoal_steady manual oneOpen texts caller op) fun _ _ holds => holds.1
    exact @perform_ensures _ _ _ (Steady book) _ _ served book rfl same

theorem stale_refused (manual : ManualBook book) (oneOpen : OneOpen book)
    (isTarget : goalOf book caller op = some store) (stale : ¬ UpToDate store caller op) :
    step texts book (.serve caller op) = book := by
  change perform (serveGoal texts caller op) book = book
  unfold perform
  cases ran : (serveGoal texts caller op).run book with
  | error failure => rfl
  | ok pair =>
    have served := serveGoal_steady manual oneOpen texts caller op book pair.1 pair.2 rfl ran
    exact absurd (served.2 store isTarget) stale

theorem reach_snoc (ops : List BookOp) (op : BookOp) :
    reach texts (ops ++ [op]) = step texts (reach texts ops) op := by
  unfold reach
  rw [run_append]
  rfl

theorem reach_manual (ops : List BookOp) :
    ManualBook (reach texts ops) ∧ OneOpen (reach texts ops) := by
  apply run_invariant (step texts) fun book => ManualBook book ∧ OneOpen book
  · rintro book op ⟨manual, oneOpen⟩
    have steady := steady_step texts manual oneOpen op
    exact ⟨steady.manual, steady.oneOpen⟩
  · constructor
    · intro store storeIn
      contradiction
    · intro first firstIn
      contradiction

end

def Remembers (before after : Book) : Prop :=
  ∀ goalId store, before.find goalId = some store → ∃ later, after.find goalId = some later ∧
    store.goal.planRevision ≤ later.goal.planRevision ∧ HistoryKept store later

theorem remembers_run (texts : GoalTexts) (manual : ManualBook book) (oneOpen : OneOpen book)
    (ops : List BookOp) : Remembers book (run (step texts) book ops) := by
  apply run_relates (step texts) (fun book => ManualBook book ∧ OneOpen book) Remembers
  · intro book goalId store found
    exact ⟨store, found, Nat.le_refl _, fun _ _ => rfl⟩
  · intro first second third before after goalId store found
    obtain ⟨middle, isMiddle, lower, kept⟩ := before goalId store found
    obtain ⟨last, isLast, upper, keptOn⟩ := after goalId middle isMiddle
    refine ⟨last, isLast, Nat.le_trans lower upper, ?_⟩
    intro planRevision past
    rw [keptOn planRevision (Nat.le_trans past lower), kept planRevision past]
  · rintro book op ⟨manual, oneOpen⟩
    have steady := steady_step texts manual oneOpen op
    exact ⟨steady.manual, steady.oneOpen⟩
  · rintro book op ⟨manual, oneOpen⟩ goalId store found
    obtain ⟨later, isLater, follows⟩ :=
      (steady_step texts manual oneOpen op).follows.kept goalId store found
    refine ⟨later, isLater, ?_, follows.history⟩
    rcases follows.planRevision with same | next
    · omega
    · omega
  · exact ⟨manual, oneOpen⟩

theorem listPlanRevisionSteps_of_manual (manual : Manual store) :
    store.listPlanRevisionSteps store.goal.planRevision =
      store.listSteps.map (snapshotRow store.goal.planRevision) := by
  unfold GoalStore.listPlanRevisionSteps
  rw [manual.snapshot, listSteps_of_manual manual, orderBy_of_ascending]
  have ascending := manual.ascending
  rw [List.pairwise_map] at ascending ⊢
  exact ascending.imp fun lower => Nat.le_of_lt lower

theorem revision_was_current (texts : GoalTexts) (ops : List BookOp)
    (found : (reach texts ops).find goalId = some store) {planRevision : Nat}
    (positive : 1 ≤ planRevision) (reached : planRevision ≤ store.goal.planRevision) :
    ∃ earlier later, ops = earlier ++ later ∧ ∃ then_, (reach texts earlier).find goalId =
      some then_ ∧ then_.goal.planRevision = planRevision := by
  induction ops using List.reverseRecOn generalizing store with
  | nil => contradiction
  | append_singleton ops op ih =>
    by_cases current : planRevision = store.goal.planRevision
    · exact ⟨ops ++ [op], [], (List.append_nil _).symm, store, found, current.symm⟩
    obtain ⟨manual, oneOpen⟩ := reach_manual texts ops
    have follows := (steady_step texts manual oneOpen op).follows
    rw [reach_snoc] at found
    cases before : (reach texts ops).find goalId with
    | none =>
      have begun := follows.begun goalId store before found
      have first := begun.planRevision
      omega
    | some earlier =>
      obtain ⟨later, isLater, followed⟩ := follows.kept goalId earlier before
      rw [found] at isLater
      cases isLater
      have past : planRevision ≤ earlier.goal.planRevision := by
        rcases followed.planRevision with same | next
        · omega
        · omega
      obtain ⟨first, rest, isSplit, then_, isThen, isRevision⟩ := ih before past
      refine ⟨first, rest ++ [op], ?_, then_, isThen, isRevision⟩
      rw [isSplit, List.append_assoc]

theorem revision_snapshot (texts : GoalTexts) {ops earlier later : List BookOp}
    (isSplit : ops = earlier ++ later) {then_ : GoalStore}
    (found : (reach texts earlier).find goalId = some then_) :
    ∃ store, (reach texts ops).find goalId = some store ∧
      then_.goal.planRevision ≤ store.goal.planRevision ∧
      store.listPlanRevisionSteps then_.goal.planRevision =
        then_.listSteps.map (snapshotRow then_.goal.planRevision) := by
  obtain ⟨manual, oneOpen⟩ := reach_manual texts earlier
  obtain ⟨store, isStore, bound, kept⟩ := remembers_run texts manual oneOpen later goalId then_ found
  refine ⟨store, ?_, bound, ?_⟩
  · rw [isSplit]
    unfold reach
    rw [run_append]
    exact isStore
  · rw [kept then_.goal.planRevision (Nat.le_refl _)]
    exact listPlanRevisionSteps_of_manual (manual then_ ((reach texts earlier).mem_of_find found))

/-- What a call may change of the statuses in the ledger. -/
def BookMoves (before after : Book) : Prop :=
  (∀ goalId store, before.find goalId = some store →
    ∃ later, after.find goalId = some later ∧ StatusMoves store later) ∧
  (∀ goalId later, before.find goalId = none → after.find goalId = some later →
    later.goal.status = .active ∧ ∀ row ∈ later.listSteps, row.status = .pending)

/-- Goals without an execution, over every run of the service from an empty ledger. -/
theorem manual_goals_kept (texts : GoalTexts) (ops : List BookOp) :
    OneOpen (reach texts ops) ∧
      (∀ op, BookMoves (reach texts ops) (step texts (reach texts ops) op)) ∧
      (∀ store ∈ (reach texts ops).rows, InOrder store.listSteps) ∧
      (∀ caller op store, goalOf (reach texts ops) caller op = some store →
        ¬ UpToDate store caller op →
        step texts (reach texts ops) (.serve caller op) = reach texts ops) ∧
      (∀ goalId store, (reach texts ops).find goalId = some store →
        ∀ planRevision, 1 ≤ planRevision → planRevision ≤ store.goal.planRevision →
        ∃ earlier later, ops = earlier ++ later ∧ ∃ then_,
          (reach texts earlier).find goalId = some then_ ∧
            then_.goal.planRevision = planRevision) ∧
      (∀ earlier later, ops = earlier ++ later →
        ∀ goalId then_, (reach texts earlier).find goalId = some then_ →
        ∃ store, (reach texts ops).find goalId = some store ∧
          then_.goal.planRevision ≤ store.goal.planRevision ∧
          store.listPlanRevisionSteps then_.goal.planRevision =
            then_.listSteps.map (snapshotRow then_.goal.planRevision)) := by
  obtain ⟨manual, oneOpen⟩ := reach_manual texts ops
  refine ⟨oneOpen, ?_, ?_, ?_, ?_, ?_⟩
  · intro op
    have follows := (steady_step texts manual oneOpen op).follows
    constructor
    · intro goalId store found
      obtain ⟨later, isLater, followed⟩ := follows.kept goalId store found
      exact ⟨later, isLater, followed.statuses⟩
    · intro goalId later absent found
      have begun := follows.begun goalId later absent found
      exact ⟨begun.active, begun.pending⟩
  · intro store storeIn
    rw [listSteps_of_manual (manual store storeIn)]
    exact (manual store storeIn).inOrder
  · intro caller op store isTarget stale
    exact stale_refused texts manual oneOpen isTarget stale
  · intro goalId store found planRevision positive past
    exact revision_was_current texts ops found positive past
  · intro earlier later isSplit goalId then_ found
    exact revision_snapshot texts isSplit found

end OpenRill.Goals.ManualGoals
