import OpenRill.Goals.Refinement

/-!
# The revisions of a plan make moves

The start of an execution, the adoption of a revision, and the calls that make a new
revision of the plan: what their loops write, and the move they commit.
-/

namespace OpenRill.Goals.Revisions

open Lib Lib.Text Lib.Transaction Ledger TaskFlows Executor GoalService PlanMachine Moves Footing
open Writes Refinement

variable {known : GoalStore} {planRevision : Nat}

theorem stepsOf_launched {before after : Table StepExecutionRow.key} {rows : List StepExecutionRow}
    (filled : after.rows = before.rows ++ rows)
    (older : ∀ row ∈ before.rows, row.planRevision ≠ planRevision)
    (own : ∀ row ∈ rows, row.planRevision = planRevision)
    (ascending : rows.Pairwise (fun first second => first.ordinal < second.ordinal)) :
    stepsOf after planRevision = rows := by
  have noneOlder : before.rows.filter (fun row => row.planRevision = planRevision) = [] := by
    rw [List.filter_eq_nil_iff]
    intro row rowIn
    simpa using older row rowIn
  have allOwn : rows.filter (fun row => row.planRevision = planRevision) = rows := by
    rw [List.filter_eq_self]
    intro row rowIn
    simpa using own row rowIn
  unfold stepsOf
  rw [filled, List.filter_append, noneOlder, allOwn, List.nil_append]
  apply orderBy_of_ascending
  exact ascending.imp fun lower => Nat.le_of_lt lower

theorem launched_rows {revisions : PlanRevisions} {planRevision : Nat}
    {project : PlanRevisionStepRow → StepExecutionRow}
    (projects : ∀ definition, (project definition).planRevision = definition.planRevision ∧
      (project definition).ordinal = definition.ordinal) :
    (∀ row ∈ readyFirst ((planOf revisions planRevision).map project),
      row.planRevision = planRevision) ∧
    (readyFirst ((planOf revisions planRevision).map project)).Pairwise
      (fun first second => first.ordinal < second.ordinal) := by
  constructor
  · intro row rowIn
    obtain ⟨source, sourceIn, shape⟩ := mem_readyFirst rowIn
    obtain ⟨definition, definitionIn, rfl⟩ := List.mem_map.mp sourceIn
    have revision := ((mem_planOf revisions planRevision definition).mp definitionIn).2
    rcases shape with same | ⟨-, readied⟩
    · rw [same]
      exact (projects definition).1.trans revision
    · rw [readied]
      exact (projects definition).1.trans revision
  · have ascending := pairwise_readyFirst project (planOf_ascending revisions planRevision)
      fun definition => (projects definition).2
    rw [← List.pairwise_map, map_ordinal_readyFirst, List.pairwise_map]
    exact ascending

theorem insertSteps_writes (steps : List StepExecutionRow) :
    Ensures (· = known) (insertSteps steps)
      (fun _ reached => ∃ table, table.rows = known.stepExecutions.rows ++ steps ∧
        reached = { known with stepExecutions := table }) := by
  induction steps generalizing known with
  | nil =>
    apply ensures_return
    exact ⟨known.stepExecutions, (List.append_nil _).symm, rfl⟩
  | cons step rest ih =>
    have inserted : Ensures (· = known) (insertStepExecution step)
        (fun _ reached => ∃ table, table.rows = known.stepExecutions.rows ++ [step] ∧
          reached = { known with stepExecutions := table }) := by
      apply ensures_read
      apply ensures_demand_then
      intro _
      apply ensures_tryChange
      intro state reached isKnown written
      subst isKnown
      obtain ⟨table, added, rfl⟩ := Option.map_eq_some_iff.mp written
      exact ⟨table, ((state.stepExecutions.insert_some_iff table step).mp added).2, rfl⟩
    refine ensures_called inserted ?_
    rintro _ _ ⟨table, firstRows, rfl⟩
    refine ensures_result ih ?_
    rintro _ _ ⟨last, restRows, rfl⟩
    refine ⟨last, ?_, rfl⟩
    rw [restRows]
    simp only [firstRows]
    rw [List.append_assoc, List.singleton_append]

theorem insertExecution_writes (execution : ExecutionRow) :
    Ensures (· = known) (insertExecution execution)
      (fun _ reached => known.execution = none ∧
        reached = { known with execution := some execution }) := by
  apply ensures_read
  apply ensures_demand_then
  intro unstarted
  apply ensures_change
  intro state isKnown
  rw [isKnown]
  exact ⟨unstarted, rfl⟩

theorem createManaged_writes (binding : Binding) (requestKey goal currentStep : String)
    (state : ProjectedState) :
    Ensures (· = known) (createManaged binding requestKey goal currentStep state)
      (fun _ reached => ∃ flow : FlowRow,
        (flow.owner = binding.owner ∧ flow.controllerId = binding.controllerId) ∧
        flow.status = .queued ∧ flow.currentStep = shownStep (some currentStep) ∧
        flow.state = state ∧ reached = { known with flow := some flow }) := by
  refine ensures_call (bounded_reads requestKey 128 _) ?_
  intro _ _
  refine ensures_call (bounded_reads goal 65536 _) ?_
  intro boundedGoal _
  refine ensures_call (optionalBounded_reads (some currentStep) 256 _) ?_
  rintro step rfl
  apply ensures_demand_then
  intro _
  apply ensures_read
  apply ensures_demand_then
  intro _
  apply ensures_change
  intro reached isKnown
  rw [isKnown]
  exact ⟨_, ⟨rfl, rfl⟩, rfl, rfl, rfl, rfl⟩

theorem createExecution_moves (founded : Founded known) (caller : Owner)
    (expectedGoalRevision : Nat) :
    Ensures (· = known) (createExecution caller expectedGoalRevision)
      (fun _ reached => Move .plain known reached ∧ Quiet reached) := by
  apply ensures_read
  apply ensures_demand_then
  intro owned
  apply ensures_demand_then
  intro _
  apply ensures_demand_then
  intro active
  apply ensures_expect_then
  intro first isFirst
  obtain ⟨rest, plan⟩ : ∃ rest, planOf known.planRevisions known.goal.planRevision =
      first :: rest := by
    exact List.head?_eq_some_iff.mp isFirst
  apply ensures_demand_then
  intro _
  apply ensures_demand_then
  intro _
  refine ensures_called (createManaged_writes _ _ _ first.stepId _) ?_
  rintro _ _ ⟨flow, bound, queued, standsAt, shown, rfl⟩
  refine ensures_called (insertExecution_writes _) ?_
  rintro _ _ ⟨unstarted, rfl⟩
  refine ensures_result (insertSteps_writes _) ?_
  rintro _ _ ⟨table, filled, rfl⟩
  have noRows : known.stepExecutions.rows = [] := founded.sound.unstarted unstarted
  have planned : known.listPlanRevisionSteps known.goal.planRevision = first :: rest := plan
  rw [planned] at filled shown
  have launched := @launched_rows known.planRevisions known.goal.planRevision
    (initialStep .pending) fun _ => ⟨rfl, rfl⟩
  rw [plan, ← initialSteps_eq_readyFirst] at launched
  constructor
  · refine Move.started unstarted active plan filled rfl rfl rfl bound owned.symm queued standsAt ?_
    rw [shown]
    unfold stateOf
    rw [stepsOf_launched filled ?_ launched.1 launched.2, plan]
    intro row rowIn
    rw [noRows] at rowIn
    simp at rowIn
  · intro row rowIn
    rw [filled] at rowIn
    rcases List.mem_append.mp rowIn with old | new
    · change row ∈ known.stepExecutions.rows at old
      rw [noRows] at old
      simp at old
    · rw [initialSteps_eq_readyFirst] at new
      exact (launched_at_rest (fun definition => ⟨rfl, Or.inl rfl⟩) new).2

theorem mirrorStep_writes (projected : List StepExecutionRow)
    (definition : PlanRevisionStepRow) :
    Ensures (· = known) (mirrorStep projected definition)
      (fun _ reached => ∃ planSteps,
        planSteps.rows.map PlanStepRow.stepId = known.planSteps.rows.map PlanStepRow.stepId ∧
        (∀ row, projected.find? (fun step => step.stepId = definition.stepId) = some row →
          finished row.status = true → Completed planSteps definition.stepId) ∧
        (∀ stepId, stepId ≠ definition.stepId →
          planSteps.find stepId = known.planSteps.find stepId) ∧
        reached = { known with planSteps := planSteps }) := by
  apply ensures_read
  apply ensures_expect_then
  intro mutableStep found
  have isKey : mutableStep.stepId = definition.stepId := known.planSteps.key_of_find found
  apply ensures_expect_then
  intro step foundStep
  refine ensures_called (updateStep_writes _ _ _) ?_
  rintro updated _ ⟨-, -, rfl⟩
  apply ensures_return
  have present : known.planSteps.find mutableStep.stepId = some mutableStep :=
    known.planSteps.find_self found
  refine ⟨_, keys_update _ _, ?_, ?_, rfl⟩
  · intro row isRow done
    rw [foundStep, Option.some.injEq] at isRow
    subst isRow
    rw [← isKey]
    exact completed_update
      { mutableStep with
        status := if finished step.status then .completed else .pending
        note := step.lastSummary
        revision := mutableStep.revision + 1 }
      present (by simp [done])
  · intro stepId different
    rw [known.planSteps.find_update
      { mutableStep with
        status := if finished step.status then .completed else .pending
        note := step.lastSummary
        revision := mutableStep.revision + 1 } present]
    rw [if_neg]
    intro same
    exact different (same.symm.trans isKey)

/-- The loop over an adopted plan, by induction on it: later definitions leave the
mutable steps of earlier ones alone. -/
theorem mirrorSteps_writes (projected : List StepExecutionRow)
    (plan : List PlanRevisionStepRow)
    (distinct : (plan.map PlanRevisionStepRow.stepId).Nodup) :
    Ensures (· = known) (forEach plan () (fun _ definition => mirrorStep projected definition))
      (fun _ reached => ∃ planSteps,
        planSteps.rows.map PlanStepRow.stepId = known.planSteps.rows.map PlanStepRow.stepId ∧
        (∀ definition ∈ plan, ∀ row,
          projected.find? (fun step => step.stepId = definition.stepId) = some row →
          finished row.status = true → Completed planSteps definition.stepId) ∧
        (∀ stepId, stepId ∉ plan.map PlanRevisionStepRow.stepId →
          planSteps.find stepId = known.planSteps.find stepId) ∧
        reached = { known with planSteps := planSteps }) := by
  induction plan generalizing known with
  | nil =>
    apply ensures_return
    exact ⟨known.planSteps, rfl, by simp, fun _ _ => rfl, rfl⟩
  | cons definition rest ih =>
    rw [List.map_cons, List.nodup_cons] at distinct
    refine ensures_called (mirrorStep_writes projected definition) ?_
    rintro _ _ ⟨planSteps, firstKeys, firstDone, firstOthers, rfl⟩
    refine ensures_result (ih distinct.2) ?_
    rintro _ _ ⟨later, restKeys, restDone, restOthers, rfl⟩
    refine ⟨later, restKeys.trans firstKeys, ?_, ?_, rfl⟩
    · intro other otherIn row isRow done
      rcases List.mem_cons.mp otherIn with isFirst | inRest
      · rw [isFirst] at isRow ⊢
        obtain ⟨mutableStep, found, completed⟩ := firstDone row isRow done
        refine ⟨mutableStep, ?_, completed⟩
        rw [restOthers definition.stepId distinct.1]
        exact found
      · exact restDone other inRest row isRow done
    · intro stepId absent
      rw [List.map_cons, List.mem_cons, not_or] at absent
      rw [restOthers stepId absent.2]
      exact firstOthers stepId absent.1

theorem planOf_ids (revisions : PlanRevisions) (planRevision : Nat) :
    ((planOf revisions planRevision).map PlanRevisionStepRow.stepId).Nodup := by
  have keyed : ((planOf revisions planRevision).map PlanRevisionStepRow.key).Nodup := by
    have listed : (planOf revisions planRevision).Perm
        (revisions.steps.rows.filter fun row => row.planRevision = planRevision) :=
      List.perm_insertionSort _ _
    rw [(listed.map PlanRevisionStepRow.key).nodup_iff]
    exact revisions.steps.keysNodup.sublist (List.filter_sublist.map _)
  rw [List.Nodup, List.pairwise_map] at keyed ⊢
  refine List.Pairwise.imp_of_mem ?_ keyed
  intro first second firstIn secondIn different same
  have firstRevision := ((mem_planOf revisions planRevision first).mp firstIn).2
  have secondRevision := ((mem_planOf revisions planRevision second).mp secondIn).2
  apply different
  simp [PlanRevisionStepRow.key, firstRevision, secondRevision, same]

theorem map_stepId_readyFirst (rows : List StepExecutionRow) :
    (readyFirst rows).map StepExecutionRow.stepId = rows.map StepExecutionRow.stepId := by
  induction rows with
  | nil => rfl
  | cons first rest ih =>
    unfold readyFirst
    split
    next => rfl
    next => simp [ih]

theorem map_stepId_projected (rows : ExecutorRows) (plan : List PlanRevisionStepRow) :
    (readyFirst (plan.map (projectedStep rows))).map StepExecutionRow.stepId =
      plan.map PlanRevisionStepRow.stepId := by
  rw [map_stepId_readyFirst, List.map_map]
  apply List.map_congr_left
  intro definition _
  exact (projectedStep_projects rows definition).1

theorem find_of_distinct {rows : List StepExecutionRow}
    (distinct : (rows.map StepExecutionRow.stepId).Nodup) {row : StepExecutionRow}
    (rowIn : row ∈ rows) {stepId : String} (isId : row.stepId = stepId) :
    rows.find? (fun step => step.stepId = stepId) = some row := by
  cases found : rows.find? (fun step => step.stepId = stepId) with
  | none =>
    rw [List.find?_eq_none] at found
    have absent := found row rowIn
    simp [isId] at absent
  | some other =>
    have otherIn := List.mem_of_find?_eq_some found
    have otherId : other.stepId = stepId := by simpa using List.find?_some found
    rw [List.inj_on_of_nodup_map distinct otherIn rowIn (otherId.trans isId.symm)]

theorem recordAdoption_writes {execution : ExecutionRow}
    (present : known.execution = some execution) (input : AdoptionInput)
    {plan : List PlanRevisionStepRow} (distinct : (plan.map PlanRevisionStepRow.stepId).Nodup)
    (projected : List StepExecutionRow) (next : Option String) :
    Ensures (· = known) (recordAdoption input plan projected next)
      (fun _ reached => ∃ goal planSteps table, GoalKept known.goal goal ∧
        SameEnd known.goal goal ∧
        planSteps.rows.map PlanStepRow.stepId = known.planSteps.rows.map PlanStepRow.stepId ∧
        (∀ definition ∈ plan, ∀ row,
          projected.find? (fun step => step.stepId = definition.stepId) = some row →
          finished row.status = true → Completed planSteps definition.stepId) ∧
        table.rows = known.stepExecutions.rows ++ projected ∧
        reached =
          { known with
            goal := goal
            planSteps := planSteps
            execution := some
              { execution with
                planRevision := input.targetPlanRevision
                status := if next.isSome then .queued else .running
                currentStepId := next
                revision := execution.revision + 1 }
            stepExecutions := table }) := by
  apply ensures_read
  refine ensures_found present ?_
  apply ensures_demand_then
  intro _
  apply ensures_demand_then
  intro _
  refine ensures_called (insertSteps_writes projected) ?_
  rintro _ _ ⟨table, filled, rfl⟩
  refine ensures_called (updateExecution_writes _ _ _) ?_
  rintro _ _ ⟨-, rfl⟩
  refine ensures_called (reactivateGoal_aside _ none _ rfl) ?_
  rintro _ _ ⟨goal, planSteps, goalKept, ending, stepsKept, rfl⟩
  refine ensures_result (mirrorSteps_writes projected plan distinct) ?_
  rintro _ _ ⟨later, keys, mirrored, -, rfl⟩
  exact ⟨goal, later, table, goalKept, ending, keys.trans stepsKept.keys, mirrored, filled, rfl⟩

theorem adoptRevision_moves (founded : Founded known) {execution : ExecutionRow}
    (present : known.execution = some execution) (input : AdoptionInput) :
    Ensures (· = known) (adoptRevision (rowsOf known execution) input)
      (fun _ reached => Move .adopt known reached ∧ Quiet reached) := by
  obtain ⟨target, expectedExecutionRevision, expectedFlowRevision⟩ := input
  apply ensures_demand_then
  intro _
  apply ensures_demand_then
  rintro ⟨isTarget, newer⟩
  subst isTarget
  apply ensures_demand_then
  intro idle
  apply ensures_demand_then
  intro _
  apply ensures_read
  apply ensures_demand_then
  intro noBlocker
  apply ensures_demand_then
  intro _
  apply ensures_demand_then
  intro _
  refine ensures_called (mutate_writes _ _) ?_
  rintro after _ ⟨⟨flow, mutated⟩, rfl⟩
  have distinct := planOf_ids known.planRevisions known.goal.planRevision
  refine ensures_called (@recordAdoption_writes { known with flow := some after } execution
    present _ (planOf known.planRevisions known.goal.planRevision) distinct _ _) ?_
  rintro _ _ ⟨goal, planSteps, table, goalKept, ending, keys, mirrored, filled, rfl⟩
  apply ensures_return
  have settled := founded.sound.settled execution present
  have launched := @launched_rows known.planRevisions known.goal.planRevision
    (projectedStep (rowsOf known execution))
    fun definition => ⟨(projectedStep_projects _ definition).2.1,
      (projectedStep_projects _ definition).2.2.1⟩
  have older : ∀ row ∈ known.stepExecutions.rows,
      row.planRevision ≠ known.goal.planRevision := by
    intro row rowIn same
    have known_ := settled.stepsKnown row rowIn
    have newerRevision : execution.planRevision < known.goal.planRevision := newer
    omega
  constructor
  · refine Move.adopted present newer idle ?_ rfl filled rfl (flowMoved_of_mutated mutated) ?_
      goalKept ending keys ?_
    · intro row openRow
      apply List.find?_eq_none.mp noBlocker row openRow.mem
      simp only [Bool.and_eq_true, decide_eq_true_eq]
      exact ⟨openRow.revision, openRow.opened⟩
    · rw [state_of_mutated mutated rfl]
      unfold stateOf
      rw [stepsOf_launched filled older launched.1 launched.2]
      rfl
    · intro row rowIn done
      have ids := map_stepId_projected (rowsOf known execution)
        (planOf known.planRevisions known.goal.planRevision)
      have idIn : row.stepId ∈ (planOf known.planRevisions known.goal.planRevision).map
          PlanRevisionStepRow.stepId := by
        rw [← ids]
        exact List.mem_map_of_mem rowIn
      obtain ⟨definition, definitionIn, sameId⟩ := List.mem_map.mp idIn
      rw [← sameId]
      apply mirrored definition definitionIn row _ done
      apply find_of_distinct _ rowIn sameId.symm
      rw [← ids] at distinct
      exact distinct
  · intro row rowIn
    rw [filled] at rowIn
    rcases List.mem_append.mp rowIn with old | new
    · exact none_running founded.sound present idle row old
    · exact (launched_at_rest (fun definition => (projectedStep_projects _ definition).2.2.2) new).2

def Admissible (draft : DraftStep) : Prop :=
  idFits draft.stepId = true ∧ 1 ≤ draft.maxAttempts

theorem idFits_trim {text : String} {max : Nat} (named : trim text ≠ "")
    (short : utf16Length (trim text) ≤ max) (limit : max ≤ 256) : idFits (trim text) = true := by
  unfold idFits
  simp only [Bool.and_eq_true, decide_eq_true_eq]
  exact ⟨⟨trim_trim text, named⟩, Nat.le_trans short limit⟩

theorem normalizeStep_reads (checked : List DraftStep) (draft : DraftStep)
    (earlier : ∀ other ∈ checked, Admissible other) :
    Ensures (· = known) (normalizeStep checked draft)
      (fun steps reached => (∀ step ∈ steps, Admissible step) ∧ reached = known) := by
  refine ensures_call (bounded_reads draft.stepId 256 _) ?_
  rintro stepId ⟨rfl, named, short⟩
  refine ensures_call (bounded_reads draft.title 1000 _) ?_
  rintro title _
  apply ensures_demand_then
  intro _
  apply ensures_demand_then
  intro _
  apply ensures_demand_then
  intro limits
  apply ensures_return
  refine ⟨?_, rfl⟩
  intro step stepIn
  rcases List.mem_append.mp stepIn with old | new
  · exact earlier step old
  · rw [List.mem_singleton] at new
    rw [new]
    exact ⟨idFits_trim named short (Nat.le_refl _), limits.1⟩

theorem normalizeSteps_reads (drafts checked : List DraftStep)
    (earlier : ∀ other ∈ checked, Admissible other) :
    Ensures (· = known) (forEach drafts checked normalizeStep)
      (fun steps reached => (∀ step ∈ steps, Admissible step) ∧ reached = known) := by
  induction drafts generalizing checked with
  | nil => exact ensures_return checked ⟨earlier, rfl⟩
  | cons draft rest ih =>
    refine ensures_call (normalizeStep_reads checked draft earlier) ?_
    intro steps admissible
    exact ih steps admissible

theorem normalizedDraft_reads (drafts : List DraftStep) :
    Ensures (· = known) (normalizedDraft drafts)
      (fun steps reached => (∀ step ∈ steps, Admissible step) ∧ reached = known) := by
  apply ensures_demand_then
  intro _
  exact normalizeSteps_reads _ [] (by simp)

/-- The mutable plan has at least the same steps, and those it gained have short ids. -/
structure PlanGrown (before after : Table PlanStepRow.stepId) : Prop where
  present : ∀ stepId, (before.find stepId).isSome = true → (after.find stepId).isSome = true
  named : ∀ row ∈ after.rows, idFits row.stepId = true ∨ (before.find row.stepId).isSome = true

theorem planGrown_of_keys {before after : Table PlanStepRow.stepId}
    (same : after.rows.map PlanStepRow.stepId = before.rows.map PlanStepRow.stepId) :
    PlanGrown before after := by
  constructor
  · intro stepId found
    rw [after.isSome_find_iff, same, ← before.isSome_find_iff]
    exact found
  · intro row rowIn
    right
    rw [before.isSome_find_iff, ← same]
    exact List.mem_map_of_mem rowIn

theorem PlanGrown.trans {first second third : Table PlanStepRow.stepId}
    (before : PlanGrown first second) (after : PlanGrown second third) :
    PlanGrown first third := by
  constructor
  · intro stepId found
    exact after.present stepId (before.present stepId found)
  intro row rowIn
  rcases after.named row rowIn with fits | found
  · exact Or.inl fits
  · obtain ⟨earlier, isEarlier⟩ := Option.isSome_iff_exists.mp found
    have sameId := second.key_of_find isEarlier
    rw [← sameId]
    exact before.named earlier (second.mem_of_find isEarlier)

theorem insertStep_writes (row : PlanStepRow) (fits : idFits row.stepId = true) :
    Ensures (· = known) (insertStep row)
      (fun _ reached => ∃ planSteps, PlanGrown known.planSteps planSteps ∧
        (planSteps.find row.stepId).isSome = true ∧
        reached = { known with planSteps := planSteps }) := by
  apply ensures_read
  apply ensures_demand_then
  intro _
  apply ensures_demand_then
  intro _
  apply ensures_tryChange
  intro state reached isKnown written
  subst isKnown
  obtain ⟨planSteps, added, rfl⟩ := Option.map_eq_some_iff.mp written
  obtain ⟨-, rowsEq⟩ := (state.planSteps.insert_some_iff planSteps row).mp added
  refine ⟨planSteps, ⟨?_, ?_⟩, ?_, rfl⟩
  · intro stepId found
    rw [planSteps.isSome_find_iff, rowsEq, List.map_append]
    apply List.mem_append_left
    rw [← state.planSteps.isSome_find_iff]
    exact found
  · intro other otherIn
    rw [rowsEq] at otherIn
    rcases List.mem_append.mp otherIn with old | new
    · right
      rw [state.planSteps.isSome_find_iff]
      exact List.mem_map_of_mem old
    · left
      rw [List.mem_singleton.mp new]
      exact fits
  · rw [planSteps.isSome_find_iff, rowsEq, List.map_append]
    simp

theorem redefineStep_writes (previousPlan : List PlanRevisionStepRow) (draft : DraftStep) :
    Ensures (· = known) (redefineStep previousPlan draft)
      (fun _ reached => ∃ planSteps, PlanGrown known.planSteps planSteps ∧
        (planSteps.find draft.stepId).isSome = true ∧
        reached = { known with planSteps := planSteps }) := by
  have defined : Ensures (· = known)
      (updatePlanDefinition draft.stepId draft.ordinal draft.title
        (revisionConflict "Plan definition changed during revision creation"))
      (fun _ reached => ∃ planSteps, PlanGrown known.planSteps planSteps ∧
        (planSteps.find draft.stepId).isSome = true ∧
        reached = { known with planSteps := planSteps }) := by
    apply ensures_read
    apply ensures_expect_then
    intro current found
    apply ensures_demand_then
    intro _
    apply ensures_write
    apply ensures_return
    have grown := planGrown_of_keys (keys_update known.planSteps
      { current with
        ordinal := draft.ordinal
        title := draft.title
        revision := current.revision + 1 })
    refine ⟨_, grown, ?_, rfl⟩
    apply grown.present
    change (known.getStep draft.stepId).isSome = true
    rw [found]
    rfl
  refine ensures_called defined ?_
  rintro updated _ ⟨planSteps, grown, present, rfl⟩
  apply ensures_whenever
  · intro _
    refine ensures_called (updateStep_writes _ _ _) ?_
    rintro _ _ ⟨-, -, rfl⟩
    apply ensures_return
    have later := planGrown_of_keys (keys_update planSteps
      { updated with status := .pending, note := none, revision := updated.revision + 1 })
    exact ⟨_, grown.trans later, later.present _ present, rfl⟩
  · intro _ state isKnown
    rw [isKnown]
    exact ⟨planSteps, grown, present, rfl⟩

structure Revised (before after : PlanRevisions) (planSteps : Table PlanStepRow.stepId)
    (planRevision : Nat) (added : List PlanRevisionStepRow) : Prop where
  appended : after.steps.rows = before.steps.rows ++ added
  newest : ∀ row ∈ added, row.planRevision = planRevision
  limited : ∀ row ∈ added, 1 ≤ row.maxAttempts
  planned : ∀ row ∈ added, (planSteps.find row.stepId).isSome = true

theorem insertPlanRevisionStep_writes (row : PlanRevisionStepRow) :
    Ensures (· = known) (insertPlanRevisionStep row)
      (fun _ reached => ∃ revisions : PlanRevisions,
        revisions.steps.rows = known.planRevisions.steps.rows ++ [row] ∧
        reached = { known with planRevisions := revisions }) := by
  apply ensures_tryChange
  intro state reached isKnown written
  subst isKnown
  obtain ⟨revisions, added, rfl⟩ := Option.map_eq_some_iff.mp written
  exact ⟨revisions, state.planRevisions.rows_insert revisions row added, rfl⟩

theorem reviseStep_writes (previousPlan : List PlanRevisionStepRow) (nextRevision : Nat)
    (draft : DraftStep) (admissible : Admissible draft) :
    Ensures (· = known) (reviseStep previousPlan nextRevision draft)
      (fun _ reached => ∃ planSteps revisions row, PlanGrown known.planSteps planSteps ∧
        Revised known.planRevisions revisions planSteps nextRevision [row] ∧
        reached = { known with planSteps := planSteps, planRevisions := revisions }) := by
  apply ensures_read
  apply ensures_demand_then
  intro _
  have placed : Ensures (· = known)
      (placeStep previousPlan draft (known.getStep draft.stepId))
      (fun _ reached => ∃ planSteps, PlanGrown known.planSteps planSteps ∧
        (planSteps.find draft.stepId).isSome = true ∧
        reached = { known with planSteps := planSteps }) := by
    cases known.getStep draft.stepId with
    | some _ => exact redefineStep_writes previousPlan draft
    | none =>
      exact insertStep_writes
        { stepId := draft.stepId
          ordinal := draft.ordinal
          title := draft.title
          status := .pending
          note := none
          revision := 1 } admissible.1
  refine ensures_called placed ?_
  rintro _ _ ⟨planSteps, grown, present, rfl⟩
  refine ensures_result (insertPlanRevisionStep_writes _) ?_
  rintro _ _ ⟨revisions, appended, rfl⟩
  refine ⟨planSteps, revisions, _, grown, ⟨appended, ?_, ?_, ?_⟩, rfl⟩
  · intro row rowIn
    rw [List.mem_singleton.mp rowIn]
  · intro row rowIn
    rw [List.mem_singleton.mp rowIn]
    exact admissible.2
  · intro row rowIn
    rw [List.mem_singleton.mp rowIn]
    exact present

theorem revised_append {before middle after : PlanRevisions}
    {planSteps grown : Table PlanStepRow.stepId} {earlier later : List PlanRevisionStepRow}
    (first : Revised before middle planSteps planRevision earlier)
    (rest : Revised middle after grown planRevision later)
    (present : ∀ stepId, (planSteps.find stepId).isSome = true →
      (grown.find stepId).isSome = true) :
    Revised before after grown planRevision (earlier ++ later) := by
  constructor
  · rw [rest.appended, first.appended, List.append_assoc]
  · intro row rowIn
    rcases List.mem_append.mp rowIn with old | new
    · exact first.newest row old
    · exact rest.newest row new
  · intro row rowIn
    rcases List.mem_append.mp rowIn with old | new
    · exact first.limited row old
    · exact rest.limited row new
  · intro row rowIn
    rcases List.mem_append.mp rowIn with old | new
    · exact present row.stepId (first.planned row old)
    · exact rest.planned row new

def Revises (known reached : GoalStore) (planRevision : Nat) : Prop :=
  ∃ planSteps revisions added, PlanGrown known.planSteps planSteps ∧
    Revised known.planRevisions revisions planSteps planRevision added ∧
    reached = { known with planSteps := planSteps, planRevisions := revisions }

theorem reviseSteps_writes (previousPlan : List PlanRevisionStepRow) (nextRevision : Nat)
    (drafts : List DraftStep) (admissible : ∀ draft ∈ drafts, Admissible draft) :
    Ensures (· = known)
      (forEach drafts () (fun _ draft => reviseStep previousPlan nextRevision draft))
      (fun _ reached => Revises known reached nextRevision) := by
  induction drafts generalizing known with
  | nil =>
    apply ensures_return
    refine ⟨known.planSteps, known.planRevisions, [], planGrown_of_keys rfl, ?_, rfl⟩
    exact ⟨(List.append_nil _).symm, by simp, by simp, by simp⟩
  | cons draft rest ih =>
    refine ensures_called
      (reviseStep_writes previousPlan nextRevision draft (admissible draft (by simp))) ?_
    rintro _ _ ⟨planSteps, revisions, row, grown, revised, rfl⟩
    refine ensures_result
      (ih fun other otherIn => admissible other (List.mem_cons_of_mem draft otherIn)) ?_
    rintro _ _ ⟨later, last, added, laterGrown, laterRevised, rfl⟩
    refine ⟨later, last, [row] ++ added, grown.trans laterGrown, ?_, rfl⟩
    exact revised_append revised laterRevised laterGrown.present

theorem createRevision_moves (input : RevisionInput) {drafts : List DraftStep}
    (admissible : ∀ draft ∈ drafts, Admissible draft) (execution : ExecutionRow) :
    Ensures (· = known) (createRevision input drafts execution)
      (fun _ reached => Move .plain known reached) := by
  apply ensures_read
  apply ensures_demand_then
  intro _
  apply ensures_demand_then
  rintro ⟨unended, -, -⟩
  apply ensures_write
  refine ensures_called (reviseSteps_writes _ _ drafts admissible) ?_
  rintro _ _ ⟨planSteps, revisions, added, grown, revised, rfl⟩
  refine ensures_called (updateGoal_writes _ _ _) ?_
  rintro _ _ ⟨-, -, rfl⟩
  apply ensures_return
  have resequenced : PlanGrown known.planSteps _ :=
    @planGrown_of_keys known.planSteps
      { rows := known.planSteps.rows.map (fun row => { row with ordinal := row.ordinal + 10000 })
        keysNodup := by
          rw [List.map_map]
          exact known.planSteps.keysNodup }
      (by rw [List.map_map]; rfl)
  have grownWhole := resequenced.trans grown
  exact Move.revised ⟨unended, unended⟩ ⟨rfl, rfl, rfl⟩ rfl revised.appended revised.newest
    revised.limited revised.planned grownWhole.present grownWhole.named

theorem revisePlan_moves (caller : Owner) (input : RevisionInput) :
    Ensures (· = known) (revisePlan caller input)
      (fun _ reached => reached = known ∨ Move .plain known reached) := by
  refine ensures_call (normalizedDraft_reads input.steps) ?_
  intro drafts admissible
  apply ensures_read
  apply ensures_demand_then
  intro _
  apply ensures_expect_then
  intro execution _
  apply ensures_demand_then
  intro _
  apply ensures_ite
  · intro _
    exact ensures_mono (ensures_demand _ _) (fun _ isKnown => isKnown)
      fun _ _ holds => Or.inl holds.1
  · intro _
    exact ensures_result (createRevision_moves input admissible execution)
      fun _ _ moved => Or.inr moved

theorem boundedText_reads (value label : String) (max : Nat) :
    Ensures (· = known) (boundedText value label max)
      (fun _ reached => True ∧ reached = known) := by
  exact ensures_result (bounded_reads _ max _) fun _ _ holds => ⟨trivial, holds.2⟩

theorem optionalNote_reads (note : Option String) (label : String) :
    Ensures (· = known) (optionalNote note label) (fun _ reached => True ∧ reached = known) := by
  cases note with
  | none => exact ensures_return _ ⟨trivial, rfl⟩
  | some text =>
    apply ensures_ite
    · intro _
      exact ensures_return _ ⟨trivial, rfl⟩
    · intro _
      refine ensures_call (boundedText_reads text label 2000) ?_
      intro checked _
      exact ensures_return _ ⟨trivial, rfl⟩

theorem normalizeTitles_reads (texts : GoalTexts) (least : Nat) (refusal : String)
    (titles : List String) :
    Ensures (· = known) (normalizeTitles texts least refusal titles)
      (fun _ reached => True ∧ reached = known) := by
  have checks : ∀ done : List String, Ensures (· = known)
      (forEach titles done fun done title => do
        let text ← boundedText title "plan step" 1000
        pure (done ++ [text]))
      (fun _ reached => True ∧ reached = known) := by
    induction titles with
    | nil => exact fun done => ensures_return done ⟨trivial, rfl⟩
    | cons title rest ih =>
      intro done
      have turn : Ensures (· = known)
          (do
            let text ← boundedText title "plan step" 1000
            pure (done ++ [text]))
          (fun _ reached => True ∧ reached = known) := by
        refine ensures_call (boundedText_reads title "plan step" 1000) ?_
        intro text _
        exact ensures_return _ ⟨trivial, rfl⟩
      refine ensures_call turn ?_
      intro longer _
      exact ih longer
  refine ensures_call (checks []) ?_
  intro checked _
  apply ensures_demand_then
  intro _
  apply ensures_demand_then
  intro _
  exact ensures_return _ ⟨trivial, rfl⟩

theorem unexecutedGoal_reads (caller : GoalCaller) :
    Ensures (· = known) (unexecutedGoal caller)
      (fun goal reached => (goal = known.goal ∧ known.execution = none) ∧ reached = known) := by
  apply ensures_demand_then
  intro _
  apply ensures_read
  apply ensures_demand_then
  intro _
  apply ensures_demand_then
  intro unstarted
  exact ensures_return _ ⟨⟨rfl, unstarted⟩, rfl⟩

theorem activeGoal_reads (caller : GoalCaller) :
    Ensures (· = known) (activeGoal caller)
      (fun goal reached => (goal = known.goal ∧ known.execution = none ∧
        known.goal.status = .active) ∧ reached = known) := by
  refine ensures_call (unexecutedGoal_reads caller) ?_
  rintro goal ⟨rfl, unstarted⟩
  apply ensures_demand_then
  rintro ⟨active, -⟩
  exact ensures_return _ ⟨⟨rfl, unstarted, active⟩, rfl⟩

theorem insertPlan_writes (steps : List PlanStepRow)
    (named : ∀ step ∈ steps, idFits step.stepId = true) :
    Ensures (· = known) (insertPlan steps)
      (fun _ reached => ∃ planSteps, PlanGrown known.planSteps planSteps ∧
        (∀ step ∈ steps, (planSteps.find step.stepId).isSome = true) ∧
        reached = { known with planSteps := planSteps }) := by
  induction steps generalizing known with
  | nil =>
    apply ensures_return
    exact ⟨known.planSteps, planGrown_of_keys rfl, by simp, rfl⟩
  | cons step rest ih =>
    refine ensures_called (insertStep_writes step (named step (by simp))) ?_
    rintro _ _ ⟨planSteps, grown, present, rfl⟩
    refine ensures_result
      (ih fun other otherIn => named other (List.mem_cons_of_mem step otherIn)) ?_
    rintro _ _ ⟨later, laterGrown, laterPresent, rfl⟩
    refine ⟨later, grown.trans laterGrown, ?_, rfl⟩
    intro other otherIn
    rcases List.mem_cons.mp otherIn with isStep | inRest
    · rw [isStep]
      exact laterGrown.present step.stepId present
    · exact laterPresent other inRest

theorem snapshotPlan_writes (planRevision : Nat) (steps : List PlanStepRow)
    (present : ∀ step ∈ steps, (known.planSteps.find step.stepId).isSome = true) :
    Ensures (· = known) (snapshotPlan planRevision steps)
      (fun _ reached => ∃ revisions added,
        Revised known.planRevisions revisions known.planSteps planRevision added ∧
        reached = { known with planRevisions := revisions }) := by
  induction steps generalizing known with
  | nil =>
    apply ensures_return
    refine ⟨known.planRevisions, [], ?_, rfl⟩
    exact ⟨(List.append_nil _).symm, by simp, by simp, by simp⟩
  | cons step rest ih =>
    refine ensures_called (insertPlanRevisionStep_writes _) ?_
    rintro _ _ ⟨revisions, appended, rfl⟩
    refine ensures_result
      (ih fun other otherIn => present other (List.mem_cons_of_mem step otherIn)) ?_
    rintro _ _ ⟨last, added, revised, rfl⟩
    have first : Revised known.planRevisions revisions known.planSteps planRevision _ :=
      ⟨appended, by simp, by simp, by simpa using present step (by simp)⟩
    exact ⟨last, _, revised_append first revised fun _ found => found, rfl⟩

theorem setPlan_moves (texts : GoalTexts) (caller : GoalCaller) (titles : List String)
    {stepIds : Nat → String} (named : ∀ index, idFits (stepIds index) = true) :
    Ensures (· = known) (setPlan texts caller titles stepIds)
      (fun _ reached => Move .plain known reached) := by
  refine ensures_call (normalizeTitles_reads texts 1 _ titles) ?_
  intro checked _
  refine ensures_call (activeGoal_reads caller) ?_
  rintro goal ⟨rfl, unstarted, active⟩
  apply ensures_read
  apply ensures_demand_then
  intro _
  have stepNamed : ∀ step ∈ plannedSteps stepIds checked, idFits step.stepId = true := by
    intro step stepIn
    obtain ⟨index, isIndex, rfl⟩ := List.mem_mapIdx.mp stepIn
    exact named index
  refine ensures_called (insertPlan_writes _ stepNamed) ?_
  rintro _ _ ⟨planSteps, grown, present, rfl⟩
  refine ensures_called (updateGoal_writes _ _ _) ?_
  rintro updated _ ⟨-, isUpdated, rfl⟩
  refine ensures_result (snapshotPlan_writes _ _ present) ?_
  rintro _ _ ⟨revisions, added, revised, rfl⟩
  rw [isUpdated] at revised
  have unended : known.goal.status ≠ .completed := by
    rw [active]
    simp
  exact Move.revised ⟨unended, unended⟩ ⟨rfl, rfl, rfl⟩ rfl revised.appended revised.newest
    revised.limited revised.planned grown.present grown.named

theorem find_of_listed {planStep : PlanStepRow} (listed : planStep ∈ known.listSteps) :
    (known.planSteps.find planStep.stepId).isSome = true := by
  unfold GoalStore.listSteps at listed
  rw [mem_orderBy, List.mem_filterMap] at listed
  obtain ⟨row, rowIn, shaped⟩ := listed
  rw [known.planSteps.isSome_find_iff]
  split at shaped
  next =>
    rw [Option.some.injEq] at shaped
    rw [← shaped]
    exact List.mem_map.mpr ⟨row, rowIn, rfl⟩
  next =>
    split at shaped
    next =>
      rw [Option.some.injEq] at shaped
      rw [← shaped]
      exact List.mem_map.mpr ⟨row, rowIn, rfl⟩
    next => contradiction

theorem changeStep_moves (caller : GoalCaller) (input : StepChange) :
    Ensures (· = known) (changeStep caller input) (fun _ reached => Move .plain known reached) := by
  refine ensures_call (optionalNote_reads input.note _) ?_
  intro note _
  refine ensures_call (activeGoal_reads caller) ?_
  rintro goal ⟨rfl, unstarted, active⟩
  apply ensures_read
  apply ensures_expect_then
  intro target _
  apply ensures_demand_then
  intro _
  apply ensures_demand_then
  intro _
  apply ensures_demand_then
  intro _
  apply ensures_expect_then
  intro durable _
  refine ensures_called (updateStep_writes _ _ _) ?_
  rintro _ _ ⟨-, -, rfl⟩
  refine ensures_called (updateGoal_writes _ _ _) ?_
  rintro updated _ ⟨-, isUpdated, rfl⟩
  apply ensures_read
  refine ensures_result (snapshotPlan_writes _ _ fun step listed => find_of_listed listed) ?_
  rintro _ _ ⟨revisions, added, revised, rfl⟩
  rw [isUpdated] at revised
  have grown := planGrown_of_keys (keys_update known.planSteps
    { durable with status := input.status, note := note, revision := target.revision + 1 })
  have unended : known.goal.status ≠ .completed := by
    rw [active]
    simp
  exact Move.revised ⟨unended, unended⟩ ⟨rfl, rfl, rfl⟩ rfl revised.appended revised.newest
    revised.limited revised.planned grown.present grown.named

theorem complete_moves (caller : GoalCaller) (note : Option String) :
    Ensures (· = known) (complete caller note) (fun _ reached => Move .plain known reached) := by
  refine ensures_call (optionalNote_reads note _) ?_
  intro checked _
  refine ensures_call (activeGoal_reads caller) ?_
  rintro goal ⟨rfl, unstarted, active⟩
  apply ensures_read
  apply ensures_demand_then
  intro done
  refine ensures_called (updateGoal_writes _ _ _) ?_
  rintro _ _ ⟨-, -, rfl⟩
  apply ensures_return
  exact Move.closed unstarted ⟨rfl, rfl, rfl, rfl⟩ done rfl

theorem updateGoal_touches {row : GoalRow} (expectedRevision : Nat) (failure : GoalFailure)
    (kept : GoalKept known.goal row) (ending : SameEnd known.goal row) :
    Ensures (· = known) (updateGoal expectedRevision row failure)
      (fun _ reached => Move .plain known reached) := by
  refine ensures_result (updateGoal_writes expectedRevision row failure) ?_
  rintro _ _ ⟨-, -, rfl⟩
  exact Move.touched ⟨kept.goalId, kept.owner, kept.objective, kept.planRevision⟩ ending

theorem reportBlocker_moves (texts : GoalTexts) (caller : GoalCaller) (note : String) :
    Ensures (· = known) (reportBlocker texts caller note)
      (fun _ reached => Move .plain known reached) := by
  refine ensures_call (boundedText_reads note _ 2000) ?_
  intro checked _
  refine ensures_call (activeGoal_reads caller) ?_
  rintro goal ⟨rfl, unstarted, active⟩
  have open_ : ∀ count : Nat,
      (if 3 ≤ count then GoalStatus.blocked else GoalStatus.active) ≠ .completed := by
    intro count
    split <;> simp
  refine ensures_called (updateGoal_touches _ _ ⟨rfl, rfl, rfl, rfl⟩ ?_) ?_
  · constructor
    · intro completed
      exact absurd completed (open_ _)
    · intro completed
      rw [active] at completed
      contradiction
  · intro _ reached moved
    exact ensures_return _ moved

theorem control_moves (caller : GoalCaller) (action : ControlAction) (note : Option String) :
    Ensures (· = known) (GoalService.control caller action note)
      (fun _ reached => Move .plain known reached) := by
  refine ensures_call (optionalNote_reads note _) ?_
  intro checked _
  refine ensures_call (unexecutedGoal_reads caller) ?_
  rintro goal ⟨rfl, unstarted⟩
  apply ensures_demand_then
  intro _
  apply ensures_demand_then
  intro transition
  refine ensures_called (updateGoal_touches _ _ ⟨rfl, rfl, rfl, rfl⟩ ?_) ?_
  · constructor
    · intro completed
      cases action <;> simp [controlledStatus] at completed
    · intro completed
      rw [completed] at transition
      simp [goalTransitions] at transition
  · intro _ reached moved
    exact ensures_return _ moved

theorem prepareContext_moves (caller : GoalCaller) :
    Ensures (· = known) (prepareContext caller)
      (fun _ reached => reached = known ∨ Move .plain known reached) := by
  apply ensures_demand_then
  intro _
  apply ensures_read
  apply ensures_whenever
  · intro _
    refine ensures_called (updateGoal_touches _ _ ⟨rfl, rfl, rfl, rfl⟩ Iff.rfl) ?_
    intro _ reached moved
    exact ensures_return _ (Or.inr moved)
  · intro _ state isKnown
    exact Or.inl isKnown

theorem serve_moves (texts : GoalTexts) (caller : GoalCaller) (op : ServiceOp) :
    Ensures (· = known) (serve texts caller op)
      (fun _ reached => reached = known ∨ Move .plain known reached) := by
  cases op with
  | setPlan titles stepIds named =>
    exact ensures_result (setPlan_moves texts caller titles named) fun _ _ moved => Or.inr moved
  | changeStep input =>
    exact ensures_result (changeStep_moves caller input) fun _ _ moved => Or.inr moved
  | reportBlocker note =>
    exact ensures_result (reportBlocker_moves texts caller note) fun _ _ moved => Or.inr moved
  | control action note =>
    exact ensures_result (control_moves caller action note) fun _ _ moved => Or.inr moved
  | complete note =>
    exact ensures_result (complete_moves caller note) fun _ _ moved => Or.inr moved
  | prepareContext => exact prepareContext_moves caller

end OpenRill.Goals.Revisions
