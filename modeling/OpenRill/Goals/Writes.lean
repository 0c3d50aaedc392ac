import OpenRill.Goals.Moves

/-!
# What the writes of a goal do

One lemma for each write of the ledger, for a transition of the flow and for the
admission of a child: from a known ledger, what it checked and the ledger it leads
to. Writes that touch only the goal and its mutable plan are gathered in `Aside`.
-/

namespace OpenRill.Goals.Writes

open Lib Lib.Text Lib.Transaction Ledger TaskFlows Executor PlanMachine Moves

variable {known : GoalStore} {current : PlanStepRow} {row : GoalRow} {condition : Prop}

section

variable (expectedRevision : Nat)
include expectedRevision

theorem updateStepExecution_writes (row : StepExecutionRow) (failure : GoalFailure) :
    Ensures (· = known) (updateStepExecution expectedRevision row failure)
      (fun updated reached =>
        (∃ current, known.getStepExecution row.stepId row.planRevision = some current ∧
          current.revision = expectedRevision) ∧
        admitsStepExecution known.stepExecutions row ∧
        updated = { row with revision := expectedRevision + 1 } ∧
        reached =
          { known with
            stepExecutions := known.stepExecutions.update
              { row with revision := expectedRevision + 1 } }) := by
  apply ensures_read
  apply ensures_expect_then
  intro current found
  apply ensures_demand_then
  intro sameRevision
  apply ensures_demand_then
  intro admitted
  apply ensures_write
  apply ensures_return
  exact ⟨⟨current, found, sameRevision⟩, admitted, rfl, rfl⟩

theorem updateExecution_writes (row : ExecutionRow) (failure : GoalFailure) :
    Ensures (· = known) (updateExecution expectedRevision row failure)
      (fun _ reached =>
        (∃ current, known.execution = some current ∧ current.revision = expectedRevision) ∧
        reached =
          { known with execution := some { row with revision := expectedRevision + 1 } }) := by
  apply ensures_read
  apply ensures_expect_then
  intro current found
  apply ensures_demand_then
  intro sameRevision
  apply ensures_change
  intro state isKnown
  rw [isKnown]
  exact ⟨⟨current, found, sameRevision⟩, rfl⟩

theorem updateGoal_writes (row : GoalRow) (failure : GoalFailure) :
    Ensures (· = known) (updateGoal expectedRevision row failure)
      (fun updated reached =>
        known.goal.revision = expectedRevision ∧
        updated = { row with revision := expectedRevision + 1 } ∧
        reached = { known with goal := { row with revision := expectedRevision + 1 } }) := by
  apply ensures_read
  apply ensures_demand_then
  intro sameRevision
  apply ensures_write
  apply ensures_return
  exact ⟨sameRevision, rfl, rfl⟩

theorem updateStep_writes (row : PlanStepRow) (failure : GoalFailure) :
    Ensures (· = known) (updateStep expectedRevision row failure)
      (fun updated reached =>
        (∃ current, known.getStep row.stepId = some current ∧ current.revision = expectedRevision) ∧
        updated = { row with revision := expectedRevision + 1 } ∧
        reached =
          { known with
            planSteps := known.planSteps.update
              { row with revision := expectedRevision + 1 } }) := by
  apply ensures_read
  apply ensures_expect_then
  intro current found
  apply ensures_demand_then
  intro sameRevision
  apply ensures_write
  apply ensures_return
  exact ⟨⟨current, found, sameRevision⟩, rfl, rfl⟩

end

variable {planSteps : Table PlanStepRow.stepId}

theorem keys_update {Row : Type} {Key : Type} [DecidableEq Key] {key : Row → Key}
    (table : Table key) (row : Row) :
    (table.update row).rows.map key = table.rows.map key := by
  simp only [Table.update, List.map_map]
  apply List.map_congr_left
  intro other _
  by_cases same : key other = key row
  · simp [same]
  · simp [same]

theorem stepsKept_update (row : PlanStepRow) (found : planSteps.find row.stepId = some current)
    (kept : current.status = .completed → row.status = .completed) :
    StepsKept planSteps (planSteps.update row) := by
  constructor
  · exact keys_update planSteps row
  rintro stepId ⟨other, isOther, completed⟩
  unfold Completed
  rw [planSteps.find_update row found]
  by_cases same : row.stepId = stepId
  · rw [if_pos same]
    rw [same, isOther] at found
    cases found
    exact ⟨row, rfl, kept completed⟩
  · rw [if_neg same]
    exact ⟨other, isOther, completed⟩

theorem completed_update (row : PlanStepRow) (found : planSteps.find row.stepId = some current)
    (done : row.status = .completed) : Completed (planSteps.update row) row.stepId := by
  refine ⟨row, ?_, done⟩
  rw [planSteps.find_update row found, if_pos rfl]

/-- Only the goal and its mutable plan were written, and what they keep they kept. -/
def Aside (known reached : GoalStore) : Prop :=
  ∃ goal planSteps, GoalKept known.goal goal ∧ SameEnd known.goal goal ∧
    StepsKept known.planSteps planSteps ∧
    reached = { known with goal := goal, planSteps := planSteps }

theorem aside_refl : Aside known known :=
  ⟨known.goal, known.planSteps, GoalKept.refl _, Iff.rfl, StepsKept.refl _, rfl⟩

theorem updateStep_aside {row : PlanStepRow} (expectedRevision : Nat) (failure : GoalFailure)
    (found : known.getStep row.stepId = some current)
    (kept : current.status = .completed → row.status = .completed) :
    Ensures (· = known) (updateStep expectedRevision row failure)
      (fun _ reached => Aside known reached) := by
  refine ensures_result (updateStep_writes expectedRevision row failure) ?_
  rintro updated reached ⟨-, -, rfl⟩
  exact ⟨known.goal, _, GoalKept.refl _, Iff.rfl,
    stepsKept_update { row with revision := expectedRevision + 1 } found kept, rfl⟩

theorem updateGoal_aside (expectedRevision : Nat) (failure : GoalFailure)
    (kept : GoalKept known.goal row) (ending : SameEnd known.goal row) :
    Ensures (· = known) (updateGoal expectedRevision row failure)
      (fun _ reached => Aside known reached) := by
  refine ensures_result (updateGoal_writes expectedRevision row failure) ?_
  rintro updated reached ⟨-, -, rfl⟩
  exact ⟨{ row with revision := expectedRevision + 1 }, known.planSteps,
    ⟨kept.goalId, kept.owner, kept.objective, kept.planRevision⟩, ending, StepsKept.refl _, rfl⟩

theorem projectMutableStep_writes (stepId : String) (execution : ExecutionRow)
    (selected : PlanStepRow → Bool) (write : PlanStepRow → PlanStepRow) (failure : GoalFailure)
    (sameId : ∀ row, (write row).stepId = row.stepId)
    (kept : ∀ row, selected row = true → row.status = .completed →
      (write row).status = .completed) :
    Ensures (· = known) (projectMutableStep stepId execution selected write failure)
      (fun _ reached => ∃ planSteps, StepsKept known.planSteps planSteps ∧
        (canProjectMutablePlanStep known execution stepId = true →
          (∀ row, selected row = true ∧ (write row).status = .completed) →
          known.getStep stepId ≠ none → Completed planSteps stepId) ∧
        reached = { known with planSteps := planSteps }) := by
  apply ensures_read
  cases found : known.getStep stepId with
  | none =>
    apply ensures_return
    refine ⟨known.planSteps, StepsKept.refl _, ?_, rfl⟩
    intro _ _ present
    exact absurd rfl present
  | some plan =>
    have planId : plan.stepId = stepId := known.planSteps.key_of_find found
    apply ensures_whenever
    · rintro ⟨canProject, picked⟩
      have written : known.getStep (write plan).stepId = some plan := by
        rw [sameId, planId]
        exact found
      refine ensures_called (updateStep_writes plan.revision (write plan) failure) ?_
      rintro updated reached ⟨-, -, rfl⟩
      apply ensures_return
      refine ⟨_, stepsKept_update { write plan with revision := plan.revision + 1 } written
        (kept plan picked), ?_, rfl⟩
      intro _ always _
      have done := completed_update
        { write plan with revision := plan.revision + 1 } written (always plan).2
      rw [sameId, planId] at done
      exact done
    · intro skipped state isKnown
      rw [isKnown]
      refine ⟨known.planSteps, StepsKept.refl _, ?_, rfl⟩
      intro canProject always _
      exact absurd ⟨canProject, (always plan).1⟩ skipped

theorem goalWrite_aside [Decidable condition] (failure : GoalFailure)
    (kept : GoalKept known.goal row) (ending : condition → SameEnd known.goal row) :
    Ensures (· = known)
      (whenever condition (do
        let _ ← updateGoal known.goal.revision row failure
        pure ()))
      (fun _ reached => Aside known reached) := by
  apply ensures_whenever
  · intro holds
    refine ensures_called (updateGoal_aside known.goal.revision failure kept (ending holds)) ?_
    intro updated reached aside
    exact ensures_return () aside
  · intro _ state isKnown
    rw [isKnown]
    exact aside_refl

theorem reactivateGoal_aside (selected : GoalStatus → Bool) (note : Option String)
    (failure : GoalFailure) (open_ : selected .completed = false) :
    Ensures (· = known) (reactivateGoal selected note failure)
      (fun _ reached => Aside known reached) := by
  apply ensures_read
  refine goalWrite_aside failure ⟨rfl, rfl, rfl, rfl⟩ fun picked => ⟨nofun, ?_⟩
  intro completed
  rw [completed, open_] at picked
  contradiction

theorem blockGoal_aside (blocker : BlockerRow) (summary : String) (failure : GoalFailure) :
    Ensures (· = known) (blockGoal blocker summary failure)
      (fun _ reached => Aside known reached) := by
  apply ensures_read
  refine goalWrite_aside failure ⟨rfl, rfl, rfl, rfl⟩ fun active => ⟨nofun, ?_⟩
  intro completed
  rw [completed] at active
  contradiction

variable {binding : Binding} {mutation : FlowMutation} {flow after : FlowRow}

def stepAfter (flow : FlowRow) : Option (Option String) → Option String
  | none => flow.currentStep
  | some step => shownStep step

structure Mutated (known : GoalStore) (binding : Binding) (mutation : FlowMutation)
    (flow after : FlowRow) : Prop where
  present : known.flow = some flow
  bound : flow.owner = binding.owner ∧ flow.controllerId = binding.controllerId
  expected : flow.revision = mutation.expectedRevision
  active : flowTerminal flow.status = false
  kept : after.owner = flow.owner ∧ after.controllerId = flow.controllerId
  revision : after.revision = flow.revision + 1
  status : after.status = mutation.targetStatus
  step : after.currentStep = stepAfter flow mutation.currentStep
  state : after.state = mutation.state.getD flow.state
  fits : ∀ state, mutation.state = some state → state.size ≤ stateLimit

theorem controlled_reads (binding : Binding) :
    Ensures (· = known) (controlled binding)
      (fun flow reached => (known.flow = some flow ∧ flow.owner = binding.owner ∧
        flow.controllerId = binding.controllerId) ∧ reached = known) := by
  apply ensures_read
  apply ensures_expect_then
  intro flow found
  apply ensures_demand_then
  intro sameWorkspace
  apply ensures_demand_then
  intro sameConversation
  apply ensures_demand_then
  intro sameController
  apply ensures_return
  refine ⟨⟨found, ?_, sameController⟩, rfl⟩
  rcases flow with ⟨⟨workspaceId, conversationId⟩⟩
  rcases binding with ⟨⟨otherWorkspace, otherConversation⟩⟩
  simp only at sameWorkspace sameConversation
  rw [sameWorkspace, sameConversation]

theorem bounded_reads (value : String) (max : Nat) (failure : GoalFailure) :
    Ensures (· = known) (bounded value max failure)
      (fun text reached => (text = trim value ∧ trim value ≠ "" ∧
        utf16Length (trim value) ≤ max) ∧ reached = known) := by
  apply ensures_demand_then
  rintro ⟨named, short⟩
  apply ensures_return
  exact ⟨⟨rfl, named, short⟩, rfl⟩

theorem optionalBounded_reads (value : Option String) (max : Nat) (failure : GoalFailure) :
    Ensures (· = known) (optionalBounded value max failure)
      (fun text reached => text = shownStep value ∧ reached = known) := by
  unfold optionalBounded
  cases value with
  | none => exact ensures_return _ ⟨rfl, rfl⟩
  | some text =>
    by_cases blank : trim text = ""
    · simp only [if_pos blank]
      exact ensures_return _ ⟨by simp [shownStep, blank], rfl⟩
    · simp only [if_neg blank]
      apply ensures_demand_then
      intro _
      exact ensures_return _ ⟨by simp [shownStep, blank], rfl⟩

theorem nextCurrentStep_reads (flow : FlowRow) (requested : Option (Option String)) :
    Ensures (· = known) (nextCurrentStep flow requested)
      (fun step reached => step = stepAfter flow requested ∧ reached = known) := by
  cases requested with
  | none => exact ensures_return _ ⟨rfl, rfl⟩
  | some step => exact optionalBounded_reads step 256 _

theorem nextState_reads (flow : FlowRow) (requested : Option ProjectedState) :
    Ensures (· = known) (nextState flow requested)
      (fun state reached => (state = requested.getD flow.state ∧
        ∀ given, requested = some given → given.size ≤ stateLimit) ∧ reached = known) := by
  cases requested with
  | none => exact ensures_return _ ⟨⟨rfl, by simp⟩, rfl⟩
  | some state =>
    apply ensures_demand_then
    intro short
    refine ensures_return _ ⟨⟨rfl, ?_⟩, rfl⟩
    intro given isGiven
    cases isGiven
    exact short

theorem nextBlockedTask_reads (flow : FlowRow) (requested : Option String) :
    Ensures (· = known) (nextBlockedTask flow requested)
      (fun _ reached => True ∧ reached = known) := by
  cases requested with
  | none => exact ensures_return _ ⟨trivial, rfl⟩
  | some taskId =>
    exact ensures_result (optionalBounded_reads (some taskId) 256 _)
      fun _ _ holds => ⟨trivial, holds.2⟩

theorem nextBlockedSummary_reads (mutation : FlowMutation) :
    Ensures (· = known) (nextBlockedSummary mutation)
      (fun _ reached => True ∧ reached = known) := by
  apply ensures_ite
  · intro _
    exact ensures_result (optionalBounded_reads mutation.blockedSummary 4096 _)
      fun _ _ holds => ⟨trivial, holds.2⟩
  · intro _
    exact ensures_return _ ⟨trivial, rfl⟩

theorem nextWait_reads (mutation : FlowMutation) :
    Ensures (· = known) (nextWait mutation) (fun _ reached => True ∧ reached = known) := by
  apply ensures_ite
  · intro _
    apply ensures_demand_then
    intro _
    exact ensures_return _ ⟨trivial, rfl⟩
  · intro _
    exact ensures_return _ ⟨trivial, rfl⟩

theorem requireBlockedTask_reads [Decidable condition] (blockedTaskId : Option String) :
    Ensures (· = known) (whenever condition (requireBlockedTask blockedTaskId))
      (fun _ reached => True ∧ reached = known) := by
  apply ensures_whenever
  · intro _
    apply ensures_read
    apply ensures_expect_then
    intro taskId _
    apply ensures_expect_then
    intro _ _
    exact ensures_return _ ⟨trivial, rfl⟩
  · intro _ state isKnown
    exact ⟨trivial, isKnown⟩

theorem mutate_writes (binding : Binding) (mutation : FlowMutation) :
    Ensures (· = known) (mutate binding mutation)
      (fun after reached => (∃ flow, Mutated known binding mutation flow after) ∧
        reached = { known with flow := some after }) := by
  refine ensures_call (controlled_reads binding) ?_
  rintro flow ⟨present, sameOwner, sameController⟩
  apply ensures_demand_then
  intro sameRevision
  apply ensures_demand_then
  intro active
  apply ensures_demand_then
  intro _
  refine ensures_call (nextBlockedTask_reads flow mutation.blockedTaskId) ?_
  intro blockedTaskId _
  refine ensures_call (requireBlockedTask_reads blockedTaskId) ?_
  intro _ _
  refine ensures_call (nextCurrentStep_reads flow mutation.currentStep) ?_
  rintro currentStep rfl
  refine ensures_call (nextBlockedSummary_reads mutation) ?_
  intro blockedSummary _
  refine ensures_call (nextState_reads flow mutation.state) ?_
  rintro state ⟨rfl, fits⟩
  refine ensures_call (nextWait_reads mutation) ?_
  intro wait _
  apply ensures_write
  apply ensures_return
  refine ⟨⟨flow, ?_⟩, rfl⟩
  exact
    { present := present
      bound := ⟨sameOwner, sameController⟩
      expected := sameRevision
      active := active
      kept := ⟨rfl, rfl⟩
      revision := rfl
      status := rfl
      step := rfl
      state := rfl
      fits := fits }

theorem flowMoved_of_mutated (mutated : Mutated known binding mutation flow after) :
    FlowMoved known.flow mutation.targetStatus (stepAfter flow mutation.currentStep) after where
  source := ⟨flow, mutated.present, mutated.active, mutated.kept.1, mutated.kept.2,
    mutated.revision⟩
  reached := mutated.status
  standsAt := mutated.step

theorem state_of_mutated {state : ProjectedState}
    (mutated : Mutated known binding mutation flow after) (given : mutation.state = some state) :
    after.state = state := by
  rw [mutated.state, given]
  rfl

theorem sameShown_of_mutated (mutated : Mutated known binding mutation flow after)
    (noStep : mutation.currentStep = none) (noState : mutation.state = none) :
    SameShown known.flow after := by
  intro before present
  rw [mutated.present] at present
  cases present
  constructor
  · rw [mutated.state, noState]
    rfl
  · rw [mutated.step, noStep]
    rfl

variable {step : StepExecutionRow} {planRevision : Nat}

theorem blockersKept_update {blockers : Table BlockerRow.blockerId} {old row : BlockerRow}
    (present : blockers.find row.blockerId = some old)
    (revision : row.planRevision = planRevision) :
    BlockersKept blockers (blockers.update row) planRevision :=
  ⟨blockers.forall_update row present (Or.inl revision)
      fun other otherIn _ => Or.inr ⟨other, otherIn, rfl⟩,
    blockers.forall_update row present
      (Or.inr ⟨old, blockers.mem_of_find present, blockers.key_of_find present⟩)
      fun other otherIn _ => Or.inr ⟨other, otherIn, rfl⟩⟩

theorem incrementBlocker_writes {existing : BlockerRow} (taskId : Option String) (summary : String)
    (evidence : BlockerEvidence) (existingIn : existing ∈ known.blockers.rows)
    (revision : existing.planRevision = planRevision) (ofStep : existing.stepId = step.stepId)
    (running : step.status = .running) :
    Ensures (· = known) (incrementBlocker existing taskId summary evidence)
      (fun _ reached => ∃ blockers,
        BlockersMoved known.blockers blockers planRevision step ∧
        reached = { known with blockers := blockers }) := by
  apply ensures_demand_then
  intro _
  apply ensures_write
  apply ensures_return
  refine ⟨_, ?_, rfl⟩
  have present := known.blockers.find_of_mem existingIn
  have member := fun row => known.blockers.mem_update_iff
    { existing with
      taskId := taskId
      summary := summary
      evidence := evidence
      status := .opened
      occurrenceCount := existing.occurrenceCount + 1
      resolvedBy := none
      resolution := none
      revision := existing.revision + 1 } present row
  refine BlockersMoved.recorded running ⟨(member _).mpr (Or.inl rfl), revision, rfl⟩ ofStep ?_
    (blockersKept_update present revision)
  intro row openRow
  rcases (member row).mp openRow.mem with isNew | ⟨old, -⟩
  · exact Or.inl isNew
  · exact Or.inr ⟨old, openRow.revision, openRow.opened⟩

theorem insertBlocker_writes {created : BlockerRow} (fits : idFits created.blockerId = true)
    (revision : created.planRevision = planRevision) (ofStep : created.stepId = step.stepId)
    (opened : created.status = .opened) (running : step.status = .running) :
    Ensures (· = known) (insertBlocker created)
      (fun _ reached => ∃ blockers,
        BlockersMoved known.blockers blockers planRevision step ∧
        reached = { known with blockers := blockers }) := by
  apply ensures_demand_then
  intro _
  apply ensures_tryChange
  intro state reached isKnown inserted
  rw [isKnown] at inserted
  obtain ⟨blockers, added, rfl⟩ := Option.map_eq_some_iff.mp inserted
  have member := known.blockers.mem_insert_iff blockers _ added
  refine ⟨blockers, ?_, rfl⟩
  refine BlockersMoved.recorded running ⟨(member _).mpr (Or.inr rfl), revision, opened⟩ ofStep ?_
    ⟨?_, ?_⟩
  · intro row openRow
    rcases (member row).mp openRow.mem with old | isNew
    · exact Or.inr ⟨old, openRow.revision, openRow.opened⟩
    · exact Or.inl isNew
  · exact known.blockers.forall_insert blockers _ added (Or.inl revision)
      fun row rowIn => Or.inr ⟨row, rowIn, rfl⟩
  · exact known.blockers.forall_insert blockers _ added (Or.inl fits)
      fun row rowIn => Or.inr ⟨row, rowIn, rfl⟩

theorem recordBlocker_writes (host : Host) (blockerId : String) (execution : ExecutionRow)
    (step : StepExecutionRow) (taskId : String) (blockerType : BlockerType) (summary : String)
    (evidence : BlockerEvidence) (fits : idFits blockerId = true)
    (running : step.status = .running) :
    Ensures (· = known)
      (recordBlocker host blockerId execution step taskId blockerType summary evidence)
      (fun _ reached => ∃ blockers,
        BlockersMoved known.blockers blockers execution.planRevision step ∧
        reached = { known with blockers := blockers }) := by
  apply ensures_read
  simp only
  split
  next existing found =>
    have existingIn := List.mem_of_find?_eq_some found
    have chosen := List.find?_some found
    simp only [Bool.and_eq_true, decide_eq_true_eq] at chosen
    exact incrementBlocker_writes (some taskId) summary evidence existingIn chosen.1.2
      chosen.1.1 running
  next =>
    refine ensures_called (insertBlocker_writes fits rfl rfl rfl running) ?_
    rintro _ _ ⟨blockers, moved, rfl⟩
    exact ensures_return _ ⟨blockers, moved, rfl⟩

theorem closeBlocker_writes {blocker : BlockerRow} (resolvedBy resolution : String)
    (failure : GoalFailure) (blockerIn : blocker ∈ known.blockers.rows)
    (revision : blocker.planRevision = planRevision) (ofStep : blocker.stepId = step.stepId)
    (halted : step.status = .blocked ∨ step.status = .failed) :
    Ensures (· = known) (closeBlocker blocker resolvedBy resolution failure)
      (fun _ reached => ∃ blockers,
        BlockersMoved known.blockers blockers planRevision step ∧
        reached = { known with blockers := blockers }) := by
  apply ensures_demand_then
  intro wasOpen
  apply ensures_write
  apply ensures_return
  refine ⟨_, ?_, rfl⟩
  have present := known.blockers.find_of_mem blockerIn
  have member := fun row => known.blockers.mem_update_iff
    { blocker with
      status := .resolved
      resolvedBy := some resolvedBy
      resolution := some resolution
      revision := blocker.revision + 1 } present row
  refine BlockersMoved.closed halted ⟨blockerIn, revision, wasOpen⟩ ofStep ?_
    (blockersKept_update present revision)
  intro row openRow
  rcases (member row).mp openRow.mem with isClosed | ⟨old, other⟩
  · have opened := openRow.opened
    rw [isClosed] at opened
    contradiction
  · exact ⟨⟨old, openRow.revision, openRow.opened⟩, other⟩

structure ChildAdmitted (known : GoalStore) (binding : Binding) (request : ChildRequest)
    (child : ChildRow) (children : Table ChildRow.taskId) (flow after : FlowRow) : Prop where
  present : known.flow = some flow
  bound : flow.owner = binding.owner ∧ flow.controllerId = binding.controllerId
  expected : flow.revision = request.expectedRevision
  active : flowTerminal flow.status = false
  linked : children.rows = known.children.rows ++ [child]
  requested : child.requestKey = trim request.requestKey
  stepKey : child.stepKey = trim request.stepKey
  kept : after.owner = flow.owner ∧ after.controllerId = flow.controllerId
  revision : after.revision = flow.revision + 1
  status : after.status = .running
  step : after.currentStep = shownStep (some request.stepKey)
  state : after.state = request.state.getD flow.state

theorem runTask_writes (binding : Binding) (request : ChildRequest) (sent : Option String) :
    Ensures (· = known) (runTask binding request sent)
      (fun admitted reached =>
        (admitted.replayed = true ∧ reached = known) ∨
        (admitted.replayed = false ∧
          known.childOfRequest (trim request.requestKey) = none ∧
          ∃ children flow after,
            ChildAdmitted known binding request admitted.child children flow after ∧
            reached = { known with children := children, flow := some after })) := by
  refine ensures_call (bounded_reads request.requestKey 128 _) ?_
  rintro _ ⟨rfl, -⟩
  refine ensures_call (bounded_reads request.stepKey 256 _) ?_
  rintro _ ⟨rfl, stepNamed, -⟩
  refine ensures_call (bounded_reads request.text 65536 _) ?_
  rintro text -
  apply ensures_demand_then
  intro _
  refine ensures_call (controlled_reads binding) ?_
  rintro flow ⟨present, bound⟩
  apply ensures_read
  cases found : known.childOfRequest (trim request.requestKey) with
  | some child =>
    apply ensures_demand_then
    intro _
    apply ensures_demand_then
    intro _
    apply ensures_return
    exact Or.inl ⟨rfl, rfl⟩
  | none =>
    apply ensures_demand_then
    intro expected
    apply ensures_demand_then
    intro active
    apply ensures_demand_then
    intro _
    apply ensures_demand_then
    intro _
    apply ensures_expect_then
    intro taskId _
    apply ensures_try
    intro reached inserted
    obtain ⟨children, added, rfl⟩ := Option.map_eq_some_iff.mp inserted
    obtain ⟨-, rowsEq⟩ := (known.children.insert_some_iff children _).mp added
    apply ensures_write
    apply ensures_return
    refine Or.inr ⟨rfl, rfl, children, flow, _, ?_, rfl⟩
    exact
      { present := present
        bound := bound
        expected := expected
        active := active
        linked := rowsEq
        requested := rfl
        stepKey := rfl
        kept := ⟨rfl, rfl⟩
        revision := rfl
        status := rfl
        step := by simp [shownStep, stepNamed]
        state := rfl }

end OpenRill.Goals.Writes
