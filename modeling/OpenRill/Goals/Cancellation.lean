import OpenRill.Goals.Revisions

/-!
# A cancellation ends the execution

The request, the tasks and the end of the flow commit one after the other, and the
goal follows in a transaction of its own. Once every task is over neither of the last
two can throw, so a cancellation that gets that far is one move.
-/

namespace OpenRill.Goals.Cancellation

open Lib Lib.Text Lib.Transaction Ledger TaskFlows Executor PlanMachine Moves Writes Refinement

variable {known : GoalStore} {execution : ExecutionRow} {table : Table StepExecutionRow.key}
variable {step : StepExecutionRow} {failure : GoalFailure}

theorem updateStepExecution_completes {row current : StepExecutionRow} (failure : GoalFailure)
    (found : known.getStepExecution row.stepId row.planRevision = some current)
    (admits : admitsStepExecution known.stepExecutions row) :
    Completes known (updateStepExecution current.revision row failure)
      (fun _ reached => reached =
        { known with
          stepExecutions := known.stepExecutions.update
            { row with revision := current.revision + 1 } }) := by
  apply completes_read
  apply completes_expect found
  apply completes_demand rfl
  apply completes_demand admits
  apply completes_write
  exact completes_return _ rfl

theorem updateStep_completes {row current : PlanStepRow} (failure : GoalFailure)
    (found : known.getStep row.stepId = some current) :
    Completes known (updateStep current.revision row failure)
      (fun _ reached => reached =
        { known with
          planSteps := known.planSteps.update { row with revision := current.revision + 1 } }) := by
  apply completes_read
  apply completes_expect found
  apply completes_demand rfl
  apply completes_write
  exact completes_return _ rfl

theorem updateExecution_completes {current : ExecutionRow} (row : ExecutionRow)
    (failure : GoalFailure) (present : known.execution = some current) :
    Completes known (updateExecution current.revision row failure)
      (fun _ reached => reached =
        { known with execution := some { row with revision := current.revision + 1 } }) := by
  apply completes_read
  apply completes_expect present
  apply completes_demand rfl
  exact completes_change _ rfl

theorem updateGoal_completes (row : GoalRow) (failure : GoalFailure) :
    Completes known (updateGoal known.goal.revision row failure)
      (fun _ reached => reached =
        { known with goal := { row with revision := known.goal.revision + 1 } }) := by
  apply completes_read
  apply completes_demand rfl
  apply completes_write
  exact completes_return _ rfl

theorem admits_cancelled (distinct : TasksDistinct table.rows) (stepIn : step ∈ table.rows) :
    admitsStepExecution table { step with status := .cancelled } := by
  constructor
  · intro taken other otherIn different same
    exact different (distinct step stepIn other otherIn taken same.symm).symm
  · intro holds
    simp [occupied] at holds

theorem cancelStep_completes (distinct : TasksDistinct known.stepExecutions.rows)
    (stepIn : step ∈ known.stepExecutions.rows) :
    Completes known (cancelStep step)
      (fun _ reached => ∃ planSteps, StepsKept known.planSteps planSteps ∧
        reached =
          { known with
            planSteps := planSteps
            stepExecutions := known.stepExecutions.update (cancelledRow step) }) := by
  have found : known.getStepExecution step.stepId step.planRevision = some step :=
    known.stepExecutions.find_of_mem stepIn
  refine completes_called (@updateStepExecution_completes known
    { step with status := .cancelled } step _ found (admits_cancelled distinct stepIn)) ?_
  rintro _ reached isReached
  apply completes_read
  cases planned : reached.getStep step.stepId with
  | none => exact completes_return () ⟨known.planSteps, StepsKept.refl _, isReached⟩
  | some plan =>
    have isId : plan.stepId = step.stepId := reached.planSteps.key_of_find planned
    apply completes_whenever
    · rintro ⟨unfinished, -⟩
      rw [← isId] at planned
      refine completes_called (@updateStep_completes _
        { plan with status := .cancelled } plan _ planned) ?_
      rintro _ _ rfl
      subst isReached
      apply completes_return
      refine ⟨_, stepsKept_update
        { plan with status := .cancelled, revision := plan.revision + 1 } planned ?_, rfl⟩
      intro completed
      contradiction
    · intro _
      exact ⟨known.planSteps, StepsKept.refl _, isReached⟩

/-- The loop of a sweep, by induction on the steps that are left: a step that was swept
is not one of them, because their keys are distinct. -/
theorem cancelSteps_completes (steps : List StepExecutionRow)
    (distinct : TasksDistinct known.stepExecutions.rows)
    (stepsIn : ∀ step ∈ steps, step ∈ known.stepExecutions.rows)
    (keys : (steps.map StepExecutionRow.key).Nodup) :
    Completes known (forEach steps () (fun _ step => cancelStep step))
      (fun _ reached => ∃ (planSteps : Table PlanStepRow.stepId)
          (table : Table StepExecutionRow.key), StepsKept known.planSteps planSteps ∧
        table.rows = known.stepExecutions.rows.map (fun row =>
          if row.key ∈ steps.map StepExecutionRow.key then cancelledRow row else row) ∧
        reached = { known with planSteps := planSteps, stepExecutions := table }) := by
  induction steps generalizing known with
  | nil =>
    apply completes_return
    exact ⟨known.planSteps, known.stepExecutions, StepsKept.refl _, by simp, rfl⟩
  | cons step rest ih =>
    rw [List.map_cons, List.nodup_cons] at keys
    have stepIn := stepsIn step (by simp)
    refine completes_called (cancelStep_completes distinct stepIn) ?_
    rintro _ _ ⟨planSteps, kept, rfl⟩
    have laterDistinct : TasksDistinct
        (known.stepExecutions.update (cancelledRow step)).rows :=
      tasksDistinct_update distinct stepIn rfl (taskFree_of_same distinct stepIn rfl rfl)
    have laterIn : ∀ row ∈ rest,
        row ∈ (known.stepExecutions.update (cancelledRow step)).rows := by
      intro row rowIn
      rw [mem_of_mem_update stepIn (rfl : (cancelledRow step).key = step.key)]
      right
      refine ⟨stepsIn row (List.mem_cons_of_mem step rowIn), ?_⟩
      intro same
      apply keys.1
      rw [← same]
      exact List.mem_map_of_mem rowIn
    refine completes_result (ih laterDistinct laterIn keys.2) ?_
    rintro _ _ ⟨laterSteps, table, laterKept, rows, rfl⟩
    refine ⟨laterSteps, table, kept.trans laterKept, ?_, rfl⟩
    rw [rows]
    change List.map _ (List.map _ known.stepExecutions.rows) = _
    rw [List.map_map]
    apply List.map_congr_left
    intro row rowIn
    by_cases isStep : row.key = step.key
    · have sameRow : row = step := known.stepExecutions.row_unique rowIn stepIn isStep
      have written : (if step.key = (cancelledRow step).key then cancelledRow step else step) =
          cancelledRow step := if_pos rfl
      have passed : (cancelledRow step).key ∉ rest.map StepExecutionRow.key := keys.1
      simp only [Function.comp_apply]
      rw [sameRow, written, if_neg passed, if_pos (by simp)]
    · have swept : (cancelledRow step).key = step.key := rfl
      simp [swept, isStep]

def Cancelled (known : GoalStore) (execution : ExecutionRow) (reached : GoalStore) : Prop :=
  ∃ (goal : GoalRow) (planSteps : Table PlanStepRow.stepId)
      (table : Table StepExecutionRow.key),
    GoalKept known.goal goal ∧ SameEnd known.goal goal ∧ StepsKept known.planSteps planSteps ∧
    table.rows = known.stepExecutions.rows.map (sweptRow execution.planRevision) ∧
    reached =
      { known with
        goal := goal
        planSteps := planSteps
        execution := some (cancelledExecution execution)
        stepExecutions := table }

theorem endExecution_completes (present : known.execution = some execution) :
    Completes known
      (whenever (executionTerminal execution.status = false)
        (updateExecution execution.revision { execution with status := .cancelled } failure))
      (fun _ reached => reached =
        { known with execution := some (cancelledExecution execution) }) := by
  apply completes_whenever
  · intro live
    refine completes_result (updateExecution_completes _ failure present) ?_
    rintro _ _ rfl
    unfold cancelledExecution
    rw [live]
    rfl
  · intro terminal
    unfold cancelledExecution
    rw [if_pos (by simpa using terminal), ← present]

theorem endGoal_completes (failure : GoalFailure) :
    Completes known
      (whenever (known.goal.status ≠ .completed ∧ known.goal.status ≠ .cancelled) (do
        let _ ← updateGoal known.goal.revision { known.goal with status := .cancelled } failure
        pure ()))
      (fun _ reached => ∃ goal, GoalKept known.goal goal ∧ SameEnd known.goal goal ∧
        reached = { known with goal := goal }) := by
  apply completes_whenever
  · rintro ⟨unended, -⟩
    refine completes_called (updateGoal_completes _ failure) ?_
    rintro _ _ rfl
    apply completes_return
    have ending : SameEnd known.goal
        { known.goal with status := .cancelled, revision := known.goal.revision + 1 } := by
      constructor
      · intro completed
        contradiction
      · intro completed
        contradiction
    exact ⟨{ known.goal with
        status := .cancelled
        revision := known.goal.revision + 1 }, ⟨rfl, rfl, rfl, rfl⟩, ending, rfl⟩
  · intro _
    exact ⟨known.goal, GoalKept.refl _, Iff.rfl, rfl⟩

theorem swept_of_selected {planRevision : Nat} {row : StepExecutionRow} (rowIn : row ∈ table.rows)
    {steps : List StepExecutionRow} (selected : ∀ step, step ∈ steps ↔
      step ∈ table.rows ∧ step.planRevision = planRevision ∧ cancellable step.status = true) :
    (if row.key ∈ steps.map StepExecutionRow.key then cancelledRow row else row) =
      sweptRow planRevision row := by
  congr 1
  rw [List.mem_map, eq_iff_iff]
  constructor
  · rintro ⟨step, stepIn, same⟩
    have picked := (selected step).mp stepIn
    rw [table.row_unique picked.1 rowIn same] at picked
    exact picked.2
  · intro picked
    exact ⟨row, (selected row).mpr ⟨rowIn, picked⟩, rfl⟩

theorem projectCancelled_completes {execution : ExecutionRow}
    (distinct : TasksDistinct known.stepExecutions.rows)
    (present : known.execution = some execution) :
    Completes known projectCancelled (fun _ reached => Cancelled known execution reached) := by
  apply completes_read
  apply completes_expect present
  refine completes_called (endExecution_completes present) ?_
  rintro _ _ rfl
  have selected : ∀ step, step ∈ (known.listStepExecutions execution.planRevision).filter
      (fun step => cancellable step.status) ↔ step ∈ known.stepExecutions.rows ∧
        step.planRevision = execution.planRevision ∧ cancellable step.status = true := by
    intro step
    rw [List.mem_filter, mem_listStepExecutions, and_assoc]
  have keys : (((known.listStepExecutions execution.planRevision).filter
      fun step => cancellable step.status).map StepExecutionRow.key).Nodup := by
    have listed : (known.listStepExecutions execution.planRevision).Perm
        (known.stepExecutions.rows.filter fun row => row.planRevision = execution.planRevision) :=
      List.perm_insertionSort _ _
    have whole : ((known.listStepExecutions execution.planRevision).map
        StepExecutionRow.key).Nodup := by
      rw [(listed.map StepExecutionRow.key).nodup_iff]
      exact known.stepExecutions.keysNodup.sublist (List.filter_sublist.map _)
    exact whole.sublist (List.filter_sublist.map _)
  refine completes_called (@cancelSteps_completes
    { known with execution := some (cancelledExecution execution) } _ distinct
    (fun step stepIn => ((selected step).mp stepIn).1) keys) ?_
  rintro _ _ ⟨planSteps, table, kept, rows, rfl⟩
  refine completes_result (@endGoal_completes
    { known with
      planSteps := planSteps
      execution := some (cancelledExecution execution)
      stepExecutions := table } _) ?_
  rintro _ _ ⟨goal, goalKept, ending, rfl⟩
  refine ⟨goal, planSteps, table, goalKept, ending, kept, ?_, rfl⟩
  rw [rows]
  apply List.map_congr_left
  intro row rowIn
  exact swept_of_selected rowIn selected

variable {child : ChildRow}

def Stopped (known reached : GoalStore) : Prop :=
  ∃ children, links children = links known.children ∧ reached = { known with children := children }

theorem findTask_completes {taskId : String} (found : known.children.find taskId = some child) :
    Completes known
      (do
        let store ← inspect id
        expect (store.children.find taskId) failure)
      (fun value reached => value = child ∧ reached = known) := by
  apply completes_read
  rw [found]
  exact completes_return child ⟨rfl, rfl⟩

theorem writeChild_completes (changed : ChildRow) :
    Completes known (writeChild changed)
      (fun _ reached => reached = { known with children := known.children.update changed }) :=
  completes_change _ rfl

theorem cancelTask_ends (stopped : ChildRow → TaskStatus) (childIn : child ∈ known.children.rows)
    (active : taskTerminal child.status = false) :
    Ends known (cancelTask stopped child.taskId)
      (fun _ reached => taskTerminal (stopped child) = true ∧
        reached =
          { known with
            children := known.children.update { child with status := stopped child } })
      (Stopped known) := by
  have found : known.children.find child.taskId = some child :=
    known.children.find_of_mem childIn
  refine ends_bind (ends_completed (findTask_completes found)) ?_
  rintro child known ⟨rfl, rfl⟩
  rw [if_neg (by simp [active])]
  refine ends_bind (ends_completed (writeChild_completes { child with status := stopped child })) ?_
  rintro _ _ rfl
  have sameLinks : links (known.children.update { child with status := stopped child }) =
      links known.children := links_update childIn rfl
  refine ends_commit ?_ ⟨_, sameLinks, rfl⟩
  exact ensures_mono (ensures_demand _ _) (fun _ isKnown => isKnown)
    fun _ _ holds => ⟨holds.2, holds.1⟩

def StoppedAll (known reached : GoalStore) (given : List ChildRow) : Prop :=
  ∃ children : Table ChildRow.taskId, links children = links known.children ∧
    (∀ child ∈ children.rows, child.taskId ∈ given.map ChildRow.taskId →
      taskTerminal child.status = true) ∧
    (∀ child ∈ children.rows, child.taskId ∉ given.map ChildRow.taskId →
      child ∈ known.children.rows) ∧
    reached = { known with children := children }

theorem cancelChildren_ends (stopped : ChildRow → TaskStatus) (given : List ChildRow)
    (givenIn : ∀ child ∈ given, child ∈ known.children.rows)
    (distinct : (given.map ChildRow.taskId).Nodup) :
    Ends known (cancelChildren stopped given)
      (fun _ reached => StoppedAll known reached given) (Stopped known) := by
  induction given generalizing known with
  | nil =>
    apply ends_pure
    exact ⟨known.children, rfl, by simp, fun child childIn _ => childIn, rfl⟩
  | cons child rest ih =>
    rw [List.map_cons, List.nodup_cons] at distinct
    have childIn := givenIn child (by simp)
    apply ends_ite
    · intro ended
      have restIn : ∀ other ∈ rest, other ∈ known.children.rows :=
        fun other otherIn => givenIn other (List.mem_cons_of_mem child otherIn)
      refine ends_mono (ih restIn distinct.2) ?_ fun _ spilled => spilled
      rintro _ _ ⟨children, sameLinks, allOver, kept, rfl⟩
      refine ⟨children, sameLinks, ?_, ?_, rfl⟩
      · intro other otherIn isGiven
        by_cases inRest : other.taskId ∈ rest.map ChildRow.taskId
        · exact allOver other otherIn inRest
        · rw [List.map_cons, List.mem_cons] at isGiven
          have isChild := isGiven.resolve_right inRest
          rw [known.children.row_unique (kept other otherIn inRest) childIn isChild]
          exact ended
      · intro other otherIn absent
        rw [List.map_cons, List.mem_cons, not_or] at absent
        exact kept other otherIn absent.2
    · intro active
      refine ends_bind (cancelTask_ends stopped childIn (by simpa using active)) ?_
      rintro _ _ ⟨ended, rfl⟩
      have present : known.children.find ({ child with status := stopped child } :
          ChildRow).taskId = some child := known.children.find_of_mem childIn
      have restIn : ∀ other ∈ rest, other ∈
          (known.children.update { child with status := stopped child }).rows := by
        intro other otherIn
        rw [known.children.mem_update_iff _ present]
        right
        refine ⟨givenIn other (List.mem_cons_of_mem child otherIn), ?_⟩
        intro same
        apply distinct.1
        rw [← show other.taskId = child.taskId from same]
        exact List.mem_map_of_mem otherIn
      have sameLinks : links (known.children.update { child with status := stopped child }) =
          links known.children := links_update childIn rfl
      refine ends_mono (@ih
        { known with
          children := known.children.update { child with status := stopped child } }
        restIn distinct.2) ?_ ?_
      · rintro _ _ ⟨children, laterLinks, allOver, kept, rfl⟩
        refine ⟨children, laterLinks.trans sameLinks, ?_, ?_, rfl⟩
        · intro other otherIn isGiven
          by_cases inRest : other.taskId ∈ rest.map ChildRow.taskId
          · exact allOver other otherIn inRest
          rw [List.map_cons, List.mem_cons] at isGiven
          have isChild := isGiven.resolve_right inRest
          rcases (known.children.mem_update_iff _ present other).mp
            (kept other otherIn inRest) with written | ⟨-, different⟩
          · rw [written]
            exact ended
          · exact absurd isChild different
        · intro other otherIn absent
          rw [List.map_cons, List.mem_cons, not_or] at absent
          rcases (known.children.mem_update_iff _ present other).mp
            (kept other otherIn absent.2) with written | ⟨old, -⟩
          · exfalso
            apply absent.1
            rw [written]
          · exact old
      · rintro _ ⟨children, laterLinks, rfl⟩
        exact ⟨children, laterLinks.trans sameLinks, rfl⟩

variable {binding : Binding} {flow : FlowRow}

theorem nextCurrentStep_completes (flow : FlowRow) {requested : Option (Option String)}
    (fits : ∀ text, requested = some (some text) → optionalFits text 256) :
    Completes known (nextCurrentStep flow requested) (fun _ reached => reached = known) := by
  unfold nextCurrentStep
  match requested with
  | none => exact completes_return _ rfl
  | some none => exact completes_return _ rfl
  | some (some text) =>
    unfold optionalBounded
    have textFits := fits text rfl
    by_cases blank : trim text = ""
    · simp only [if_pos blank]
      exact completes_return _ rfl
    · simp only [if_neg blank]
      apply completes_demand (textFits.resolve_left blank)
      exact completes_return _ rfl

theorem nextState_completes (flow : FlowRow) {requested : Option ProjectedState}
    (fits : ∀ state, requested = some state → state.size ≤ stateLimit) :
    Completes known (nextState flow requested) (fun _ reached => reached = known) := by
  cases requested with
  | none => exact completes_return _ rfl
  | some state =>
    apply completes_demand (fits state rfl)
    exact completes_return _ rfl

theorem controlled_completes (present : known.flow = some flow)
    (bound : flow.owner = binding.owner ∧ flow.controllerId = binding.controllerId) :
    Completes known (controlled binding) (fun value reached => value = flow ∧ reached = known) := by
  apply completes_read
  apply completes_expect present
  apply completes_demand (by rw [bound.1])
  apply completes_demand (by rw [bound.1])
  apply completes_demand bound.2
  exact completes_return flow ⟨rfl, rfl⟩

theorem executorRows_completes (present : known.execution = some execution)
    (settled : Settled (viewOf known) execution) :
    Completes known executorRows
      (fun rows reached => rows = rowsOf known execution ∧ reached = known) := by
  have complete : (rowsOf known execution).planSteps.length =
      (rowsOf known execution).stepExecutions.length := by
    have counted : (stepsOf known.stepExecutions execution.planRevision).length =
        stepCount known.stepExecutions execution.planRevision := by
      unfold stepsOf stepCount
      rw [length_orderBy, List.countP_eq_length_filter]
    exact settled.snapshot.symm.trans counted.symm
  apply completes_read
  apply completes_expect present
  apply completes_demand complete
  exact completes_return _ ⟨rfl, rfl⟩

theorem mutate_completes {binding : Binding} {mutation : FlowMutation} {flow : FlowRow}
    (present : known.flow = some flow)
    (bound : flow.owner = binding.owner ∧ flow.controllerId = binding.controllerId)
    (expected : flow.revision = mutation.expectedRevision)
    (active : flowTerminal flow.status = false)
    (allows : flow.status = mutation.targetStatus ∨
      allowed flow.status mutation.targetStatus = true)
    (simple : mutation.targetStatus ≠ .blocked ∧ mutation.targetStatus ≠ .waiting)
    (noTask : mutation.blockedTaskId = none)
    (stepFits : ∀ text, mutation.currentStep = some (some text) → optionalFits text 256)
    (stateFits : ∀ state, mutation.state = some state → state.size ≤ stateLimit) :
    Completes known (mutate binding mutation)
      (fun after reached => (∃ before, Mutated known binding mutation before after) ∧
        reached = { known with flow := some after }) := by
  have completes : Completes known (mutate binding mutation) (fun _ _ => True) := by
    refine completes_called (controlled_completes present bound) ?_
    rintro flow known ⟨rfl, rfl⟩
    apply completes_demand expected
    apply completes_demand active
    apply completes_demand allows
    have task : Completes known (nextBlockedTask flow mutation.blockedTaskId)
        (fun _ reached => reached = known) := by
      rw [noTask]
      exact completes_return _ rfl
    refine completes_called task ?_
    rintro blockedTask known rfl
    have required : Completes known
        (whenever (mutation.targetStatus = .blocked) (requireBlockedTask blockedTask))
        (fun _ reached => reached = known) :=
      completes_whenever (fun blocked => absurd blocked simple.1) fun _ => rfl
    refine completes_called required ?_
    rintro _ known rfl
    refine completes_called (nextCurrentStep_completes flow stepFits) ?_
    rintro _ known rfl
    have summary : Completes known (nextBlockedSummary mutation)
        (fun _ reached => reached = known) := by
      unfold nextBlockedSummary
      rw [if_neg simple.1]
      exact completes_return _ rfl
    refine completes_called summary ?_
    rintro _ known rfl
    refine completes_called (nextState_completes flow stateFits) ?_
    rintro _ known rfl
    have wait : Completes known (nextWait mutation) (fun _ reached => reached = known) := by
      unfold nextWait
      rw [if_neg simple.2]
      exact completes_return _ rfl
    refine completes_called wait ?_
    rintro _ known rfl
    apply completes_write
    exact completes_return _ trivial
  exact completes_result (completes_and completes (mutate_writes binding mutation))
    fun _ _ holds => holds.2

theorem finishCancel_completes {binding : Binding} {flow : FlowRow}
    (allOver : ∀ child ∈ known.children.rows, taskTerminal child.status = true)
    (present : known.flow = some flow)
    (bound : flow.owner = binding.owner ∧ flow.controllerId = binding.controllerId)
    (active : flowTerminal flow.status = false) :
    Completes known (finishCancel binding flow)
      (fun _ reached => ∃ currentStep after,
        FlowMoved known.flow .cancelled currentStep after ∧ SameShown known.flow after ∧
        reached = { known with flow := some after }) := by
  apply completes_read
  apply completes_whenever
  · intro _
    have allows : allowed flow.status .cancelled = true := by
      revert active
      cases flow.status <;> simp [flowTerminal, allowed]
    refine completes_called (@mutate_completes known binding
      { expectedRevision := flow.revision
        targetStatus := .cancelled
        cancelRequested := some flow.cancelRequested } flow present bound rfl active
      (Or.inr allows) (by simp) rfl (by simp) (by simp)) ?_
    rintro after _ ⟨⟨before, mutated⟩, rfl⟩
    apply completes_return
    exact ⟨_, after, flowMoved_of_mutated mutated, sameShown_of_mutated mutated rfl rfl, rfl⟩
  · intro running
    exact absurd allOver running

/-- A cancellation before the flow ends: the flow may be asked to stop, and tasks may
have been stopped. -/
def Prepared (known middle : GoalStore) : Prop :=
  ∃ flow children, (flow = known.flow ∨ ∃ after, Asked known.flow after ∧ flow = some after) ∧
    links children = links known.children ∧
    middle = { known with flow := flow, children := children }

inductive FlowEnded (known reached : GoalStore) : Prop where
  | before {flow : FlowRow}
      (present : known.flow = some flow)
      (ended : flowTerminal flow.status = true)
      (same : reached = known)
  | now {middle : GoalStore} {flow : FlowRow} {currentStep : Option String}
      (prepared : Prepared known middle)
      (moved : FlowMoved middle.flow .cancelled currentStep flow)
      (shown : SameShown middle.flow flow)
      (written : reached = { middle with flow := some flow })

theorem requestCancel_live {expectedRevision : Nat} (present : known.flow = some flow)
    (bound : flow.owner = binding.owner ∧ flow.controllerId = binding.controllerId)
    (active : flowTerminal flow.status = false) :
    Ensures (· = known) (requestCancel binding expectedRevision)
      (fun current reached => (reached.flow = some current ∧
          (current.owner = binding.owner ∧ current.controllerId = binding.controllerId) ∧
          flowTerminal current.status = false) ∧
        ((∃ after, Asked known.flow after ∧ reached = { known with flow := some after }) ∨
          reached = known)) := by
  refine ensures_result (requestCancel_writes binding expectedRevision) ?_
  rintro current reached (⟨isCurrent, rfl⟩ | ⟨asked, rfl⟩)
  · rw [present, Option.some.injEq] at isCurrent
    subst isCurrent
    exact ⟨⟨present, bound, active⟩, Or.inr rfl⟩
  have moving := asked.moved
  obtain ⟨flowStatus, currentStep, moved, steady⟩ := moving
  obtain ⟨source, isSource, -, sameOwner, sameController, -⟩ := moved.source
  rw [present, Option.some.injEq] at isSource
  subst isSource
  refine ⟨⟨rfl, ⟨sameOwner.trans bound.1, sameController.trans bound.2⟩, ?_⟩, ?_⟩
  · rw [moved.reached, steady flow present]
    exact active
  · exact Or.inl ⟨current, asked, rfl⟩

theorem cancelFlow_ends (binding : Binding) (expectedRevision : Nat)
    (stopped : ChildRow → TaskStatus) :
    Ends known (TaskFlows.cancel binding expectedRevision stopped)
      (fun _ reached => FlowEnded known reached) (Prepared known) := by
  have untouched : Prepared known known := ⟨known.flow, known.children, Or.inl rfl, rfl, rfl⟩
  refine ends_bind (ends_commit (controlled_reads binding) untouched) ?_
  rintro flow known ⟨⟨present, bound⟩, rfl⟩
  apply ends_ite
  · intro ended
    exact ends_pure _ (FlowEnded.before present ended rfl)
  intro notEnded
  have active : flowTerminal flow.status = false := by simpa using notEnded
  refine ends_bind (ends_commit (requestCancel_live present bound active) untouched) ?_
  rintro current asked ⟨⟨isCurrent, sameBinding, live⟩, how⟩
  have step : (asked.flow = known.flow ∨
      ∃ after, Asked known.flow after ∧ asked.flow = some after) ∧
      asked.children = known.children ∧
      asked = { known with flow := asked.flow } := by
    rcases how with ⟨after, isAsked, rfl⟩ | rfl
    · exact ⟨Or.inr ⟨after, isAsked, rfl⟩, rfl, rfl⟩
    · exact ⟨Or.inl rfl, rfl, rfl⟩
  obtain ⟨flowStep, sameChildren, isAsked⟩ := step
  have prepared : ∀ children, links children = links asked.children →
      Prepared known { asked with children := children } := by
    intro children sameLinks
    rw [sameChildren] at sameLinks
    refine ⟨asked.flow, children, flowStep, sameLinks, ?_⟩
    rw [isAsked]
  have readStore : Completes asked (inspect id : GoalTransaction GoalStore)
      (fun store reached => store = asked ∧ reached = asked) := ⟨asked, asked, rfl, rfl, rfl⟩
  refine ends_bind (ends_completed readStore) ?_
  rintro _ asked ⟨rfl, rfl⟩
  have stopping := @cancelChildren_ends asked stopped asked.children.rows
    (fun _ childIn => childIn) asked.children.keysNodup
  refine ends_bind (ends_mono stopping (fun _ _ holds => holds) ?_) ?_
  · rintro _ ⟨children, sameLinks, rfl⟩
    exact prepared children sameLinks
  rintro _ _ ⟨children, sameLinks, allOver, kept, rfl⟩
  have allOver : ∀ child ∈ children.rows, taskTerminal child.status = true := by
    intro child childIn
    apply allOver child childIn
    have linked : link child ∈ links asked.children := by
      rw [← sameLinks]
      exact List.mem_map_of_mem childIn
    obtain ⟨old, oldIn, sameLink⟩ := List.mem_map.mp linked
    rw [← show old.taskId = child.taskId from congrArg Prod.fst sameLink]
    exact List.mem_map_of_mem oldIn
  refine ends_completed (completes_result (@finishCancel_completes
    { asked with children := children } binding current allOver isCurrent sameBinding live)
    ?_)
  rintro _ _ ⟨currentStep, after, moved, shown, rfl⟩
  exact FlowEnded.now (prepared children sameLinks) moved shown rfl

theorem cancelled_moves {middle reached : GoalStore} (present : middle.execution = some execution)
    {flow : Option FlowRow} (flowClosed : FlowClosed middle.flow flow)
    (cancelled : Cancelled { middle with flow := flow } execution reached) :
    Move .cancel middle reached := by
  obtain ⟨goal, planSteps, table, kept, ending, steps, swept, rfl⟩ := cancelled
  exact Move.cancelled present swept flowClosed kept ending steps

end OpenRill.Goals.Cancellation
