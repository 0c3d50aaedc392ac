import OpenRill.Goals.Agreement
import OpenRill.Goals.Quiescence

/-!
# The way out of a blocked goal

A blocked execution has one open blocker. A resolution and a retry close it and take the
step up again, as long as the step has attempts left; an adoption asks that no blocker is
open, and nothing else closes one. So a step that used up its attempts can neither go on
nor be replaced.
-/

namespace OpenRill.Goals.DeadEnds

open Lib Lib.Text Lib.Transaction Ledger TaskFlows Executor Operations PlanMachine Moves Footing
open Projection Writes Refinement Revisions Cancellation Invariants Quiescence Agreement

variable {store reached known : GoalStore} {execution : ExecutionRow} {failure : GoalFailure}
variable {blocker : BlockerRow}

def Blocked (store : GoalStore) : Prop :=
  ∃ execution, store.execution = some execution ∧ execution.status = .blocked

def Released (store : GoalStore) : Prop :=
  ∃ execution, store.execution = some execution ∧ execution.status ≠ .blocked

/-- A resolution or a retry of a blocker, or a revision and its adoption, takes the
execution out of its block. -/
def Recoverable (world : World) (store : GoalStore) : Prop :=
  (∃ (call : GoalCall) (caller : Owner) (input : Resolution),
    (call.op = .resolveBlocker caller input ∨ call.op = .retry caller input) ∧
      Released (step world store call)) ∨
  ∃ (revise adopt : GoalCall) (caller adopter : Owner) (draft : RevisionInput)
    (input : AdoptionInput),
    revise.op = .revisePlan caller draft ∧ adopt.op = .adoptPlanRevision adopter input ∧
      Released (step world (step world store revise) adopt)

/-- The current step has attempts left, its flow can move, and the state that the flow
would show is not too long. -/
def CanRetry (store : GoalStore) : Prop :=
  ∃ execution flow target, store.execution = some execution ∧ store.flow = some flow ∧
    Pinned (viewOf store) execution target ∧
    execution.currentStepId = some target.stepId ∧
    target.attemptCount < target.maxAttempts ∧ flowTerminal flow.status = false ∧
    (resolvedState (rowsOf store execution) target).size ≤ stateLimit

theorem blocked_or_released (released : Released store) : ¬ Blocked store := by
  rintro ⟨execution, present, blocked⟩
  obtain ⟨other, isOther, unblocked⟩ := released
  rw [present, Option.some.injEq] at isOther
  rw [isOther] at blocked
  exact unblocked blocked

theorem quiet_of_blocked (regular : Regular store) (blocked : Blocked store) : Quiet store := by
  obtain ⟨execution, present, isBlocked⟩ := blocked
  exact none_running regular.founded.sound present (Or.inl isBlocked)

theorem current_of_open (regular : Regular known) (present : known.execution = some execution)
    (blocked : execution.status = .blocked)
    (isOpen : OpenAt known.blockers execution.planRevision blocker) :
    execution.currentStepId = some blocker.stepId := by
  obtain ⟨only, -, current, unique⟩ := regular.guarded.blocked execution present blocked
  rw [unique blocker isOpen]
  exact current

theorem resumeBlockedStep_canRetry (regular : Regular known) (caller : Owner)
    (input : Resolution) (requireFailed : Bool) :
    Ensures (· = known) (resumeBlockedStep caller input requireFailed)
      (fun _ _ => CanRetry known) := by
  refine ensures_call (currentRows_reads caller input.expectedExecutionRevision) ?_
  rintro rows ⟨execution, present, rfl, -⟩
  apply ensures_demand_then
  intro blocked
  apply ensures_demand_then
  intro _
  refine ensures_call (bounded_reads input.blockerId 256 _) ?_
  rintro _ ⟨rfl, -⟩
  apply ensures_read
  apply ensures_expect_then
  intro blocker foundBlocker
  apply ensures_demand_then
  rintro ⟨revision, isOpen⟩
  apply ensures_expect_then
  intro target found
  have ofStep : target.stepId = blocker.stepId := by simpa using List.find?_some found
  apply ensures_demand_then
  intro _
  apply ensures_demand_then
  intro spare
  refine ensures_call (bounded_reads input.resolution 2000 _) ?_
  intro resolution _
  refine ensures_call (bounded_reads input.resolvedBy 256 _) ?_
  intro resolvedBy _
  refine ensures_called (mutate_writes _ _) ?_
  rintro after _ ⟨⟨flow, mutated⟩, rfl⟩
  have canRetry : CanRetry known := by
    refine ⟨execution, flow, target, present, mutated.present, pinned_of_find found, ?_, spare,
      mutated.active, mutated.fits _ rfl⟩
    rw [ofStep]
    apply current_of_open regular present blocked
    exact ⟨known.blockers.mem_of_find foundBlocker, revision, isOpen⟩
  intro _ _ _ _ _
  exact canRetry

theorem resolved_or_same (regular : Regular known) (host : Host) (caller : Owner)
    (input : Resolution) (requireFailed : Bool) (blockerId : String) (sent : Option String) :
    Ends known
      (do
        commit (resumeBlockedStep caller input requireFailed)
        advance host caller blockerId sent)
      (fun _ reached => CanRetry known ∨ reached = known)
      (fun reached => CanRetry known ∨ reached = known) := by
  refine ends_bind (ends_commit
    (resumeBlockedStep_canRetry regular caller input requireFailed) (Or.inr rfl)) ?_
  intro _ reached canRetry
  exact ends_always (fun _ _ => Or.inl canRetry) fun _ => Or.inl canRetry

theorem advanceRows_blocked (blocked : execution.status = .blocked) (sent : Option String) :
    Ends known (advanceRows (rowsOf known execution) sent)
      (fun _ reached => reached = known) (fun reached => reached = known) := by
  apply ends_ite
  · intro _
    exact ends_pure _ rfl
  intro _
  apply ends_ite
  · intro _
    exact ends_pure _ rfl
  · intro unblocked
    exact absurd (Or.inl blocked) unblocked

section

variable (regular : Regular known) (blocked : Blocked known)
include regular blocked

theorem advance_blocked (host : Host) (caller : Owner) (blockerId : String) (sent : Option String) :
    Ends known (advance host caller blockerId sent)
      (fun _ reached => reached = known) (fun reached => reached = known) := by
  have quiet := quiet_of_blocked regular blocked
  refine ends_bind (ends_commit (ownedRows_reads caller) rfl) ?_
  rintro rows known ⟨⟨execution, present, rfl⟩, rfl⟩
  obtain ⟨other, isOther, isBlocked⟩ := blocked
  rw [present, Option.some.injEq] at isOther
  subst isOther
  apply ends_ite
  · intro _
    exact ends_pure _ rfl
  intro _
  cases (currentStep (rowsOf known execution)).bind StepExecutionRow.currentTaskId with
  | none => exact advanceRows_blocked isBlocked sent
  | some taskId =>
    have reads : ∀ failure : GoalFailure, Ensures (· = known)
        (do
          let store ← inspect id
          expect (store.children.find taskId) failure)
        (fun child reached => known.children.find taskId = some child ∧ reached = known) := by
      intro failure
      apply ensures_read
      exact ensures_mono (ensures_expect _ _) (fun _ isKnown => isKnown)
        fun _ _ holds => ⟨holds.2, holds.1⟩
    refine ends_bind (ends_commit (reads _) rfl) ?_
    rintro child known ⟨found, rfl⟩
    apply ends_ite
    · intro _
      exact ends_pure _ rfl
    intro _
    have childIn := known.children.mem_of_find found
    have isChild : child.taskId = taskId := known.children.key_of_find found
    have reconciled : Ends known (reconcileTask host blockerId taskId)
        (fun _ reached => reached = known) (fun reached => reached = known) := by
      unfold Ends
      rw [← isChild, reconcileTask_quiet regular quiet host blockerId childIn]
    refine ends_bind reconciled ?_
    rintro _ known rfl
    refine ends_bind (ends_commit executorRows_reads rfl) ?_
    rintro rows known ⟨⟨later, isLater, rfl, -⟩, rfl⟩
    rw [present, Option.some.injEq] at isLater
    subst isLater
    exact advanceRows_blocked isBlocked sent

theorem adopt_blocked (host : Host) (caller : Owner) (input : AdoptionInput) (blockerId : String)
    (sent : Option String) :
    Ends known (adoptPlanRevision host caller input blockerId sent)
      (fun _ reached => reached = known) (fun reached => reached = known) := by
  refine ends_bind (ends_commit (ownedRows_reads caller) rfl) ?_
  rintro rows known ⟨⟨execution, present, rfl⟩, rfl⟩
  apply ends_ite
  · intro _
    exact advance_blocked regular blocked host caller blockerId sent
  intro _
  have refused : Ends known (commit (adoptRevision (rowsOf known execution) input))
      (fun _ _ => False) (fun reached => reached = known) := by
    apply ends_commit
    · refine ensures_result (adoptRevision_moves regular.founded present input) ?_
      rintro _ reached ⟨move, -⟩
      obtain ⟨other, isOther, isBlocked⟩ := blocked
      obtain ⟨blocker, isOpen, -⟩ := regular.guarded.blocked other isOther isBlocked
      cases move with
      | adopted isExecution _ _ unblocked _ _ _ _ _ _ _ _ _ =>
        rw [isOther, Option.some.injEq] at isExecution
        subst isExecution
        exact unblocked blocker isOpen
    · rfl
  refine ends_bind refused ?_
  intro _ _ never
  exact absurd never id

theorem revise_blocked (caller : Owner) (input : RevisionInput) :
    Ends known (commit (revisePlan caller input))
      (fun _ reached => Regular reached ∧ Blocked reached)
      (fun reached => Regular reached ∧ Blocked reached) := by
  apply ends_commit
  · refine ensures_result (revisePlan_moves caller input) ?_
    rintro _ reached (rfl | move)
    · exact ⟨regular, blocked⟩
    refine ⟨regular_of_move move regular, ?_⟩
    obtain ⟨execution, present, isBlocked⟩ := blocked
    cases move with
    | touched _ _ => exact ⟨execution, present, isBlocked⟩
    | revised _ _ _ _ _ _ _ _ _ => exact ⟨execution, present, isBlocked⟩
    | closed unstarted _ _ _ =>
      rw [unstarted] at present
      contradiction
    | started unstarted _ _ _ _ _ _ _ _ _ _ _ =>
      rw [unstarted] at present
      contradiction
  · exact ⟨regular, blocked⟩

end

theorem canRetry_of_recoverable (world : World) (regular : Regular known)
    (blocked : Blocked known) (recoverable : Recoverable world known) : CanRetry known := by
  rcases recoverable with ⟨call, caller, input, isOp, released⟩ |
    ⟨revise, adopt, caller, adopter, draft, input, isRevise, isAdopt, released⟩
  · have outcome : CanRetry known ∨ step world known call = known := by
      unfold step
      rcases isOp with isResolve | isRetry
      · rw [isResolve]
        exact ends_conclude (resolved_or_same regular world.host caller input false call.blockerId
          call.sent)
      · rw [isRetry]
        exact ends_conclude (resolved_or_same regular world.host caller input true call.blockerId
          call.sent)
    rcases outcome with canRetry | same
    · exact canRetry
    · rw [same] at released
      exact absurd blocked (blocked_or_released released)
  · exfalso
    have revised : Regular (step world known revise) ∧ Blocked (step world known revise) := by
      unfold step
      rw [isRevise]
      exact ends_conclude (revise_blocked regular blocked caller draft)
    generalize step world known revise = middle at revised released
    have same : step world middle adopt = middle := by
      unfold step
      rw [isAdopt]
      exact ends_conclude (adopt_blocked revised.1 revised.2 world.host adopter input
        adopt.blockerId adopt.sent)
    rw [same] at released
    exact blocked_or_released released revised.2

variable {target : StepExecutionRow}

theorem bounded_completes {value : String} {max : Nat}
    (fits : trim value ≠ "" ∧ utf16Length (trim value) ≤ max) :
    Completes known (bounded value max failure)
      (fun text reached => text = trim value ∧ reached = known) := by
  apply completes_demand fits
  exact completes_return _ ⟨rfl, rfl⟩

theorem projectMutableStep_completes (stepId : String) (execution : ExecutionRow)
    {selected : PlanStepRow → Bool} {write : PlanStepRow → PlanStepRow}
    (sameId : ∀ row, (write row).stepId = row.stepId) :
    Completes known (projectMutableStep stepId execution selected write failure)
      (fun _ reached => ∃ planSteps, reached = { known with planSteps := planSteps }) := by
  apply completes_read
  cases planned : known.getStep stepId with
  | none => exact completes_return () ⟨known.planSteps, rfl⟩
  | some plan =>
    apply completes_whenever
    · intro _
      have isId : plan.stepId = stepId := known.planSteps.key_of_find planned
      have present : known.getStep (write plan).stepId = some plan := by
        rw [sameId, isId]
        exact planned
      refine completes_called (@updateStep_completes known (write plan) plan failure present) ?_
      rintro _ _ rfl
      exact completes_return () ⟨_, rfl⟩
    · intro _
      exact ⟨known.planSteps, rfl⟩

theorem reactivateGoal_completes {selected : GoalStatus → Bool} (note : Option String) :
    Completes known (reactivateGoal selected note failure)
      (fun _ reached => ∃ goal, reached = { known with goal := goal }) := by
  apply completes_read
  apply completes_whenever
  · intro _
    refine completes_called (updateGoal_completes _ failure) ?_
    rintro _ _ rfl
    exact completes_return () ⟨_, rfl⟩
  · intro _
    exact ⟨known.goal, rfl⟩

theorem admits_ready {table : Table StepExecutionRow.key} {row : StepExecutionRow}
    (free : row.currentTaskId = none) (ready : row.status = .ready) :
    admitsStepExecution table row := by
  constructor
  · intro taken
    exact absurd free taken
  · intro holds
    rw [ready] at holds
    contradiction

theorem reopenStep_completes {execution : ExecutionRow} {step : StepExecutionRow}
    (reason : Option String) (during : String) (present : known.execution = some execution)
    (stepIn : step ∈ known.stepExecutions.rows) :
    Completes known (reopenStep execution step reason during)
      (fun _ reached => ∃ after, reached.execution = some after ∧ after.status = .queued) := by
  have found : known.getStepExecution step.stepId step.planRevision = some step :=
    known.stepExecutions.find_of_mem stepIn
  refine completes_called (@updateStepExecution_completes known _ step _ found
    (admits_ready rfl rfl)) ?_
  rintro _ _ rfl
  refine completes_called (projectMutableStep_completes step.stepId execution fun _ => rfl) ?_
  rintro _ _ ⟨planSteps, rfl⟩
  refine completes_called (updateExecution_completes _ _ present) ?_
  rintro _ _ rfl
  refine completes_result (reactivateGoal_completes reason) ?_
  rintro _ _ ⟨goal, rfl⟩
  exact ⟨_, rfl, rfl⟩

def freshResolution (execution : ExecutionRow) (flow : FlowRow)
    (blocker : BlockerRow) : Resolution where
  blockerId := blocker.blockerId
  expectedBlockerRevision := blocker.revision
  expectedExecutionRevision := execution.revision
  expectedFlowRevision := flow.revision
  resolvedBy := "operator"
  resolution := "resolved"

theorem stopped_of_blocked (regular : Regular known) (present : known.execution = some execution)
    (blocked : execution.status = .blocked) (pinned : Pinned (viewOf known) execution target)
    (current : execution.currentStepId = some target.stepId) :
    (target.status = .blocked ∨ target.status = .failed) ∧
      ∀ row, Pinned (viewOf known) execution row →
        row.status ≠ .running ∧ row.status ≠ .waiting := by
  have live : executionTerminal execution.status = false := by
    rw [blocked]
    rfl
  rcases (regular.founded.sound.settled execution present).standing live with
    ⟨row, focus⟩ | unfocused
  · have sameId : row.stepId = target.stepId := by
      have both := focus.current.symm.trans current
      exact Option.some.inj both
    have isTarget : row = target := by
      apply known.stepExecutions.row_unique focus.pinned.1 pinned.1
      have revision : row.planRevision = target.planRevision :=
        focus.pinned.2.trans pinned.2.symm
      simp [StepExecutionRow.key, revision, sameId]
    have stopped := (status_of_fits focus.fitting).2.mpr blocked
    refine ⟨isTarget ▸ stopped, ?_⟩
    intro other otherPinned
    rcases focus.behind other otherPinned with same | waits | done
    · rw [same]
      rcases stopped with isBlocked | failed
      · rw [isBlocked]
        exact ⟨by simp, by simp⟩
      · rw [failed]
        exact ⟨by simp, by simp⟩
    · rw [waits.1]
      exact ⟨by simp, by simp⟩
    · constructor
      · intro running
        rw [running] at done
        contradiction
      · intro waiting
        rw [waiting] at done
        contradiction
  · have running := unfocused.running
    rw [blocked] at running
    contradiction

theorem currentRows_completes (present : known.execution = some execution)
    (settled : Settled (viewOf known) execution) :
    Completes known (currentRows known.goal.owner execution.revision)
      (fun rows reached => rows = rowsOf known execution ∧ reached = known) := by
  have owned : Completes known (ownedRows known.goal.owner)
      (fun rows reached => rows = rowsOf known execution ∧ reached = known) := by
    refine completes_called (executorRows_completes present settled) ?_
    rintro rows known ⟨rfl, rfl⟩
    apply completes_demand rfl
    exact completes_return _ ⟨rfl, rfl⟩
  refine completes_called owned ?_
  rintro rows known ⟨rfl, rfl⟩
  apply completes_demand rfl
  exact completes_return _ ⟨rfl, rfl⟩

theorem bounds_of_idFits {id : String} (fits : idFits id = true) :
    trim id ≠ "" ∧ utf16Length (trim id) ≤ 256 := by
  have trimmed := idFits_trimmed fits
  unfold idFits at fits
  simp only [Bool.and_eq_true, decide_eq_true_eq] at fits
  rw [trimmed]
  exact ⟨fits.1.2, fits.2⟩

theorem resumable_of_stopped {status : StepStatus}
    (stopped : status = .blocked ∨ status = .failed) : resumable false status = true := by
  rcases stopped with rfl | rfl
  · rfl
  · rfl

theorem resumeBlockedStep_completes (regular : Regular known) {flow : FlowRow}
    (present : known.execution = some execution) (isFlow : known.flow = some flow)
    (blocked : execution.status = .blocked) (pinned : Pinned (viewOf known) execution target)
    (current : execution.currentStepId = some target.stepId)
    (isOpen : OpenAt known.blockers execution.planRevision blocker)
    (flowBlocked : allowed flow.status .queued = true)
    (spare : target.attemptCount < target.maxAttempts) (active : flowTerminal flow.status = false)
    (fits : (resolvedState (rowsOf known execution) target).size ≤ stateLimit) :
    Completes known
      (resumeBlockedStep known.goal.owner (freshResolution execution flow blocker) false)
      (fun _ reached => ∃ after, reached.execution = some after ∧ after.status = .queued) := by
  have ofStep : blocker.stepId = target.stepId := by
    have both := (current_of_open regular present blocked isOpen).symm.trans current
    exact Option.some.inj both
  obtain ⟨stopped, resting⟩ := stopped_of_blocked regular present blocked pinned current
  have settled := regular.founded.sound.settled execution present
  have blockerFits := regular.guarded.named blocker isOpen.mem
  have trimmed := idFits_trimmed blockerFits
  obtain ⟨other, isOther, bound⟩ := regular.bound.bound execution present
  rw [isFlow, Option.some.injEq] at isOther
  subst isOther
  have named := named_step regular.aligned pinned.1
  have rowsRead := currentRows_completes present settled
  refine completes_called rowsRead ?_
  rintro rows known ⟨rfl, rfl⟩
  apply completes_demand blocked
  have noActive : ∀ step ∈ (rowsOf known execution).stepExecutions, step.currentTaskId ≠ none →
      step.status ≠ .running ∧ step.status ≠ .waiting :=
    fun step stepIn _ => resting step ((mem_stepsOf _ _ step).mp stepIn)
  apply completes_demand noActive
  refine completes_called (bounded_completes (bounds_of_idFits blockerFits)) ?_
  rintro _ known ⟨rfl, rfl⟩
  apply completes_read
  have foundBlocker : known.getBlocker (trim blocker.blockerId) = some blocker := by
    rw [trimmed]
    exact known.blockers.find_of_mem isOpen.mem
  apply completes_expect foundBlocker
  apply completes_demand ⟨isOpen.revision, isOpen.opened⟩
  have foundTarget : (rowsOf known execution).stepExecutions.find?
      (fun step => step.stepId = blocker.stepId) = some target := by
    rw [ofStep, find_pinned execution target.stepId]
    exact getStepExecution_of_pinned pinned
  apply completes_expect foundTarget
  apply completes_demand (resumable_of_stopped stopped)
  apply completes_demand spare
  have resolutionFits : trim "resolved" ≠ "" ∧ utf16Length (trim "resolved") ≤ 2000 := by
    decide
  have resolverFits : trim "operator" ≠ "" ∧ utf16Length (trim "operator") ≤ 256 := by
    decide
  refine completes_called (bounded_completes resolutionFits) ?_
  rintro resolution known ⟨-, rfl⟩
  refine completes_called (bounded_completes resolverFits) ?_
  rintro resolvedBy known ⟨-, rfl⟩
  refine completes_called (mutate_completes isFlow bound rfl active (Or.inr flowBlocked)
    ⟨by simp, by simp⟩ rfl ?_ ?_) ?_
  · intro text isText
    cases isText
    exact Or.inr (bounds_of_idFits named).2
  · intro state isState
    cases isState
    exact fits
  rintro after _ ⟨-, rfl⟩
  apply completes_read
  apply completes_expect present
  apply completes_expect (getStepExecution_of_pinned pinned)
  apply completes_expect (known.blockers.find_of_mem isOpen.mem)
  apply completes_demand ⟨rfl, rfl⟩
  have closing : ∀ (state : GoalStore) (resolvedBy resolution : String)
      (failure : GoalFailure), Completes state
        (closeBlocker blocker resolvedBy resolution failure)
        (fun _ reached => ∃ blockers, reached = { state with blockers := blockers }) := by
    intro state resolvedBy resolution failure
    apply completes_demand isOpen.opened
    apply completes_write
    exact completes_return _ ⟨_, rfl⟩
  refine completes_called (closing _ resolvedBy resolution _) ?_
  rintro _ _ ⟨blockers, rfl⟩
  exact @reopenStep_completes
    { known with
      flow := some after
      blockers := blockers } execution target (some resolution) _ present pinned.1

section

variable (regular : Regular known) (present : known.execution = some execution) (queued :
  execution.status = .queued)

include regular present queued

theorem ready_of_queued : ∃ row, Focus (viewOf known) execution row ∧ row.status = .ready := by
  have live : executionTerminal execution.status = false := by
    rw [queued]
    rfl
  rcases (regular.founded.sound.settled execution present).standing live with
    ⟨row, focus⟩ | unfocused
  · refine ⟨row, focus, ?_⟩
    have fitting := focus.fitting
    rw [queued] at fitting
    cases isReady : row.status with
    | ready => rfl
    | _ =>
      rw [isReady] at fitting
      contradiction
  · have running := unfocused.running
    rw [queued] at running
    contradiction

theorem released_of_shift (move : Move .shift known reached) : Released reached := by
  obtain ⟨ready, focus, isReady⟩ := ready_of_queued regular present queued
  cases move with
  | @shifted _ _ _ other step next status flowStatus _ _ _ isOther pinned shift _ _ _ _ _ _ _ _
      _ _ =>
      rw [present, Option.some.injEq] at isOther
      subst isOther
      refine ⟨_, rfl, ?_⟩
      have idle : step.status ≠ .running := by
        rcases focus.behind step pinned with same | waits | done
        · rw [same, isReady]
          simp
        · rw [waits.1]
          simp
        · intro running
          rw [running] at done
          contradiction
      intro stopped
      exact idle ((blocked_of_shift shift).mp stopped)

theorem advance_queued (host : Host) (caller : Owner) (blockerId : String) (sent : Option String) :
    Ends known (advance host caller blockerId sent) (fun _ => Released) Released := by
  have released : Released known := by
    refine ⟨execution, present, ?_⟩
    rw [queued]
    simp
  obtain ⟨ready, focus, isReady⟩ := ready_of_queued regular present queued
  have found : currentStep (rowsOf known execution) = some ready := by
    unfold currentStep
    have current : (rowsOf known execution).execution.currentStepId = some ready.stepId :=
      focus.current
    rw [current]
    have looked := @find_pinned known execution ready.stepId
    exact looked.trans (getStepExecution_of_pinned focus.pinned)
  have free : ready.currentTaskId = none :=
    regular.founded.resting ready focus.pinned.1 (Or.inr (Or.inl isReady))
  refine ends_bind (ends_commit (ownedRows_reads caller) released) ?_
  rintro rows known ⟨⟨other, isOther, rfl⟩, rfl⟩
  rw [present, Option.some.injEq] at isOther
  subst isOther
  apply ends_ite
  · intro _
    exact ends_pure _ released
  intro _
  rw [found, Option.bind_some, free]
  apply ends_ite
  · intro _
    exact ends_pure _ released
  intro _
  apply ends_ite
  · intro _
    exact ends_pure _ released
  intro _
  apply ends_ite
  · intro _
    apply ends_ite
    · intro _
      have admitting : Ends known
          (commit (admitReady (rowsOf known execution) none sent))
          (fun _ => Released) Released := by
        apply ends_commit
        · refine ensures_result (admitReady_moves present none sent) ?_
          intro _ reached move
          exact released_of_shift regular present queued move
        · exact released
      refine ends_bind admitting ?_
      intro _ reached released
      exact ends_pure _ released
    · intro _
      exact ends_pure _ released
  · intro _
    apply ends_ite
    · intro _
      exact ends_pure _ released
    · intro _
      exact ends_pure _ released

end

theorem recoverable_of_canRetry (world : World) (regular : Regular known)
    (agree : StatusesAgree known) (blocked : Blocked known) (canRetry : CanRetry known) :
    Recoverable world known := by
  obtain ⟨execution, flow, target, present, isFlow, pinned, current, spare, active, fits⟩ :=
    canRetry
  have isBlocked : execution.status = .blocked := by
    obtain ⟨other, isOther, blocked⟩ := blocked
    rw [present, Option.some.injEq] at isOther
    rw [isOther]
    exact blocked
  have flowBlocked : allowed flow.status .queued = true := by
    rw [(same_of_live agree present isFlow active).1, isBlocked]
    rfl
  obtain ⟨blocker, isOpen, -⟩ := regular.guarded.blocked execution present isBlocked
  left
  refine ⟨{ op := .resolveBlocker known.goal.owner (freshResolution execution flow blocker)
            blockerId := "b1"
            sent := none
            blockerIdFits := by decide },
    known.goal.owner, freshResolution execution flow blocker, Or.inl rfl, ?_⟩
  have resumes := completes_and
    (resumeBlockedStep_completes regular present isFlow isBlocked pinned current isOpen
      flowBlocked spare active fits)
    (resumeBlockedStep_moves regular.founded known.goal.owner
      (freshResolution execution flow blocker) false)
  refine @ends_conclude _ _ _ _ _ Released ?_
  refine ends_bind (ends_completed resumes) ?_
  rintro _ reached ⟨⟨after, isAfter, queued⟩, move, -⟩
  exact advance_queued (regular_of_move move regular) isAfter queued world.host
    known.goal.owner "b1" none

def isBlocked (store : GoalStore) : Bool :=
  store.execution.any (fun execution => execution.status = .blocked)

theorem isBlocked_sound (holds : isBlocked store = true) : Blocked store := by
  unfold isBlocked at holds
  rw [Option.any_eq_true] at holds
  obtain ⟨execution, present, blocked⟩ := holds
  exact ⟨execution, present, by simpa using blocked⟩

def hasRetry (store : GoalStore) : Bool :=
  match store.execution, store.flow with
  | some execution, some flow =>
    flowTerminal flow.status = false &&
      store.stepExecutions.rows.any (fun row =>
        row.planRevision = execution.planRevision &&
          execution.currentStepId = some row.stepId &&
          row.attemptCount < row.maxAttempts &&
          (resolvedState (rowsOf store execution) row).size ≤ stateLimit)
  | _, _ => false

theorem hasRetry_sound (holds : hasRetry store = true) : CanRetry store := by
  unfold hasRetry at holds
  cases present : store.execution with
  | none => simp [present] at holds
  | some execution =>
    cases isFlow : store.flow with
    | none => simp [present, isFlow] at holds
    | some flow =>
      simp only [present, isFlow, Bool.and_eq_true, List.any_eq_true, decide_eq_true_eq] at holds
      obtain ⟨active, row, rowIn, ⟨⟨revision, current⟩, spare⟩, fits⟩ := holds
      exact ⟨execution, flow, row, present, isFlow, ⟨rowIn, revision⟩, current, spare, active, fits⟩

def isExhausted (store : GoalStore) : Bool :=
  isBlocked store && store.stepExecutions.rows.all (fun row => ¬ row.attemptCount < row.maxAttempts)

theorem isExhausted_sound (holds : isExhausted store = true) :
    Blocked store ∧ ¬ CanRetry store := by
  simp only [isExhausted, Bool.and_eq_true, List.all_eq_true, decide_eq_true_eq] at holds
  refine ⟨isBlocked_sound holds.1, ?_⟩
  rintro ⟨execution, flow, target, -, -, pinned, -, spare, -⟩
  exact holds.2 target pinned.1 spare

/-- A blocked goal recovers just when its step can be retried. -/
theorem recoverable_iff (world : World) (first : GoalStore) (calls : List GoalCall)
    (created : Created world first) (blocked : Blocked (reach world first calls)) :
    Recoverable world (reach world first calls) ↔ CanRetry (reach world first calls) := by
  have regular := regular_of_run world calls created
  have agree := statusesAgree_of_run world calls created
  constructor
  · intro recoverable
    exact canRetry_of_recoverable world regular blocked recoverable
  · intro canRetry
    exact recoverable_of_canRetry world regular agree blocked canRetry

/-- A goal whose child failed once recovers: its step has two attempts left. -/
theorem sample_recoverable :
    Recoverable sampleWorld (reach sampleWorld (sampleCreated ["Draft"]) sampleStopped) := by
  have stopped : reach sampleWorld (sampleCreated ["Draft"]) sampleStopped =
      reach sampleWorld sampleRunning sampleStopped.tail :=
    sample_continued sampleStopped.tail
  have blocked : Blocked (reach sampleWorld (sampleCreated ["Draft"]) sampleStopped) := by
    exact isBlocked_sound (by decide +kernel)
  apply (recoverable_iff sampleWorld (sampleCreated ["Draft"]) sampleStopped sample_created
    blocked).mpr
  exact hasRetry_sound (by decide +kernel)

def sampleFailed (taskId blockerId : String) (fits : idFits blockerId = true) : List GoalCall :=
  [sampleCall
      (.childMoves
        { taskId := taskId
          status := .failed
          terminalOutcome := none
          terminalSummary := none
          errorCode := some "ERROR" }) none,
    { op := .reconcileTask taskId, blockerId := blockerId, sent := none, blockerIdFits := fits }]

/-- The blocker of the failed step is retried, at the revisions that are current then. -/
def sampleRetried (blockerRevision revision : Nat) (taskId : String) : GoalCall :=
  sampleCall
    (.retry sampleOwner
      { blockerId := "b1"
        expectedBlockerRevision := blockerRevision
        expectedExecutionRevision := revision
        expectedFlowRevision := revision
        resolvedBy := "operator"
        resolution := "again" }) (some taskId)

theorem firstBlocker_fits : idFits "b1" = true := by
  decide

def sampleExhausted : List GoalCall :=
  [sampleCall (.start sampleOwner 1) (some "t1")] ++ sampleFailed "t1" "b1" firstBlocker_fits ++
    [sampleRetried 1 3 "t2"] ++ sampleFailed "t2" "b1" firstBlocker_fits ++
    [sampleRetried 3 6 "t3"] ++ sampleFailed "t3" "b2" (by decide)

def exhaustedGoal : { store : GoalStore // isExhausted store = true } :=
  ⟨reach sampleWorld sampleRunning sampleExhausted.tail, by decide +kernel⟩

theorem sample_dead_end :
    Created sampleWorld (sampleCreated ["Draft"]) ∧
      Blocked (reach sampleWorld (sampleCreated ["Draft"]) sampleExhausted) ∧
      ¬ Recoverable sampleWorld (reach sampleWorld (sampleCreated ["Draft"]) sampleExhausted) := by
  have exhausted : reach sampleWorld (sampleCreated ["Draft"]) sampleExhausted =
      reach sampleWorld sampleRunning sampleExhausted.tail :=
    sample_continued sampleExhausted.tail
  have regular := regular_of_run sampleWorld sampleExhausted sample_created
  rw [exhausted] at regular ⊢
  have isExhausted := exhaustedGoal.property
  dsimp only [exhaustedGoal] at isExhausted
  obtain ⟨blocked, noRetry⟩ := isExhausted_sound isExhausted
  refine ⟨sample_created, blocked, ?_⟩
  intro recoverable
  apply noRetry
  exact canRetry_of_recoverable sampleWorld regular blocked recoverable

end OpenRill.Goals.DeadEnds
