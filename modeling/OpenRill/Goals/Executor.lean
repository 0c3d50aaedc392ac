import OpenRill.Goals.TaskFlows

/-!
# The goal plan executor

`GoalPlanExecutorService`: an ordered plan that runs one step and one child task
at a time. A method whose writes are one transaction is a `GoalTransaction`; a
method that goes on to `advance`, or that cancels, commits several and is a
`Procedure`. The views the methods return are reads of the ledger and are left
out.
-/

namespace OpenRill.Goals.Executor

open Lib Lib.Text Lib.Transaction Ledger TaskFlows

abbrev GoalProcedure (Value : Type) := Procedure GoalStore GoalFailure Value

def controllerIdFor (goalId : String) : String := "goal-plan-executor:" ++ goalId

def executionRequestKey (goalId : String) (planRevision : Nat) : String :=
  "goal-execution:" ++ goalId ++ ":plan:" ++ toString planRevision

def requestKey (goalId : String) (planRevision : Nat) (stepId : String) (attempt : Nat) :
    String :=
  "goal-step:" ++ goalId ++ ":" ++ toString planRevision ++ ":" ++ stepId ++ ":" ++ toString attempt

def taskText (goal : GoalRow) (step : PlanRevisionStepRow) (total : Nat) : String :=
  "Goal: " ++ goal.objective ++ "\n" ++
  "Plan step " ++ toString step.ordinal ++ "/" ++ toString total ++ ": " ++ step.title ++ "\n" ++
  "Complete this single step and return a concrete final deliverable. " ++
  "Do not return only a progress promise."

structure DraftStep where
  stepId : String
  ordinal : Nat
  title : String
  required : Bool
  retryMode : RetryMode
  maxAttempts : Nat
  deriving DecidableEq

/-- What makes two steps of different revisions the same step. -/
structure StepDefinition where
  stepId : String
  title : String
  required : Bool
  retryMode : RetryMode
  maxAttempts : Nat
  deriving DecidableEq

def definitionOfRow (row : PlanRevisionStepRow) : StepDefinition where
  stepId := row.stepId
  title := row.title
  required := row.required
  retryMode := row.retryMode
  maxAttempts := row.maxAttempts

def definitionOfDraft (draft : DraftStep) : StepDefinition where
  stepId := draft.stepId
  title := draft.title
  required := draft.required
  retryMode := draft.retryMode
  maxAttempts := draft.maxAttempts

/-- `sameStableStepDefinition`: the ordinal does not count. -/
def sameStableStepDefinition (left right : StepDefinition) : Bool :=
  left = right

def draftOfRow (row : PlanRevisionStepRow) : DraftStep where
  stepId := row.stepId
  ordinal := row.ordinal
  title := row.title
  required := row.required
  retryMode := row.retryMode
  maxAttempts := row.maxAttempts

def sameRevisionDraft (left : List PlanRevisionStepRow) (right : List DraftStep) : Bool :=
  left.map draftOfRow = right

/-- One turn of `normalizedDraft`: the steps checked so far and the next one. -/
def normalizeStep (checked : List DraftStep) (step : DraftStep) :
    GoalTransaction (List DraftStep) := do
  let stepId ← bounded step.stepId 256 (planInvalid "invalid stepId")
  let title ← bounded step.title 1000 (planInvalid "invalid step title")
  demand (stepId ∉ checked.map DraftStep.stepId) (planInvalid ("duplicate stepId: " ++ stepId))
  demand (step.ordinal = checked.length + 1) (planInvalid "Plan ordinals must be contiguous from 1")
  demand (1 ≤ step.maxAttempts ∧ step.maxAttempts ≤ 20)
    (planInvalid "maxAttempts must be an integer between 1 and 20")
  pure (checked ++ [{ step with stepId := stepId, title := title }])

def normalizedDraft (steps : List DraftStep) : GoalTransaction (List DraftStep) := do
  demand (1 ≤ steps.length ∧ steps.length ≤ 200)
    (planInvalid "revised Plan must contain between 1 and 200 Steps")
  forEach (orderBy DraftStep.ordinal steps) [] normalizeStep

/-- `#canProjectMutablePlanStep`: the pinned definition is still the current one. -/
def canProjectMutablePlanStep (store : GoalStore) (execution : ExecutionRow)
    (stepId : String) : Bool :=
  if execution.planRevision = store.goal.planRevision then true
  else
    match store.getPlanRevisionStep execution.planRevision stepId,
      store.getPlanRevisionStep store.goal.planRevision stepId with
    | some pinned, some current =>
      sameStableStepDefinition (definitionOfRow pinned) (definitionOfRow current)
    | _, _ => false

def projectedState (goal : GoalRow) (execution : ExecutionRow)
    (planSteps : List PlanRevisionStepRow) (stepExecutions : List StepExecutionRow) :
    ProjectedState where
  goalId := goal.goalId
  planRevision := execution.planRevision
  executionStatus := execution.status
  currentStepId := execution.currentStepId
  nextStep :=
    match stepExecutions.find? (fun step => step.status = .ready) with
    | none => none
    | some next =>
      match planSteps.find? (fun step => step.stepId = next.stepId) with
      | none => none
      | some plan =>
        some
          { stepId := next.stepId
            ordinal := next.ordinal
            title := plan.title
            requestKey := requestKey goal.goalId execution.planRevision next.stepId
              (next.attemptCount + 1)
            text := taskText goal plan planSteps.length
            attempt := next.attemptCount + 1 }
  steps := stepExecutions.map (fun step =>
    { stepId := step.stepId
      ordinal := step.ordinal
      status := step.status
      currentTaskId := step.currentTaskId
      attemptCount := step.attemptCount
      terminalOutcome := step.lastTerminalOutcome
      summary := step.lastSummary })

def rewriteStep (stepId : String) (rewrite : StepExecutionRow → StepExecutionRow)
    (stepExecutions : List StepExecutionRow) : List StepExecutionRow :=
  stepExecutions.map (fun step => if step.stepId = stepId then rewrite step else step)

structure ExecutorRows where
  goal : GoalRow
  execution : ExecutionRow
  planSteps : List PlanRevisionStepRow
  stepExecutions : List StepExecutionRow

def executorRows : GoalTransaction ExecutorRows := do
  let store ← inspect id
  let execution ← expect store.execution (executionNotFound "goal execution not found")
  let rows : ExecutorRows :=
    { goal := store.goal
      execution := execution
      planSteps := store.listPlanRevisionSteps execution.planRevision
      stepExecutions := store.listStepExecutions execution.planRevision }
  demand (rows.planSteps.length = rows.stepExecutions.length)
    (planInvalid "goal execution revision snapshot is incomplete")
  pure rows

def assertOwned (goal : GoalRow) (caller : Owner) : GoalTransaction Unit :=
  demand (goal.owner = caller) (.service .executionAccessDenied "goal belongs to a different owner")

def ownedRows (caller : Owner) : GoalTransaction ExecutorRows := do
  let rows ← executorRows
  assertOwned rows.goal caller
  pure rows

def requireRevision (execution : ExecutionRow) (expectedRevision : Nat) :
    GoalTransaction Unit :=
  demand (execution.revision = expectedRevision)
    (revisionConflict "Goal execution changed; read it again")

def base (execution : ExecutionRow) : Binding where
  owner := execution.owner
  controllerId := execution.controllerId

def assertNoActiveTask (rows : ExecutorRows) : GoalTransaction Unit :=
  demand
    (∀ step ∈ rows.stepExecutions, step.currentTaskId ≠ none →
      step.status ≠ .running ∧ step.status ≠ .waiting)
    (stateInvalid "Goal execution has an active child Task")

def currentStep (rows : ExecutorRows) : Option StepExecutionRow :=
  match rows.execution.currentStepId with
  | none => none
  | some stepId => rows.stepExecutions.find? (fun step => step.stepId = stepId)

def anyReady (rows : ExecutorRows) : Option StepExecutionRow :=
  rows.stepExecutions.find? (fun step => step.status = .ready)

/-- What a blocker is recognized by. The summary is trimmed with its white space
collapsed; its lower casing is part of the digest. -/
structure BlockerIdentity where
  goalId : String
  planRevision : Nat
  stepId : String
  blockerType : BlockerType
  summary : String
  deriving DecidableEq

/-- What the host adds: the digest of a blocker, and the status in which its
cancellation leaves a task. -/
structure Host where
  digest : BlockerIdentity → String
  stopped : ChildRow → TaskStatus

def blockerFingerprint (host : Host) (goalId : String) (planRevision : Nat) (stepId : String)
    (blockerType : BlockerType) (summary : String) : String :=
  host.digest
    { goalId := goalId
      planRevision := planRevision
      stepId := stepId
      blockerType := blockerType
      summary := String.ofList (collapseRuns isTrimmed (trim summary).toList) }

/-- `#recordBlocker`: a blocker that recurs is counted and opened again. -/
def recordBlocker (host : Host) (blockerId : String) (execution : ExecutionRow)
    (step : StepExecutionRow) (taskId : String) (blockerType : BlockerType) (summary : String)
    (evidence : BlockerEvidence) : GoalTransaction BlockerRow := do
  let store ← inspect id
  let fingerprint := blockerFingerprint host store.goal.goalId execution.planRevision
    step.stepId blockerType summary
  match store.blockerOfFingerprint step.stepId execution.planRevision fingerprint with
  | some existing => incrementBlocker existing (some taskId) summary evidence
  | none => do
      let created : BlockerRow :=
        { blockerId := blockerId
          stepId := step.stepId
          planRevision := execution.planRevision
          taskId := some taskId
          blockerType := blockerType
          fingerprint := fingerprint
          summary := summary
          evidence := evidence
          status := .opened
          occurrenceCount := 1
          resolvedBy := none
          resolution := none
          revision := 1 }
      insertBlocker created
      pure created

/-- The writes of `#admitReady` for a child that is new. -/
def recordAdmission (rows : ExecutorRows) (ready : StepExecutionRow) (execution : ExecutionRow)
    (step : StepExecutionRow) (taskId : String) : GoalTransaction Unit := do
  let store ← inspect id
  demand (execution.revision = rows.execution.revision ∧ step.revision = ready.revision ∧
      step.status = .ready)
    (revisionConflict "goal execution changed during child admission")
  demand (∀ entry ∈ store.listStepExecutions execution.planRevision,
      occupied entry.status = false)
    (stateInvalid "another Plan step became active during admission")
  let _ ← updateStepExecution step.revision
    { step with
      status := .running
      currentTaskId := some taskId
      attemptCount := step.attemptCount + 1
      lastTerminalOutcome := none
      lastSummary := none
      lastRetryReason := none }
    (revisionConflict "Plan step execution changed during admission")
  let planStep ← expect (store.getStep step.stepId)
    (planInvalid "Plan step disappeared during admission")
  whenever (canProjectMutablePlanStep store execution step.stepId = true ∧
      (planStep.status = .pending ∨ planStep.status = .blocked)) (do
    let _ ← updateStep planStep.revision { planStep with status := .inProgress }
      (revisionConflict "Plan step changed during admission")
    pure ())
  updateExecution execution.revision
    { execution with status := .running, currentStepId := some step.stepId }
    (revisionConflict "Goal execution changed during admission")

/-- A controller may admit only the child that the plan has next. -/
def assertRequested (flow : FlowRow) (expected : ChildRequest) (ready : StepExecutionRow) :
    Option ChildRequest → GoalTransaction Unit
  | none => pure ()
  | some requested =>
    demand (requested.expectedRevision = flow.revision ∧
        requested.requestKey = expected.requestKey ∧ requested.stepKey = ready.stepId ∧
        requested.text = expected.text)
      (requestConflict "controller child admission does not match the next durable Plan step")

/-- What the hook of `runTask` does with the child it was given. -/
def projectAdmission (rows : ExecutorRows) (ready : StepExecutionRow) (admitted : Admitted) :
    GoalTransaction Unit := do
  let store ← inspect id
  let execution ← expect store.execution
    (executionNotFound "goal execution changed during child admission")
  let step ← expect (store.getStepExecution ready.stepId rows.execution.planRevision)
    (executionNotFound "goal execution changed during child admission")
  if admitted.replayed then
    demand (step.currentTaskId = some admitted.child.taskId ∧ step.status = .running)
      (requestConflict "child replay conflicts with Plan step execution")
  else recordAdmission rows ready execution step admitted.child.taskId

def admitReady (rows : ExecutorRows) (requested : Option ChildRequest) (sent : Option String) :
    GoalTransaction Unit := do
  let ready ← expect (anyReady rows) (stateInvalid "goal execution has no READY step")
  demand (∀ step ∈ rows.stepExecutions, occupied step.status = false)
    (stateInvalid "goal execution already has an active step")
  let plan ← expect (rows.planSteps.find? (fun step => step.stepId = ready.stepId))
    (.unexpected "READY step has no definition")
  let flow ← controlled (base rows.execution)
  let projectedSteps := rewriteStep ready.stepId
    (fun step => { step with status := .running, attemptCount := step.attemptCount + 1 })
    rows.stepExecutions
  let projectedExecution :=
    { rows.execution with status := .running, currentStepId := some ready.stepId }
  let request : ChildRequest :=
    { expectedRevision := flow.revision
      requestKey := requestKey rows.goal.goalId rows.execution.planRevision ready.stepId
        (ready.attemptCount + 1)
      stepKey := ready.stepId
      text := taskText rows.goal plan rows.planSteps.length
      state := some (projectedState rows.goal projectedExecution rows.planSteps projectedSteps) }
  assertRequested flow request ready requested
  let admitted ← runTask (base rows.execution) request sent
  projectAdmission rows ready admitted

structure TerminalSnapshot where
  goal : GoalRow
  execution : ExecutionRow
  task : ChildRow
  stepExecution : StepExecutionRow
  planSteps : List PlanRevisionStepRow
  stepExecutions : List StepExecutionRow

def terminalSnapshot (taskId : String) : GoalTransaction (Option TerminalSnapshot) := do
  let store ← inspect id
  match store.stepExecutionOfTask taskId with
  | none => pure none
  | some stepExecution => do
      let execution ← expect store.execution
        (executionNotFound "Goal execution terminal projection is incomplete")
      let task ← expect (store.children.find taskId)
        (executionNotFound "Goal execution terminal projection is incomplete")
      pure (some
        { goal := store.goal
          execution := execution
          task := task
          stepExecution := stepExecution
          planSteps := store.listPlanRevisionSteps execution.planRevision
          stepExecutions := store.listStepExecutions execution.planRevision })

def terminalSummary (task : ChildRow) : String :=
  match task.terminalSummary with
  | some summary => summary
  | none => task.errorCode.getD (taskStatusText task.status)

/-- The mutable plan step follows its execution while its definition is pinned. -/
def projectMutableStep (stepId : String) (execution : ExecutionRow)
    (selected : PlanStepRow → Bool) (write : PlanStepRow → PlanStepRow)
    (failure : GoalFailure) : GoalTransaction Unit := do
  let store ← inspect id
  match store.getStep stepId with
  | none => pure ()
  | some plan =>
    whenever (canProjectMutablePlanStep store execution stepId = true ∧
        selected plan = true) (do
      let _ ← updateStep plan.revision (write plan) failure
      pure ())

def readyNext (execution : ExecutionRow) : Option String → GoalTransaction Unit
  | none => pure ()
  | some stepId => do
      let store ← inspect id
      let next ← expect (store.getStepExecution stepId execution.planRevision)
        (stateInvalid "next Plan Step is not PENDING")
      demand (next.status = .pending) (stateInvalid "next Plan Step is not PENDING")
      let _ ← updateStepExecution next.revision
        { next with status := .ready, currentTaskId := none }
        (revisionConflict "next Plan Step changed during readiness projection")
      pure ()

def applySucceededStep (snapshot : TerminalSnapshot) (nextStepId : Option String)
    (summary : String) : GoalTransaction Unit := do
  let store ← inspect id
  let current ← expect
    (store.getStepExecution snapshot.stepExecution.stepId snapshot.execution.planRevision)
    (revisionConflict "Goal execution changed before success projection")
  let execution ← expect store.execution
    (revisionConflict "Goal execution changed before success projection")
  demand (current.currentTaskId = some snapshot.task.taskId)
    (revisionConflict "Goal execution changed before success projection")
  let _ ← updateStepExecution current.revision
    { current with
      status := .succeeded
      lastTerminalOutcome := some .succeeded
      lastSummary := some summary }
    (revisionConflict "Plan Step success projection changed")
  demand (canProjectMutablePlanStep store execution current.stepId = true →
      store.getStep current.stepId ≠ none)
    (planInvalid "current mutable Plan Step is missing during success projection")
  projectMutableStep current.stepId execution (fun _ => true)
    (fun plan => { plan with status := .completed, note := some summary })
    (revisionConflict "Plan Step changed during success projection")
  readyNext snapshot.execution nextStepId
  updateExecution execution.revision
    { execution with status := .running, currentStepId := nextStepId }
    (revisionConflict "Goal execution changed during success projection")

/-- The step executions after a success: the step itself and, when it waits for
its turn, the one with the next ordinal. -/
def stepsAfterSuccess (snapshot : TerminalSnapshot) (summary : String) :
    List StepExecutionRow :=
  snapshot.stepExecutions.map (fun step =>
    if step.stepId = snapshot.stepExecution.stepId then
      { step with
        status := .succeeded
        lastTerminalOutcome := some .succeeded
        lastSummary := some summary }
    else if step.status = .pending ∧ step.ordinal = snapshot.stepExecution.ordinal + 1 then
      { step with status := .ready }
    else step)

def reconcileSuccess (snapshot : TerminalSnapshot) : GoalTransaction Unit := do
  let flow ← controlled (base snapshot.execution)
  let summary := terminalSummary snapshot.task
  let nextSteps := stepsAfterSuccess snapshot summary
  let next := (nextSteps.find? (fun step => step.status = .ready)).map StepExecutionRow.stepId
  let projectedExecution :=
    { snapshot.execution with status := .running, currentStepId := next }
  let _ ← mutate (base snapshot.execution)
    { expectedRevision := flow.revision
      targetStatus := .running
      currentStep := some next
      state := some (projectedState snapshot.goal projectedExecution snapshot.planSteps
        nextSteps) }
  applySucceededStep snapshot next summary

/-- A goal that is active becomes blocked with its execution. -/
def blockGoal (blocker : BlockerRow) (summary : String) (failure : GoalFailure) :
    GoalTransaction Unit := do
  let store ← inspect id
  whenever (store.goal.status = .active) (do
    let _ ← updateGoal store.goal.revision
      { store.goal with
        status := .blocked
        lastNote := some summary
        blockerFingerprint := some blocker.fingerprint
        consecutiveBlockerCount := blocker.occurrenceCount }
      failure
    pure ())

/-- How a child that did not succeed stops its step: a blocked output, or a
failure that may have used up the attempts. -/
structure Stop where
  label : String
  status : StepStatus
  outcome : Option TaskOutcome
  blockerType : StepExecutionRow → BlockerType
  evidence : StepExecutionRow → BlockerEvidence
  mirrors : PlanStepStatus → Bool

def blockedStop (task : ChildRow) : Stop where
  label := "blocker"
  status := .blocked
  outcome := some .blocked
  blockerType := fun _ => .taskOutput
  evidence := fun _ =>
    { taskId := task.taskId
      taskStatus := task.status
      terminalOutcome := task.terminalOutcome
      errorCode := none
      attemptCount := none
      maxAttempts := none }
  mirrors := fun status => status = .inProgress

def failedStop (task : ChildRow) : Stop where
  label := "failure"
  status := .failed
  outcome := task.terminalOutcome
  blockerType := fun step =>
    if step.maxAttempts ≤ step.attemptCount then .retryLimit else .taskFailure
  evidence := fun step =>
    { taskId := task.taskId
      taskStatus := task.status
      terminalOutcome := none
      errorCode := task.errorCode
      attemptCount := some step.attemptCount
      maxAttempts := some step.maxAttempts }
  mirrors := fun status => status = .inProgress || status = .blocked

def applyStoppedStep (host : Host) (blockerId : String) (snapshot : TerminalSnapshot)
    (stop : Stop) (summary : String) : GoalTransaction Unit := do
  let store ← inspect id
  let current ← expect
    (store.getStepExecution snapshot.stepExecution.stepId snapshot.execution.planRevision)
    (executionNotFound ("Goal execution changed before " ++ stop.label ++ " projection"))
  let execution ← expect store.execution
    (executionNotFound ("Goal execution changed before " ++ stop.label ++ " projection"))
  let _ ← expect (store.getStep snapshot.stepExecution.stepId)
    (executionNotFound ("Goal execution changed before " ++ stop.label ++ " projection"))
  let _ ← updateStepExecution current.revision
    { current with
      status := stop.status
      lastTerminalOutcome := stop.outcome
      lastSummary := some summary }
    (revisionConflict ("Plan Step " ++ stop.label ++ " projection changed"))
  projectMutableStep current.stepId execution (fun plan => stop.mirrors plan.status)
    (fun plan => { plan with status := .blocked, note := some summary })
    (revisionConflict ("Plan Step changed during " ++ stop.label ++ " projection"))
  updateExecution execution.revision
    { execution with status := .blocked, currentStepId := some current.stepId }
    (revisionConflict ("Goal execution changed during " ++ stop.label ++ " projection"))
  let blocker ← recordBlocker host blockerId execution current snapshot.task.taskId
    (stop.blockerType current) summary (stop.evidence current)
  blockGoal blocker summary
    (revisionConflict ("Goal changed during " ++ stop.label ++ " projection"))

/-- The blocked and the failed branch of `reconcileTask`. -/
def reconcileStop (host : Host) (blockerId : String) (snapshot : TerminalSnapshot)
    (stop : Stop) : GoalTransaction Unit := do
  let flow ← controlled (base snapshot.execution)
  let summary := terminalSummary snapshot.task
  let stoppedSteps := rewriteStep snapshot.stepExecution.stepId
    (fun step =>
      { step with
        status := stop.status
        lastTerminalOutcome := stop.outcome
        lastSummary := some summary })
    snapshot.stepExecutions
  let projectedExecution :=
    { snapshot.execution with
      status := .blocked
      currentStepId := some snapshot.stepExecution.stepId }
  let _ ← mutate (base snapshot.execution)
    { expectedRevision := flow.revision
      targetStatus := .blocked
      currentStep := some (some snapshot.stepExecution.stepId)
      blockedTaskId := some snapshot.task.taskId
      blockedSummary := some summary
      state := some (projectedState snapshot.goal projectedExecution snapshot.planSteps
        stoppedSteps) }
  applyStoppedStep host blockerId snapshot stop summary

def cancelStep (step : StepExecutionRow) : GoalTransaction Unit := do
  let _ ← updateStepExecution step.revision { step with status := .cancelled }
    (revisionConflict "Plan Step execution changed during cancellation projection")
  let store ← inspect id
  match store.getStep step.stepId with
  | none => pure ()
  | some plan =>
    whenever (plan.status ≠ .completed ∧ plan.status ≠ .cancelled) (do
      let _ ← updateStep plan.revision { plan with status := .cancelled }
        (revisionConflict "Plan Step changed during cancellation projection")
      pure ())

def cancellable (status : StepStatus) : Bool :=
  !(finished status || status = .failed || status = .cancelled)

def projectCancelled : GoalTransaction Unit := do
  let store ← inspect id
  let execution ← expect store.execution
    (executionNotFound "Goal execution not found during cancellation projection")
  whenever (executionTerminal execution.status = false)
    (updateExecution execution.revision { execution with status := .cancelled }
      (revisionConflict "Goal execution changed during cancellation projection"))
  forEach
    ((store.listStepExecutions execution.planRevision).filter (fun step => cancellable step.status))
    () (fun _ step => cancelStep step)
  whenever (store.goal.status ≠ .completed ∧ store.goal.status ≠ .cancelled) (do
    let _ ← updateGoal store.goal.revision { store.goal with status := .cancelled }
      (revisionConflict "Goal changed during cancellation projection")
    pure ())

/-- The rows of a call that names the execution revision it expects. -/
def currentRows (caller : Owner) (expectedExecutionRevision : Nat) :
    GoalTransaction ExecutorRows := do
  let rows ← ownedRows caller
  requireRevision rows.execution expectedExecutionRevision
  pure rows

def cancel (host : Host) (caller : Owner) (expectedExecutionRevision expectedFlowRevision : Nat) :
    GoalProcedure Unit := do
  let rows ← commit (currentRows caller expectedExecutionRevision)
  TaskFlows.cancel (base rows.execution) expectedFlowRevision host.stopped
  commit projectCancelled

/-- The child of a step is over: what the step and the plan become. -/
def projectTerminal (host : Host) (blockerId : String) (snapshot : TerminalSnapshot) :
    GoalProcedure Unit :=
  if snapshot.task.status = .succeeded ∧ snapshot.task.terminalOutcome = some .succeeded then
    commit (reconcileSuccess snapshot)
  else if snapshot.task.status = .succeeded ∧ snapshot.task.terminalOutcome = some .blocked then
    commit (reconcileStop host blockerId snapshot (blockedStop snapshot.task))
  else if snapshot.task.status = .cancelled then do
    let flow ← commit (controlled (base snapshot.execution))
    cancel host snapshot.execution.owner snapshot.execution.revision flow.revision
  else commit (reconcileStop host blockerId snapshot (failedStop snapshot.task))

def reconcileTask (host : Host) (blockerId taskId : String) : GoalProcedure Unit := do
  let found ← commit (terminalSnapshot taskId)
  match found with
  | none => pure ()
  | some snapshot =>
    if taskTerminal snapshot.task.status = false ∨ snapshot.stepExecution.status ≠ .running
    then pure ()
    else projectTerminal host blockerId snapshot

/-- `GoalExecutionAdvanceAction`. -/
inductive AdvanceAction where
  | admitted
  | observing
  | waiting
  | blocked
  | completed
  | terminal
  deriving DecidableEq

/-- The second half of `advance`, on the rows after reconciliation. -/
def advanceRows (rows : ExecutorRows) (sent : Option String) :
    GoalProcedure AdvanceAction :=
  if rows.execution.status = .waiting then pure .waiting
  else if rows.execution.status = .blocked ∨ rows.execution.status = .failed then pure .blocked
  else if (anyReady rows).isSome then
    if rows.execution.status = .queued then do
      commit (admitReady rows none sent)
      pure .admitted
    else pure .observing
  else if ∀ step ∈ rows.stepExecutions, finished step.status = true then pure .completed
  else pure .observing

/-- The part of `advance` for a current step that has a child. -/
def advanceTask (host : Host) (blockerId taskId : String) (sent : Option String) :
    GoalProcedure AdvanceAction := do
  let task ← commit (do
    let store ← inspect id
    expect (store.children.find taskId) (.service .taskNotFound "background task not found"))
  if taskTerminal task.status = false then pure .observing
  else do
    reconcileTask host blockerId taskId
    let rows ← commit executorRows
    advanceRows rows sent

def advance (host : Host) (caller : Owner) (blockerId : String) (sent : Option String) :
    GoalProcedure AdvanceAction := do
  let rows ← commit (ownedRows caller)
  if executionTerminal rows.execution.status = true then pure .terminal
  else
    match (currentStep rows).bind StepExecutionRow.currentTaskId with
    | none => advanceRows rows sent
    | some taskId => advanceTask host blockerId taskId sent

def initialStep (status : StepStatus) (step : PlanRevisionStepRow) : StepExecutionRow where
  stepId := step.stepId
  planRevision := step.planRevision
  ordinal := step.ordinal
  status := status
  currentTaskId := none
  attemptCount := 0
  lastTerminalOutcome := none
  lastSummary := none
  retryMode := step.retryMode
  maxAttempts := step.maxAttempts
  lastRetryReason := none
  revision := 1

/-- The first step is ready, the others wait for their turn. -/
def initialSteps : List PlanRevisionStepRow → List StepExecutionRow
  | [] => []
  | first :: rest => initialStep .ready first :: rest.map (initialStep .pending)

def insertSteps (steps : List StepExecutionRow) : GoalTransaction Unit :=
  forEach steps () (fun _ step => insertStepExecution step)

/-- `start` of a goal that has no execution yet. -/
def createExecution (caller : Owner) (expectedGoalRevision : Nat) : GoalTransaction Unit := do
  let store ← inspect id
  assertOwned store.goal caller
  demand (store.goal.revision = expectedGoalRevision)
    (revisionConflict "goal changed; read it again")
  demand (store.goal.status = .active)
    (stateInvalid ("goal must be ACTIVE, found " ++ goalText store.goal.status))
  let planSteps := store.listPlanRevisionSteps store.goal.planRevision
  let first ← expect planSteps.head? (planInvalid "goal plan revision snapshot is incomplete")
  demand (store.listSteps.length = planSteps.length)
    (planInvalid "goal plan revision snapshot is incomplete")
  demand (∀ step ∈ store.listSteps, step.status = .pending)
    (planInvalid "new execution requires untouched PENDING plan steps")
  let execution : ExecutionRow :=
    { owner := caller
      planRevision := store.goal.planRevision
      controllerId := controllerIdFor store.goal.goalId
      status := .queued
      currentStepId := some first.stepId
      revision := 1 }
  createManaged (base execution)
    (executionRequestKey store.goal.goalId store.goal.planRevision) store.goal.objective
    first.stepId
    (projectedState store.goal execution planSteps (initialSteps planSteps))
  insertExecution execution
  insertSteps (initialSteps planSteps)

/-- Whether the goal already has an execution, of this owner and controller. -/
def startReplay (caller : Owner) : GoalTransaction Bool := do
  let store ← inspect id
  assertOwned store.goal caller
  match store.execution with
  | none => pure false
  | some execution => do
      demand (execution.owner = caller ∧
          execution.controllerId = controllerIdFor store.goal.goalId)
        (requestConflict
          "existing Goal execution conflicts with the current Goal owner or controller binding")
      pure true

def start (host : Host) (caller : Owner) (expectedGoalRevision : Nat) (blockerId : String)
    (sent : Option String) : GoalProcedure AdvanceAction := do
  let replayed ← commit (startReplay caller)
  if replayed then advance host caller blockerId sent
  else do
    commit (createExecution caller expectedGoalRevision)
    advance host caller blockerId sent

def wait (caller : Owner) (expectedExecutionRevision expectedFlowRevision : Nat)
    (reason : String) : GoalTransaction Unit := do
  let rows ← currentRows caller expectedExecutionRevision
  let target ← expect (anyReady rows) (stateInvalid "Goal execution has no READY step to wait")
  let projectedSteps := rewriteStep target.stepId
    (fun step => { step with status := .waiting }) rows.stepExecutions
  let projectedExecution :=
    { rows.execution with status := .waiting, currentStepId := some target.stepId }
  let _ ← mutate (base rows.execution)
    { expectedRevision := expectedFlowRevision
      targetStatus := .waiting
      currentStep := some (some target.stepId)
      wait := some reason
      state := some (projectedState rows.goal projectedExecution rows.planSteps projectedSteps) }
  let store ← inspect id
  let execution ← expect store.execution (revisionConflict "Goal execution changed while waiting")
  let step ← expect (store.getStepExecution target.stepId rows.execution.planRevision)
    (revisionConflict "Goal execution changed while waiting")
  demand (execution.revision = expectedExecutionRevision ∧ step.status = .ready)
    (revisionConflict "Goal execution changed while waiting")
  let _ ← updateStepExecution step.revision
    { step with status := .waiting, currentTaskId := none }
    (revisionConflict "Plan Step changed while waiting")
  updateExecution execution.revision
    { execution with status := .waiting, currentStepId := some step.stepId }
    (revisionConflict "Goal execution changed while waiting")

def reactivateGoal (selected : GoalStatus → Bool) (note : Option String)
    (failure : GoalFailure) : GoalTransaction Unit := do
  let store ← inspect id
  whenever (selected store.goal.status = true) (do
    let _ ← updateGoal store.goal.revision
      { store.goal with
        status := .active
        lastNote := note.orElse (fun _ => store.goal.lastNote)
        blockerFingerprint := none
        consecutiveBlockerCount := 0 }
      failure
    pure ())

def reopenStep (execution : ExecutionRow) (step : StepExecutionRow) (reason : Option String)
    (during : String) : GoalTransaction Unit := do
  let _ ← updateStepExecution step.revision
    { step with
      status := .ready
      currentTaskId := none
      lastRetryReason := reason.orElse (fun _ => step.lastRetryReason) }
    (revisionConflict ("Goal Step changed during " ++ during))
  projectMutableStep step.stepId execution (fun plan => plan.status = .blocked)
    (fun plan =>
      { plan with status := .inProgress, note := reason.orElse (fun _ => plan.note) })
    (revisionConflict ("mutable Plan Step changed during " ++ during))
  updateExecution execution.revision
    { execution with status := .queued, currentStepId := some step.stepId }
    (revisionConflict ("Goal execution changed during " ++ during))
  reactivateGoal (fun status => status = .blocked) reason
    (revisionConflict ("Goal changed during " ++ during))

def resumeRefusal (rows : ExecutorRows) : GoalFailure :=
  if rows.stepExecutions.any (fun step => step.status = .blocked || step.status = .failed) then
    .service .executionBlockerRequired
      "BLOCKED or FAILED Steps require explicit blocker resolution or retry"
  else stateInvalid "Goal execution has no WAITING Step"

/-- The transaction of `resume`. -/
def resumeWaiting (caller : Owner) (expectedExecutionRevision expectedFlowRevision : Nat) :
    GoalTransaction Unit := do
  let rows ← currentRows caller expectedExecutionRevision
  let target ← expect (rows.stepExecutions.find? (fun step => step.status = .waiting))
    (resumeRefusal rows)
  let projectedSteps := rewriteStep target.stepId
    (fun step => { step with status := .ready, currentTaskId := none }) rows.stepExecutions
  let projectedExecution :=
    { rows.execution with status := .queued, currentStepId := some target.stepId }
  let _ ← mutate (base rows.execution)
    { expectedRevision := expectedFlowRevision
      targetStatus := .queued
      currentStep := some (some target.stepId)
      state := some (projectedState rows.goal projectedExecution rows.planSteps projectedSteps) }
  let store ← inspect id
  let execution ← expect store.execution (revisionConflict "Goal execution changed during resume")
  let step ← expect (store.getStepExecution target.stepId rows.execution.planRevision)
    (revisionConflict "Goal execution changed during resume")
  let _ ← expect (store.getStep target.stepId)
    (revisionConflict "Goal execution changed during resume")
  demand (execution.revision = expectedExecutionRevision)
    (revisionConflict "Goal execution changed during resume")
  reopenStep execution step none "resume"

def resume (host : Host) (caller : Owner) (expectedExecutionRevision expectedFlowRevision : Nat)
    (blockerId : String) (sent : Option String) : GoalProcedure AdvanceAction := do
  commit (resumeWaiting caller expectedExecutionRevision expectedFlowRevision)
  advance host caller blockerId sent

structure Resolution where
  blockerId : String
  expectedBlockerRevision : Nat
  expectedExecutionRevision : Nat
  expectedFlowRevision : Nat
  resolvedBy : String
  resolution : String
  deriving DecidableEq

/-- A retry wants a failed step; a resolution takes a blocked one as well. -/
def resumable (requireFailed : Bool) (status : StepStatus) : Bool :=
  if requireFailed then status = .failed else status = .blocked || status = .failed

/-- The state of the flow after a resolution. -/
def resolvedState (rows : ExecutorRows) (target : StepExecutionRow) : ProjectedState :=
  projectedState rows.goal
    { rows.execution with status := .queued, currentStepId := some target.stepId }
    rows.planSteps
    (rewriteStep target.stepId
      (fun step => { step with status := .ready, currentTaskId := none }) rows.stepExecutions)

/-- `#resumeBlockedStep` up to its `advance`. -/
def resumeBlockedStep (caller : Owner) (input : Resolution) (requireFailed : Bool) :
    GoalTransaction Unit := do
  let rows ← currentRows caller input.expectedExecutionRevision
  demand (rows.execution.status = .blocked) (stateInvalid "Goal execution is not BLOCKED")
  assertNoActiveTask rows
  let wanted ← bounded input.blockerId 256 (planInvalid "invalid blockerId")
  let before ← inspect id
  let blocker ← expect (before.getBlocker wanted)
    (.service .executionBlockerRequired "open Goal Step blocker not found")
  demand (blocker.planRevision = rows.execution.planRevision ∧ blocker.status = .opened)
    (.service .executionBlockerRequired "open Goal Step blocker not found")
  let target ← expect
    (rows.stepExecutions.find? (fun step => step.stepId = blocker.stepId))
    (stateInvalid "blocker does not match a resumable Goal Step")
  demand (resumable requireFailed target.status = true)
    (stateInvalid "blocker does not match a resumable Goal Step")
  demand (target.attemptCount < target.maxAttempts)
    (.service .executionRetryLimit
      ("Step retry limit reached: " ++ toString target.attemptCount ++ "/" ++
        toString target.maxAttempts))
  let resolution ← bounded input.resolution 2000 (planInvalid "invalid blocker resolution")
  let resolvedBy ← bounded input.resolvedBy 256 (planInvalid "invalid resolvedBy")
  let _ ← mutate (base rows.execution)
    { expectedRevision := input.expectedFlowRevision
      targetStatus := .queued
      currentStep := some (some target.stepId)
      state := some (resolvedState rows target) }
  let store ← inspect id
  let execution ← expect store.execution
    (revisionConflict "Goal execution or blocker changed during resolution")
  let step ← expect (store.getStepExecution target.stepId rows.execution.planRevision)
    (revisionConflict "Goal execution or blocker changed during resolution")
  let durableBlocker ← expect (store.getBlocker blocker.blockerId)
    (revisionConflict "Goal execution or blocker changed during resolution")
  demand (execution.revision = input.expectedExecutionRevision ∧
      durableBlocker.revision = input.expectedBlockerRevision)
    (revisionConflict "Goal execution or blocker changed during resolution")
  let _ ← closeBlocker durableBlocker resolvedBy resolution
    (revisionConflict "Goal blocker changed during resolution")
  reopenStep execution step (some resolution) "blocker resolution"

def resolveBlocker (host : Host) (caller : Owner) (input : Resolution) (blockerId : String)
    (sent : Option String) : GoalProcedure AdvanceAction := do
  commit (resumeBlockedStep caller input false)
  advance host caller blockerId sent

def retry (host : Host) (caller : Owner) (input : Resolution) (blockerId : String)
    (sent : Option String) : GoalProcedure AdvanceAction := do
  commit (resumeBlockedStep caller input true)
  advance host caller blockerId sent

structure RevisionInput where
  expectedGoalRevision : Nat
  expectedExecutionRevision : Nat
  expectedPlanRevision : Nat
  steps : List DraftStep

/-- The mutable step of a draft that the goal already knows. A changed
definition starts over. -/
def redefineStep (previousPlan : List PlanRevisionStepRow) (draft : DraftStep) :
    GoalTransaction Unit := do
  let updated ← updatePlanDefinition draft.stepId draft.ordinal draft.title
    (revisionConflict "Plan definition changed during revision creation")
  let previous := previousPlan.find? (fun step => step.stepId = draft.stepId)
  whenever (previous.map definitionOfRow ≠ some (definitionOfDraft draft)) (do
    let _ ← updateStep updated.revision { updated with status := .pending, note := none }
      (revisionConflict "changed Plan Step history was not reset during revision creation")
    pure ())

/-- The mutable step of a draft: rewritten when the goal knows it, else new. -/
def placeStep (previousPlan : List PlanRevisionStepRow) (draft : DraftStep)
    (existing : Option PlanStepRow) : GoalTransaction Unit :=
  match existing with
  | some _ => redefineStep previousPlan draft
  | none =>
    insertStep
      { stepId := draft.stepId
        ordinal := draft.ordinal
        title := draft.title
        status := .pending
        note := none
        revision := 1 }

def reviseStep (previousPlan : List PlanRevisionStepRow) (nextRevision : Nat)
    (draft : DraftStep) : GoalTransaction Unit := do
  let store ← inspect id
  demand (draft.stepId ∉ store.foreignSteps)
    (planInvalid ("stepId belongs to a different Goal: " ++ draft.stepId))
  placeStep previousPlan draft (store.getStep draft.stepId)
  insertPlanRevisionStep
    { planRevision := nextRevision
      stepId := draft.stepId
      ordinal := draft.ordinal
      title := draft.title
      required := draft.required
      retryMode := draft.retryMode
      maxAttempts := draft.maxAttempts }

def createRevision (input : RevisionInput) (steps : List DraftStep)
    (execution : ExecutionRow) : GoalTransaction Unit := do
  let store ← inspect id
  demand (store.goal.revision = input.expectedGoalRevision ∧
      store.goal.planRevision = input.expectedPlanRevision)
    (revisionConflict "Goal or Plan revision changed; read it again")
  demand (store.goal.status ≠ .completed ∧ store.goal.status ≠ .cancelled ∧
      executionTerminal execution.status = false)
    (stateInvalid "terminal Goal execution cannot be revised")
  resequencePlanDefinitions
  forEach steps ()
    (fun _ draft => reviseStep (store.listPlanRevisionSteps store.goal.planRevision)
      (store.goal.planRevision + 1) draft)
  let _ ← updateGoal store.goal.revision
    { store.goal with planRevision := store.goal.planRevision + 1 }
    (revisionConflict "Goal changed during Plan revision creation")
  pure ()

def revisePlan (caller : Owner) (input : RevisionInput) : GoalTransaction Unit := do
  let steps ← normalizedDraft input.steps
  let store ← inspect id
  assertOwned store.goal caller
  let execution ← expect store.execution (executionNotFound "Goal execution not found")
  requireRevision execution input.expectedExecutionRevision
  if store.goal.planRevision = input.expectedPlanRevision + 1 then
    demand (sameRevisionDraft (store.listPlanRevisionSteps store.goal.planRevision) steps = true)
      (requestConflict "Plan revision replay conflicts with the durable revision")
  else createRevision input steps execution

/-- A required step that is not done cannot be dropped. -/
def removedIncomplete (rows : ExecutorRows) (targetPlan : List PlanRevisionStepRow) :
    List StepExecutionRow :=
  rows.stepExecutions.filter (fun step =>
    rows.planSteps.any (fun plan => plan.stepId = step.stepId && plan.required) &&
      !targetPlan.any (fun plan => plan.stepId = step.stepId) && !finished step.status)

/-- The step execution of a definition of the adopted revision: what a stable
definition had finished is kept, everything else runs again. -/
def projectedStep (rows : ExecutorRows) (definition : PlanRevisionStepRow) :
    StepExecutionRow :=
  let previous := rows.stepExecutions.find? (fun step => step.stepId = definition.stepId)
  let oldDefinition := rows.planSteps.find? (fun step => step.stepId = definition.stepId)
  match previous with
  | none => initialStep .pending definition
  | some old =>
    if oldDefinition.map definitionOfRow = some (definitionOfRow definition) then
      if finished old.status then
        { initialStep old.status definition with
          attemptCount := old.attemptCount
          lastTerminalOutcome := old.lastTerminalOutcome
          lastSummary := old.lastSummary }
      else { initialStep .pending definition with attemptCount := old.attemptCount }
    else initialStep .pending definition

def readyFirst : List StepExecutionRow → List StepExecutionRow
  | [] => []
  | step :: rest =>
    if step.status = .pending then { step with status := .ready } :: rest
    else step :: readyFirst rest

def mirrorStep (projected : List StepExecutionRow) (definition : PlanRevisionStepRow) :
    GoalTransaction Unit := do
  let store ← inspect id
  let mutableStep ← expect (store.getStep definition.stepId)
    (planInvalid "mutable Plan definition is missing during adoption")
  let step ← expect (projected.find? (fun step => step.stepId = definition.stepId))
    (.unexpected "adopted step has no projection")
  let _ ← updateStep mutableStep.revision
    { mutableStep with
      status := if finished step.status then .completed else .pending
      note := step.lastSummary }
    (revisionConflict "mutable Plan Step changed during adoption")
  pure ()

structure AdoptionInput where
  targetPlanRevision : Nat
  expectedExecutionRevision : Nat
  expectedFlowRevision : Nat
  deriving DecidableEq

def recordAdoption (input : AdoptionInput) (targetPlan : List PlanRevisionStepRow)
    (projected : List StepExecutionRow) (next : Option String) : GoalTransaction Unit := do
  let store ← inspect id
  let execution ← expect store.execution
    (revisionConflict "Goal execution changed during Plan revision adoption")
  demand (execution.revision = input.expectedExecutionRevision)
    (revisionConflict "Goal execution changed during Plan revision adoption")
  demand (store.listStepExecutions input.targetPlanRevision = [])
    (requestConflict "target Plan revision execution projection already exists")
  insertSteps projected
  updateExecution execution.revision
    { execution with
      planRevision := input.targetPlanRevision
      status := if next.isSome then .queued else .running
      currentStepId := next }
    (revisionConflict "Goal execution changed during Plan revision adoption")
  reactivateGoal (fun status => status = .blocked || status = .paused) none
    (revisionConflict "Goal changed during Plan revision adoption")
  forEach targetPlan () (fun _ definition => mirrorStep projected definition)

/-- The transaction of `adoptPlanRevision`. It returns the step that is next. -/
def adoptRevision (rows : ExecutorRows) (input : AdoptionInput) :
    GoalTransaction (Option String) := do
  requireRevision rows.execution input.expectedExecutionRevision
  demand (input.targetPlanRevision = rows.goal.planRevision ∧
      rows.execution.planRevision < input.targetPlanRevision)
    (planInvalid "target Plan revision must be the current newer Goal Plan revision")
  demand (rows.execution.status = .blocked ∨ rows.execution.status = .waiting)
    (stateInvalid "Plan revision adoption requires a BLOCKED or WAITING execution")
  assertNoActiveTask rows
  let store ← inspect id
  demand (store.anyOpenBlocker rows.execution.planRevision = none)
    (.service .executionBlockerRequired
      "resolve the current blocker before adopting a new Plan revision")
  let targetPlan := store.listPlanRevisionSteps input.targetPlanRevision
  demand (targetPlan ≠ []) (planInvalid "target Plan revision snapshot is empty")
  demand (removedIncomplete rows targetPlan = [])
    (planInvalid ("new Plan removes incomplete required Steps: " ++
      String.intercalate ", " ((removedIncomplete rows targetPlan).map StepExecutionRow.stepId)))
  let projected := readyFirst (targetPlan.map (projectedStep rows))
  let next := (projected.find? (fun step => step.status = .ready)).map StepExecutionRow.stepId
  let projectedExecution :=
    { rows.execution with
      planRevision := input.targetPlanRevision
      status := if next.isSome then .queued else .running
      currentStepId := next }
  let _ ← mutate (base rows.execution)
    { expectedRevision := input.expectedFlowRevision
      targetStatus := if next.isSome then .queued else .running
      currentStep := some next
      state := some (projectedState rows.goal projectedExecution targetPlan projected) }
  recordAdoption input targetPlan projected next
  pure next

def adoptPlanRevision (host : Host) (caller : Owner) (input : AdoptionInput)
    (blockerId : String) (sent : Option String) : GoalProcedure AdvanceAction := do
  let rows ← commit (ownedRows caller)
  if rows.execution.planRevision = input.targetPlanRevision then
    advance host caller blockerId sent
  else do
    let next ← commit (adoptRevision rows input)
    if next.isSome then advance host caller blockerId sent else pure .observing

def finish (caller : Owner) (expectedExecutionRevision expectedFlowRevision : Nat) :
    GoalTransaction Unit := do
  let rows ← currentRows caller expectedExecutionRevision
  demand (∀ step ∈ rows.stepExecutions, finished step.status = true)
    (stateInvalid "all required Plan steps must succeed before completion")
  let projectedExecution :=
    { rows.execution with status := .succeeded, currentStepId := none }
  let _ ← mutate (base rows.execution)
    { expectedRevision := expectedFlowRevision
      targetStatus := .succeeded
      state := some (projectedState rows.goal projectedExecution rows.planSteps
        rows.stepExecutions) }
  updateExecution expectedExecutionRevision projectedExecution
    (revisionConflict "Goal execution changed during completion")
  let store ← inspect id
  demand (store.goal.status = .active)
    (stateInvalid ("Goal cannot complete from " ++ goalText store.goal.status))
  let _ ← updateGoal store.goal.revision
    { store.goal with
      status := .completed
      blockerFingerprint := none
      consecutiveBlockerCount := 0 }
    (revisionConflict "Goal changed during completion")
  pure ()

def failExecution (caller : Owner) (expectedExecutionRevision expectedFlowRevision : Nat)
    (summary : String) : GoalTransaction Unit := do
  let rows ← ownedRows caller
  let reason ← bounded summary 2000 (planInvalid "invalid failure summary")
  let _ ← mutate (base rows.execution)
    { expectedRevision := expectedFlowRevision
      targetStatus := .failed
      blockedSummary := some reason }
  let store ← inspect id
  let execution ← expect store.execution (revisionConflict "Goal execution changed during failure")
  demand (execution.revision = expectedExecutionRevision)
    (revisionConflict "Goal execution changed during failure")
  updateExecution execution.revision { execution with status := .failed }
    (revisionConflict "Goal execution changed during failure")
  whenever (store.goal.status = .active) (do
    let _ ← updateGoal store.goal.revision
      { store.goal with status := .blocked, lastNote := some reason }
      (revisionConflict "Goal changed during failure")
    pure ())

def runNextFromController (input : ChildRequest) (sent : Option String) :
    GoalTransaction Unit := do
  let rows ← executorRows
  if (anyReady rows).isSome then admitReady rows (some input) sent
  else do
    let running ← expect
      (rows.stepExecutions.find? (fun step =>
        step.status = .running && step.currentTaskId.isSome))
      (stateInvalid "goal execution has no READY or replayable RUNNING step")
    let plan ← expect (rows.planSteps.find? (fun step => step.stepId = running.stepId))
      (stateInvalid "goal execution has no READY or replayable RUNNING step")
    demand (input.requestKey = requestKey rows.goal.goalId rows.execution.planRevision
          running.stepId running.attemptCount ∧
        input.stepKey = running.stepId ∧
        input.text = taskText rows.goal plan rows.planSteps.length)
      (requestConflict "controller child replay does not match the active durable Plan step")
    let _ ← runTask (base rows.execution) input sent
    pure ()

structure Snapshot where
  executionRevision : Option Nat
  stepRevision : Option Nat
  flowRevision : Option Nat
  deriving DecidableEq

def agrees (expected : Option Nat) (actual : Option Nat) : Bool :=
  expected = none || expected = actual

/-- `validateControllerDecision`, with `#assertControllerSnapshot`. -/
def validateControllerDecision (expected : Snapshot) : GoalTransaction Unit := do
  let rows ← executorRows
  let flow ← controlled (base rows.execution)
  demand
    (agrees expected.executionRevision (some rows.execution.revision) = true ∧
      agrees expected.stepRevision ((currentStep rows).map StepExecutionRow.revision) = true ∧
      agrees expected.flowRevision (some flow.revision) = true)
    (.service .executionStaleDecision
      "controller decision was produced from an older Goal execution snapshot")

/-- `getByFlow`: the rows of the execution, with its own owner. -/
def rowsOfFlow : GoalTransaction ExecutorRows := do
  let rows ← executorRows
  assertOwned rows.goal rows.execution.owner
  pure rows

inductive Decision where
  | run (input : ChildRequest)
  | wait (expectedRevision : Nat) (reason : String)
  | block (expectedRevision : Nat) (currentStep : Option (Option String))
      (blockedTaskId blockedSummary : String)
  | resume (expectedRevision : Nat)
  | finish (expectedRevision : Nat)
  | fail (expectedRevision : Nat) (blockedSummary : Option String)
  | requestCancel (expectedRevision : Nat)
  | cancel (expectedRevision : Nat)

/-- `setBlocked` of the controller runtime: only the flow is written. -/
def blockFlow (expectedRevision : Nat) (currentStep : Option (Option String))
    (blockedTaskId blockedSummary : String) : GoalTransaction Unit := do
  let rows ← rowsOfFlow
  demand (rows.execution.status = .blocked) (stateInvalid "Goal execution is not BLOCKED")
  let _ ← mutate (base rows.execution)
    { expectedRevision := expectedRevision
      targetStatus := .blocked
      currentStep := currentStep
      blockedTaskId := some blockedTaskId
      blockedSummary := some blockedSummary }
  pure ()

def requestFlowCancel (expectedRevision : Nat) : GoalTransaction Unit := do
  let rows ← executorRows
  let _ ← requestCancel (base rows.execution) expectedRevision
  pure ()

/-- What a decision does once its snapshot is accepted. The execution revision is
read again, so it is the current one. -/
def takeDecision (host : Host) (blockerId : String) (sent : Option String) :
    Decision → GoalProcedure Unit
  | .run input => commit (runNextFromController input sent)
  | .wait expectedRevision reason => do
      let rows ← commit rowsOfFlow
      commit (wait rows.execution.owner rows.execution.revision expectedRevision reason)
  | .block expectedRevision currentStep blockedTaskId blockedSummary =>
    commit (blockFlow expectedRevision currentStep blockedTaskId blockedSummary)
  | .resume expectedRevision => do
      let rows ← commit rowsOfFlow
      let _ ← resume host rows.execution.owner rows.execution.revision expectedRevision
        blockerId sent
      pure ()
  | .finish expectedRevision => do
      let rows ← commit rowsOfFlow
      commit (finish rows.execution.owner rows.execution.revision expectedRevision)
  | .fail expectedRevision blockedSummary => do
      let rows ← commit rowsOfFlow
      commit (failExecution rows.execution.owner rows.execution.revision expectedRevision
        (blockedSummary.getD "Goal Plan executor failed"))
  | .requestCancel expectedRevision => commit (requestFlowCancel expectedRevision)
  | .cancel expectedRevision => do
      let rows ← commit rowsOfFlow
      cancel host rows.execution.owner rows.execution.revision expectedRevision

def decideThrough (host : Host) (expected : Snapshot) (decision : Decision)
    (blockerId : String) (sent : Option String) : GoalProcedure Unit := do
  commit (validateControllerDecision expected)
  takeDecision host blockerId sent decision

/-- The reconciliation in `recover` of a current step whose task is over. -/
def recoverTask (host : Host) (blockerId taskId : String) : GoalProcedure Unit := do
  let task ← commit (do
    let store ← inspect id
    expect (store.children.find taskId) (.service .taskNotFound "background task not found"))
  if taskTerminal task.status = true then reconcileTask host blockerId taskId
  else pure ()

/-- The part of `recover` for a flow that was not cancelled. -/
def recoverLive (host : Host) (rows : ExecutorRows) (blockerId : String)
    (sent : Option String) : GoalProcedure Unit := do
  match (currentStep rows).bind StepExecutionRow.currentTaskId with
  | none => do
      let _ ← advance host rows.execution.owner blockerId sent
      pure ()
  | some taskId => do
      recoverTask host blockerId taskId
      let _ ← advance host rows.execution.owner blockerId sent
      pure ()

/-- The turn of `recover` for an execution that is active. What it throws is
counted and dropped. -/
def recover (host : Host) (blockerId : String) (sent : Option String) :
    GoalProcedure Unit := do
  let rows ← commit rowsOfFlow
  if executionTerminal rows.execution.status = true then pure ()
  else do
    let flow ← commit (do
      let store ← inspect id
      expect store.flow flowNotFound)
    if flow.status = .cancelled then commit projectCancelled
    else recoverLive host rows blockerId sent

/-- The turn of `TaskFlowMaintenanceService.reconcile` for the flow: a requested
cancellation is run again, past the executor. `stuck` says that its grace is over. -/
def reconcileFlow (host : Host) (stuck : Bool) : GoalProcedure Unit := do
  let store ← commit (inspect id)
  let flow ← commit (expect store.flow flowNotFound)
  if flowTerminal flow.status = false ∧ flow.cancelRequested = true ∧
      ((∀ child ∈ store.children.rows, taskTerminal child.status = true) ∨ stuck = true) then
    TaskFlows.cancel
      { owner := flow.owner
        controllerId := flow.controllerId }
      flow.revision host.stopped
  else pure ()

end OpenRill.Goals.Executor
