import OpenRill.Lib.Table
import OpenRill.Lib.Text
import OpenRill.Lib.Transaction
import OpenRill.State.Failure

/-!
# The goal ledger

The rows behind one goal: the goal and its mutable plan, the immutable plan
revisions, the execution with its step executions and blockers, the managed
flow and the child tasks linked to it. Times, events and the rows of other
goals are left out; of those only the taken step ids matter, because a step id
is the primary key of the mutable plan across goals.
-/

namespace OpenRill.Goals.Ledger

open Lib Lib.Text Lib.Transaction State

inductive GoalStatus where
  | active
  | paused
  | blocked
  | completed
  | cancelled
  deriving DecidableEq

inductive PlanStepStatus where
  | pending
  | inProgress
  | blocked
  | completed
  | cancelled
  deriving DecidableEq

inductive ExecutionStatus where
  | queued
  | running
  | waiting
  | blocked
  | succeeded
  | failed
  | cancelled
  deriving DecidableEq

inductive StepStatus where
  | pending
  | ready
  | running
  | waiting
  | blocked
  | succeeded
  | failed
  | cancelled
  | skipped
  deriving DecidableEq

inductive RetryMode where
  | manual
  deriving DecidableEq

inductive BlockerType where
  | taskOutput
  | taskFailure
  | operator
  | dependency
  | retryLimit
  deriving DecidableEq

inductive BlockerStatus where
  | opened
  | resolved
  deriving DecidableEq

inductive FlowStatus where
  | queued
  | running
  | waiting
  | blocked
  | succeeded
  | failed
  | cancelled
  | lost
  deriving DecidableEq

inductive TaskStatus where
  | queued
  | running
  | succeeded
  | failed
  | timedOut
  | cancelled
  | lost
  deriving DecidableEq

inductive TaskOutcome where
  | succeeded
  | blocked
  deriving DecidableEq

def executionText : ExecutionStatus → String
  | .queued => "QUEUED"
  | .running => "RUNNING"
  | .waiting => "WAITING"
  | .blocked => "BLOCKED"
  | .succeeded => "SUCCEEDED"
  | .failed => "FAILED"
  | .cancelled => "CANCELLED"

def stepText : StepStatus → String
  | .pending => "PENDING"
  | .ready => "READY"
  | .running => "RUNNING"
  | .waiting => "WAITING"
  | .blocked => "BLOCKED"
  | .succeeded => "SUCCEEDED"
  | .failed => "FAILED"
  | .cancelled => "CANCELLED"
  | .skipped => "SKIPPED"

def flowText : FlowStatus → String
  | .queued => "QUEUED"
  | .running => "RUNNING"
  | .waiting => "WAITING"
  | .blocked => "BLOCKED"
  | .succeeded => "SUCCEEDED"
  | .failed => "FAILED"
  | .cancelled => "CANCELLED"
  | .lost => "LOST"

def goalText : GoalStatus → String
  | .active => "ACTIVE"
  | .paused => "PAUSED"
  | .blocked => "BLOCKED"
  | .completed => "COMPLETED"
  | .cancelled => "CANCELLED"

def taskStatusText : TaskStatus → String
  | .queued => "QUEUED"
  | .running => "RUNNING"
  | .succeeded => "SUCCEEDED"
  | .failed => "FAILED"
  | .timedOut => "TIMED_OUT"
  | .cancelled => "CANCELLED"
  | .lost => "LOST"

def outcomeText : TaskOutcome → String
  | .succeeded => "SUCCEEDED"
  | .blocked => "BLOCKED"

def executionTerminal : ExecutionStatus → Bool
  | .succeeded | .failed | .cancelled => true
  | .queued | .running | .waiting | .blocked => false

def taskTerminal : TaskStatus → Bool
  | .queued | .running => false
  | .succeeded | .failed | .timedOut | .cancelled | .lost => true

def flowTerminal : FlowStatus → Bool
  | .succeeded | .failed | .cancelled | .lost => true
  | .queued | .running | .waiting | .blocked => false

def finished (status : StepStatus) : Bool :=
  status = .succeeded || status = .skipped

/-- The statuses of which a revision may hold one step. -/
def occupied (status : StepStatus) : Bool :=
  status = .running || status = .waiting || status = .blocked

/-- The workspace and the conversation of a goal. -/
structure Owner where
  workspaceId : String
  conversationId : String
  deriving DecidableEq

structure GoalRow where
  goalId : String
  owner : Owner
  objective : String
  status : GoalStatus
  lastNote : Option String
  blockerFingerprint : Option String
  consecutiveBlockerCount : Nat
  planRevision : Nat
  revision : Nat
  deriving DecidableEq

structure PlanStepRow where
  stepId : String
  ordinal : Nat
  title : String
  status : PlanStepStatus
  note : Option String
  revision : Nat
  deriving DecidableEq

structure PlanRevisionStepRow where
  planRevision : Nat
  stepId : String
  ordinal : Nat
  title : String
  required : Bool
  retryMode : RetryMode
  maxAttempts : Nat
  deriving DecidableEq

/-- `PRIMARY KEY (goal_id, plan_revision, step_id)`. -/
def PlanRevisionStepRow.key (row : PlanRevisionStepRow) : Nat × String :=
  (row.planRevision, row.stepId)

/-- `UNIQUE (goal_id, plan_revision, ordinal)`. -/
def PlanRevisionStepRow.place (row : PlanRevisionStepRow) : Nat × Nat :=
  (row.planRevision, row.ordinal)

structure ExecutionRow where
  owner : Owner
  planRevision : Nat
  controllerId : String
  status : ExecutionStatus
  currentStepId : Option String
  revision : Nat
  deriving DecidableEq

structure StepExecutionRow where
  stepId : String
  planRevision : Nat
  ordinal : Nat
  status : StepStatus
  currentTaskId : Option String
  attemptCount : Nat
  lastTerminalOutcome : Option TaskOutcome
  lastSummary : Option String
  retryMode : RetryMode
  maxAttempts : Nat
  lastRetryReason : Option String
  revision : Nat
  deriving DecidableEq

/-- `PRIMARY KEY (goal_id, step_id, plan_revision)`. -/
def StepExecutionRow.key (row : StepExecutionRow) : Nat × String :=
  (row.planRevision, row.stepId)

/-- The failure details a blocker keeps; a blocked output has only the first three. -/
structure BlockerEvidence where
  taskId : String
  taskStatus : TaskStatus
  terminalOutcome : Option TaskOutcome
  errorCode : Option String
  attemptCount : Option Nat
  maxAttempts : Option Nat
  deriving DecidableEq

structure BlockerRow where
  blockerId : String
  stepId : String
  planRevision : Nat
  taskId : Option String
  blockerType : BlockerType
  fingerprint : String
  summary : String
  evidence : BlockerEvidence
  status : BlockerStatus
  occurrenceCount : Nat
  resolvedBy : Option String
  resolution : Option String
  revision : Nat
  deriving DecidableEq

/-- What the controller reads on the flow about the step that comes next. -/
structure NextStep where
  stepId : String
  ordinal : Nat
  title : String
  requestKey : String
  text : String
  attempt : Nat
  deriving DecidableEq

structure ProjectedStep where
  stepId : String
  ordinal : Nat
  status : StepStatus
  currentTaskId : Option String
  attemptCount : Nat
  terminalOutcome : Option TaskOutcome
  summary : Option String
  deriving DecidableEq

/-- The state of a goal execution as its flow carries it. -/
structure ProjectedState where
  goalId : String
  planRevision : Nat
  executionStatus : ExecutionStatus
  currentStepId : Option String
  nextStep : Option NextStep
  steps : List ProjectedStep
  deriving DecidableEq

structure FlowRow where
  owner : Owner
  controllerId : String
  goal : String
  status : FlowStatus
  currentStep : Option String
  blockedTaskId : Option String
  blockedSummary : Option String
  state : ProjectedState
  wait : Option String
  cancelRequested : Bool
  revision : Nat
  deriving DecidableEq

/-- A task linked to the flow, with the request and the text that admitted it. -/
structure ChildRow where
  taskId : String
  requestKey : String
  stepKey : String
  text : String
  status : TaskStatus
  terminalOutcome : Option TaskOutcome
  terminalSummary : Option String
  errorCode : Option String
  deriving DecidableEq

def NextStep.size (next : NextStep) : Nat :=
  jsonObject
    [("stepId", jsonText next.stepId), ("ordinal", jsonNumber next.ordinal),
      ("title", jsonText next.title), ("requestKey", jsonText next.requestKey),
      ("stepKey", jsonText next.stepId), ("text", jsonText next.text),
      ("attempt", jsonNumber next.attempt)]

def ProjectedStep.size (step : ProjectedStep) : Nat :=
  jsonObject
    [("stepId", jsonText step.stepId), ("ordinal", jsonNumber step.ordinal),
      ("status", jsonText (stepText step.status)),
      ("currentTaskId", jsonOptional jsonText step.currentTaskId),
      ("attemptCount", jsonNumber step.attemptCount),
      ("terminalOutcome",
        jsonOptional (fun outcome => jsonText (outcomeText outcome)) step.terminalOutcome),
      ("summary", jsonOptional jsonText step.summary)]

/-- Length of the JSON text of a projected state. -/
def ProjectedState.size (state : ProjectedState) : Nat :=
  jsonObject
    [("kind", jsonText "goal-plan-executor"), ("mode", jsonText "SINGLE_ACTIVE_STEP"),
      ("goalId", jsonText state.goalId), ("planRevision", jsonNumber state.planRevision),
      ("executionStatus", jsonText (executionText state.executionStatus)),
      ("currentStepId", jsonOptional jsonText state.currentStepId),
      ("nextStep", jsonOptional NextStep.size state.nextStep),
      ("steps", jsonArray (state.steps.map ProjectedStep.size))]

/-- The rows of `agent_goal_plan_revision_steps`. -/
structure PlanRevisions where
  steps : Table PlanRevisionStepRow.key
  placesNodup : (steps.rows.map PlanRevisionStepRow.place).Nodup
  deriving DecidableEq

namespace PlanRevisions

def empty : PlanRevisions where
  steps := Table.empty
  placesNodup := by simp [Table.empty]

/-- `INSERT`, refused when the step or its ordinal is taken in the revision. -/
def insert (revisions : PlanRevisions) (row : PlanRevisionStepRow) : Option PlanRevisions :=
  match added : revisions.steps.insert row with
  | none => none
  | some steps =>
    if free : row.place ∉ revisions.steps.rows.map PlanRevisionStepRow.place then
      some
        { steps := steps
          placesNodup := by
            obtain ⟨-, rowsEq⟩ := (revisions.steps.insert_some_iff steps row).mp added
            rw [rowsEq, List.map_append, List.map_singleton]
            rw [List.nodup_append_comm, List.singleton_append, List.nodup_cons]
            exact ⟨free, revisions.placesNodup⟩ }
    else none

theorem rows_insert (revisions inserted : PlanRevisions) (row : PlanRevisionStepRow)
    (done : revisions.insert row = some inserted) :
    inserted.steps.rows = revisions.steps.rows ++ [row] := by
  unfold insert at done
  split at done
  next => contradiction
  next steps added =>
    split at done
    next =>
      cases done
      exact ((revisions.steps.insert_some_iff steps row).mp added).2
    next => contradiction

end PlanRevisions

structure GoalStore where
  goal : GoalRow
  planSteps : Table PlanStepRow.stepId
  foreignSteps : List String
  planRevisions : PlanRevisions
  execution : Option ExecutionRow
  stepExecutions : Table StepExecutionRow.key
  blockers : Table BlockerRow.blockerId
  flow : Option FlowRow
  children : Table ChildRow.taskId
  deriving DecidableEq

/-- The codes of `GoalExecutorError`, of `TaskFlowError`, of `TaskError` and of `GoalError`. -/
inductive GoalErrorCode where
  | executionNotFound
  | executionAccessDenied
  | executionRevisionConflict
  | executionStateInvalid
  | executionPlanInvalid
  | executionRequestConflict
  | executionRetryLimit
  | executionBlockerRequired
  | executionStaleDecision
  | flowInvalidArgument
  | flowNotFound
  | flowAccessDenied
  | flowRevisionConflict
  | flowStateInvalid
  | flowTaskConflict
  | flowRequestConflict
  | conversationRefused
  | taskNotFound
  | taskStateInvalid
  | goalInputInvalid
  | goalNotFound
  | goalProvenanceInvalid
  | goalAlreadyOpen
  | goalExecutionActive
  | goalRevisionConflict
  | goalPlanInvalid
  | goalTransitionInvalid
  | goalCompletionUnproven
  deriving DecidableEq

abbrev GoalFailure := Failure GoalErrorCode

abbrev GoalTransaction (Value : Type) := Transaction GoalStore GoalFailure Value

def revisionConflict (message : String) : GoalFailure :=
  .service .executionRevisionConflict message

def planInvalid (message : String) : GoalFailure :=
  .service .executionPlanInvalid message

def stateInvalid (message : String) : GoalFailure :=
  .service .executionStateInvalid message

def requestConflict (message : String) : GoalFailure :=
  .service .executionRequestConflict message

def executionNotFound (message : String) : GoalFailure :=
  .service .executionNotFound message

def bounded (value : String) (max : Nat) (failure : GoalFailure) :
    GoalTransaction String := do
  demand (trim value ≠ "" ∧ utf16Length (trim value) ≤ max) failure
  pure (trim value)

/-- `optionalBounded(value, label, max)`: a blank text counts as absent. -/
def optionalBounded (value : Option String) (max : Nat) (failure : GoalFailure) :
    GoalTransaction (Option String) :=
  match value with
  | none => pure none
  | some text =>
    if trim text = "" then pure none
    else do
      demand (utf16Length (trim text) ≤ max) failure
      pure (some (trim text))

def optionalFits (text : String) (max : Nat) : Prop :=
  trim text = "" ∨ utf16Length (trim text) ≤ max

/-- An id that a service makes itself is a short text without outer blanks. -/
def idFits (id : String) : Bool :=
  decide (trim id = id) && decide (id ≠ "") && decide (utf16Length id ≤ 256)

variable (store : GoalStore)

/-- `listSteps`: the mutable plan as the current revision arranges it. -/
def GoalStore.listSteps : List PlanStepRow :=
  let current := store.planRevisions.steps.rows.filter
    (fun row => row.planRevision = store.goal.planRevision)
  orderBy PlanStepRow.ordinal
    (store.planSteps.rows.filterMap (fun row =>
      match current.find? (fun entry => entry.stepId = row.stepId) with
      | some entry => some { row with ordinal := entry.ordinal, title := entry.title }
      | none => if current = [] then some row else none))

def GoalStore.getStep (stepId : String) : Option PlanStepRow :=
  store.planSteps.find stepId

def GoalStore.listPlanRevisionSteps (planRevision : Nat) : List PlanRevisionStepRow :=
  orderBy PlanRevisionStepRow.ordinal
    (store.planRevisions.steps.rows.filter (fun row => row.planRevision = planRevision))

def GoalStore.getPlanRevisionStep (planRevision : Nat) (stepId : String) :
    Option PlanRevisionStepRow :=
  store.planRevisions.steps.find (planRevision, stepId)

def GoalStore.listStepExecutions (planRevision : Nat) : List StepExecutionRow :=
  orderBy StepExecutionRow.ordinal
    (store.stepExecutions.rows.filter (fun row => row.planRevision = planRevision))

def GoalStore.getStepExecution (stepId : String) (planRevision : Nat) :
    Option StepExecutionRow :=
  store.stepExecutions.find (planRevision, stepId)

def GoalStore.stepExecutionOfTask (taskId : String) : Option StepExecutionRow :=
  store.stepExecutions.rows.find? (fun row => row.currentTaskId = some taskId)

def GoalStore.getBlocker (blockerId : String) : Option BlockerRow :=
  store.blockers.find blockerId

def GoalStore.blockerOfFingerprint (stepId : String) (planRevision : Nat)
    (fingerprint : String) : Option BlockerRow :=
  store.blockers.rows.find? (fun row =>
    row.stepId = stepId && row.planRevision = planRevision && row.fingerprint = fingerprint)

def GoalStore.anyOpenBlocker (planRevision : Nat) : Option BlockerRow :=
  store.blockers.rows.find? (fun row =>
    row.planRevision = planRevision && row.status = .opened)

def GoalStore.childOfRequest (requestKey : String) : Option ChildRow :=
  store.children.rows.find? (fun row => row.requestKey = requestKey)

@[simp] theorem mem_listStepExecutions (planRevision : Nat) (row : StepExecutionRow) :
    row ∈ store.listStepExecutions planRevision ↔
      row ∈ store.stepExecutions.rows ∧ row.planRevision = planRevision := by
  simp [GoalStore.listStepExecutions]

/-- `updateGoal`: a compare-and-swap on the revision. -/
def updateGoal (expectedRevision : Nat) (row : GoalRow) (failure : GoalFailure) :
    GoalTransaction GoalRow := do
  let store ← inspect id
  demand (store.goal.revision = expectedRevision) failure
  let updated := { row with revision := expectedRevision + 1 }
  change (fun current => { current with goal := updated })
  pure updated

def insertStep (row : PlanStepRow) : GoalTransaction Unit := do
  let store ← inspect id
  demand (row.stepId ∉ store.foreignSteps) (.constraint "agent_goal_plan_steps.step_id")
  demand (∀ other ∈ store.planSteps.rows, other.ordinal ≠ row.ordinal)
    (.constraint "agent_goal_plan_steps.goal_id, agent_goal_plan_steps.ordinal")
  tryChange
    (fun current => (current.planSteps.insert row).map
      (fun table => { current with planSteps := table }))
    (.constraint "agent_goal_plan_steps.step_id")

/-- `updateStep`: the status and the note of a mutable plan step. -/
def updateStep (expectedRevision : Nat) (row : PlanStepRow) (failure : GoalFailure) :
    GoalTransaction PlanStepRow := do
  let store ← inspect id
  let current ← expect (store.getStep row.stepId) failure
  demand (current.revision = expectedRevision) failure
  let updated := { row with revision := expectedRevision + 1 }
  change (fun state => { state with planSteps := state.planSteps.update updated })
  pure updated

def resequencePlanDefinitions : GoalTransaction Unit :=
  change (fun store =>
    { store with
      planSteps :=
        { rows := store.planSteps.rows.map
            (fun row => { row with ordinal := row.ordinal + 10000 })
          keysNodup := by
            rw [List.map_map]
            exact store.planSteps.keysNodup } })

def updatePlanDefinition (stepId : String) (ordinal : Nat) (title : String)
    (failure : GoalFailure) : GoalTransaction PlanStepRow := do
  let store ← inspect id
  let current ← expect (store.getStep stepId) failure
  demand (∀ other ∈ store.planSteps.rows, other.stepId ≠ stepId → other.ordinal ≠ ordinal)
    (.constraint "agent_goal_plan_steps.goal_id, agent_goal_plan_steps.ordinal")
  let updated :=
    { current with ordinal := ordinal, title := title, revision := current.revision + 1 }
  change (fun state => { state with planSteps := state.planSteps.update updated })
  pure updated

def insertPlanRevisionStep (row : PlanRevisionStepRow) : GoalTransaction Unit :=
  tryChange
    (fun store => (store.planRevisions.insert row).map
      (fun revisions => { store with planRevisions := revisions }))
    (.constraint "agent_goal_plan_revision_steps")

def insertExecution (row : ExecutionRow) : GoalTransaction Unit := do
  let store ← inspect id
  demand (store.execution = none) (.constraint "agent_goal_executions.goal_id")
  change (fun current => { current with execution := some row })

def updateExecution (expectedRevision : Nat) (row : ExecutionRow) (failure : GoalFailure) :
    GoalTransaction Unit := do
  let store ← inspect id
  let current ← expect store.execution failure
  demand (current.revision = expectedRevision) failure
  change (fun state =>
    { state with execution := some { row with revision := expectedRevision + 1 } })

/-- The two unique indexes of `agent_goal_step_executions` besides its key. -/
def admitsStepExecution (table : Table StepExecutionRow.key) (row : StepExecutionRow) : Prop :=
  (row.currentTaskId ≠ none → ∀ other ∈ table.rows, other.key ≠ row.key →
    other.currentTaskId ≠ row.currentTaskId) ∧
  (occupied row.status = true → ∀ other ∈ table.rows, other.key ≠ row.key →
    other.planRevision = row.planRevision → occupied other.status = false)

instance (table : Table StepExecutionRow.key) (row : StepExecutionRow) :
    Decidable (admitsStepExecution table row) :=
  inferInstanceAs (Decidable (_ ∧ _))

def insertStepExecution (row : StepExecutionRow) : GoalTransaction Unit := do
  let store ← inspect id
  demand (admitsStepExecution store.stepExecutions row) (.constraint "agent_goal_step_executions")
  tryChange
    (fun current => (current.stepExecutions.insert row).map
      (fun table => { current with stepExecutions := table }))
    (.constraint "agent_goal_step_executions")

def updateStepExecution (expectedRevision : Nat) (row : StepExecutionRow)
    (failure : GoalFailure) : GoalTransaction StepExecutionRow := do
  let store ← inspect id
  let current ← expect (store.getStepExecution row.stepId row.planRevision) failure
  demand (current.revision = expectedRevision) failure
  demand (admitsStepExecution store.stepExecutions row) (.constraint "agent_goal_step_executions")
  let updated := { row with revision := expectedRevision + 1 }
  change (fun state => { state with stepExecutions := state.stepExecutions.update updated })
  pure updated

/-- `CHECK (length(summary) BETWEEN 1 AND 2000)`, in characters. -/
def summaryFits (summary : String) : Bool :=
  decide (1 ≤ summary.toList.length) && decide (summary.toList.length ≤ 2000)

def insertBlocker (row : BlockerRow) : GoalTransaction Unit := do
  demand (summaryFits row.summary = true) (.constraint "agent_goal_step_blockers.summary")
  tryChange
    (fun store => (store.blockers.insert row).map (fun table => { store with blockers := table }))
    (.constraint "agent_goal_step_blockers.blocker_id")

/-- `incrementBlocker`: one more occurrence, and the blocker is open again. -/
def incrementBlocker (row : BlockerRow) (taskId : Option String) (summary : String)
    (evidence : BlockerEvidence) : GoalTransaction BlockerRow := do
  demand (summaryFits summary = true) (.constraint "agent_goal_step_blockers.summary")
  let updated :=
    { row with
      taskId := taskId
      summary := summary
      evidence := evidence
      status := .opened
      occurrenceCount := row.occurrenceCount + 1
      resolvedBy := none
      resolution := none
      revision := row.revision + 1 }
  change (fun store => { store with blockers := store.blockers.update updated })
  pure updated

/-- `resolveBlocker` of the repository: only an open blocker is resolved. -/
def closeBlocker (row : BlockerRow) (resolvedBy resolution : String)
    (failure : GoalFailure) : GoalTransaction BlockerRow := do
  demand (row.status = .opened) failure
  let updated :=
    { row with
      status := .resolved
      resolvedBy := some resolvedBy
      resolution := some resolution
      revision := row.revision + 1 }
  change (fun store => { store with blockers := store.blockers.update updated })
  pure updated

end OpenRill.Goals.Ledger
