import OpenRill.Goals.PlanMachine

/-!
# The moves of a goal

Everything that the transactions of the goal service, of the executor and of its
controller do to the rows of a goal, as a relation between two ledgers. A move says
what it reads and what it writes; the transactions are shown to make only moves,
and the invariants are shown of the moves.
-/

namespace OpenRill.Goals.Moves

open Lib Lib.Text Ledger Executor PlanMachine

/-- What a move is: a call of a service or the start of an execution (`plain`), or what
an execution, its flow or a child goes through. -/
inductive Deed where
  | plain
  | shift
  | ask
  | child
  | succeed (step : StepExecutionRow)
  | block (currentStep : Option String)
  | adopt
  | finish
  | fail
  | cancel
  | cut

structure GoalKept (before after : GoalRow) : Prop where
  goalId : after.goalId = before.goalId
  owner : after.owner = before.owner
  objective : after.objective = before.objective
  planRevision : after.planRevision = before.planRevision

/-- The goal does not become completed, and does not stop being so. -/
def SameEnd (before after : GoalRow) : Prop :=
  after.status = .completed ↔ before.status = .completed

def Completed (planSteps : Table PlanStepRow.stepId) (stepId : String) : Prop :=
  ∃ row, planSteps.find stepId = some row ∧ row.status = .completed

/-- The mutable plan has the same steps, and what is done stays done. -/
structure StepsKept (before after : Table PlanStepRow.stepId) : Prop where
  keys : after.rows.map PlanStepRow.stepId = before.rows.map PlanStepRow.stepId
  completed : ∀ stepId, Completed before stepId → Completed after stepId

theorem GoalKept.refl (goal : GoalRow) : GoalKept goal goal := ⟨rfl, rfl, rfl, rfl⟩

theorem StepsKept.refl (planSteps : Table PlanStepRow.stepId) : StepsKept planSteps planSteps :=
  ⟨rfl, fun _ completed => completed⟩

theorem StepsKept.trans {first second third : Table PlanStepRow.stepId}
    (before : StepsKept first second) (after : StepsKept second third) :
    StepsKept first third :=
  ⟨after.keys.trans before.keys, fun stepId completed =>
    after.completed stepId (before.completed stepId completed)⟩

def link (child : ChildRow) : String × String × String :=
  (child.taskId, child.requestKey, child.stepKey)

def links (children : Table ChildRow.taskId) : List (String × String × String) :=
  children.rows.map link

def stepsOf (table : Table StepExecutionRow.key) (planRevision : Nat) : List StepExecutionRow :=
  orderBy StepExecutionRow.ordinal (table.rows.filter (fun row => row.planRevision = planRevision))

/-- The state that the rows of an execution have on its flow. -/
def stateOf (goal : GoalRow) (execution : ExecutionRow) (revisions : PlanRevisions)
    (table : Table StepExecutionRow.key) : ProjectedState :=
  projectedState goal execution (planOf revisions execution.planRevision)
    (stepsOf table execution.planRevision)

def rowsOf (store : GoalStore) (execution : ExecutionRow) : ExecutorRows where
  goal := store.goal
  execution := execution
  planSteps := planOf store.planRevisions execution.planRevision
  stepExecutions := stepsOf store.stepExecutions execution.planRevision

/-- An admitted step as its flow announces it: without its task, with what its last
attempt came to. -/
def announcedRow (step next : StepExecutionRow) : StepExecutionRow :=
  { next with
    currentTaskId := step.currentTaskId
    lastTerminalOutcome := step.lastTerminalOutcome
    lastSummary := step.lastSummary }

def shownRow (step next : StepExecutionRow) : StepExecutionRow :=
  if next.status = .running then announcedRow step next else next

inductive Tasked (goal : GoalRow) (before after : Table ChildRow.taskId)
    (step next : StepExecutionRow) : Prop where
  | admitted {child : ChildRow}
      (running : next.status = .running)
      (taken : next.currentTaskId = some child.taskId)
      (linked : after.rows = before.rows ++ [child])
      (stepKey : child.stepKey = trim step.stepId)
      (requested : child.requestKey =
        trim (requestKey goal.goalId step.planRevision step.stepId next.attemptCount))
  | stopped
      (status : next.status = .blocked ∨ next.status = .failed)
      (task : next.currentTaskId = step.currentTaskId)
      (same : after = before)
  | freed
      (status : next.status = .ready ∨ next.status = .waiting)
      (task : next.currentTaskId = none)
      (same : after = before)

/-- A blocker that holds back a step of a revision. -/
structure OpenAt (blockers : Table BlockerRow.blockerId) (planRevision : Nat)
    (row : BlockerRow) : Prop where
  mem : row ∈ blockers.rows
  revision : row.planRevision = planRevision
  opened : row.status = .opened

/-- The blockers after a write belong to revisions that had some or to this one, and
their ids are short. -/
structure BlockersKept (before after : Table BlockerRow.blockerId) (planRevision : Nat) :
    Prop where
  revisions : ∀ row ∈ after.rows, row.planRevision = planRevision ∨
    ∃ old ∈ before.rows, old.planRevision = row.planRevision
  named : ∀ row ∈ after.rows, idFits row.blockerId = true ∨
    ∃ old ∈ before.rows, old.blockerId = row.blockerId

inductive BlockersMoved (before after : Table BlockerRow.blockerId) (planRevision : Nat)
    (step : StepExecutionRow) : Prop where
  | untouched
      (calm : step.status = .ready ∨ step.status = .waiting)
      (same : after = before)
  | closed {blocker : BlockerRow}
      (halted : step.status = .blocked ∨ step.status = .failed)
      (wasOpen : OpenAt before planRevision blocker)
      (ofStep : blocker.stepId = step.stepId)
      (rest : ∀ row, OpenAt after planRevision row →
        OpenAt before planRevision row ∧ row.blockerId ≠ blocker.blockerId)
      (kept : BlockersKept before after planRevision)
  | recorded {blocker : BlockerRow}
      (running : step.status = .running)
      (isOpen : OpenAt after planRevision blocker)
      (ofStep : blocker.stepId = step.stepId)
      (rest : ∀ row, OpenAt after planRevision row → row = blocker ∨ OpenAt before planRevision row)
      (kept : BlockersKept before after planRevision)

def SameShown (before : Option FlowRow) (after : FlowRow) : Prop :=
  ∀ flow, before = some flow → after.state = flow.state ∧ after.currentStep = flow.currentStep

/-- An execution after a cancellation: one that was over stays as it was. -/
def cancelledExecution (execution : ExecutionRow) : ExecutionRow :=
  if executionTerminal execution.status = true then execution
  else
    { execution with status := .cancelled, revision := execution.revision + 1 }

/-- The flow of a cancelled execution: it was over before, or it is cancelled now. -/
inductive FlowClosed (before after : Option FlowRow) : Prop where
  | before {flow : FlowRow}
      (present : before = some flow)
      (ended : flowTerminal flow.status = true)
      (same : after = before)
  | now {flow : FlowRow} {currentStep : Option String}
      (moved : FlowMoved before .cancelled currentStep flow)
      (shown : SameShown before flow)
      (written : after = some flow)

inductive Move : Deed → GoalStore → GoalStore → Prop where
  | touched {store : GoalStore} {goal : GoalRow}
      (kept : GoalKept store.goal goal)
      (ending : SameEnd store.goal goal) :
      Move .plain store { store with goal := goal }
  | revised {store : GoalStore} {goal : GoalRow} {planSteps : Table PlanStepRow.stepId}
      {revisions : PlanRevisions} {added : List PlanRevisionStepRow}
      (unended : store.goal.status ≠ .completed ∧ goal.status ≠ .completed)
      (same : goal.goalId = store.goal.goalId ∧ goal.owner = store.goal.owner ∧
        goal.objective = store.goal.objective)
      (newer : goal.planRevision = store.goal.planRevision + 1)
      (appended : revisions.steps.rows = store.planRevisions.steps.rows ++ added)
      (newest : ∀ row ∈ added, row.planRevision = store.goal.planRevision + 1)
      (limited : ∀ row ∈ added, 1 ≤ row.maxAttempts)
      (planned : ∀ row ∈ added, (planSteps.find row.stepId).isSome = true)
      (present : ∀ stepId, (store.planSteps.find stepId).isSome = true →
        (planSteps.find stepId).isSome = true)
      (named : ∀ row ∈ planSteps.rows, idFits row.stepId = true ∨
        (store.planSteps.find row.stepId).isSome = true) :
      Move .plain store
        { store with goal := goal, planSteps := planSteps, planRevisions := revisions }
  | closed {store : GoalStore} {goal : GoalRow}
      (unstarted : store.execution = none)
      (kept : GoalKept store.goal goal)
      (done : ∀ row ∈ store.listSteps, row.status = .completed)
      (ending : goal.status = .completed) :
      Move .plain store { store with goal := goal }
  | started {store : GoalStore} {execution : ExecutionRow} {flow : FlowRow}
      {table : Table StepExecutionRow.key} {first : PlanRevisionStepRow}
      {rest : List PlanRevisionStepRow}
      (unstarted : store.execution = none)
      (active : store.goal.status = .active)
      (plan : planOf store.planRevisions store.goal.planRevision = first :: rest)
      (filled : table.rows = store.stepExecutions.rows ++ initialSteps (first :: rest))
      (pinned : execution.planRevision = store.goal.planRevision)
      (queued : execution.status = .queued)
      (current : execution.currentStepId = some first.stepId)
      (bound : flow.owner = execution.owner ∧ flow.controllerId = execution.controllerId)
      (owned : execution.owner = store.goal.owner)
      (flowQueued : flow.status = .queued)
      (standsAt : flow.currentStep = shownStep (some first.stepId))
      (shown : flow.state = stateOf store.goal execution store.planRevisions table) :
      Move .plain store
        { store with execution := some execution, stepExecutions := table, flow := some flow }
  | shifted {store : GoalStore} {goal : GoalRow} {planSteps : Table PlanStepRow.stepId}
      {execution : ExecutionRow} {step next : StepExecutionRow}
      {status : ExecutionStatus} {flowStatus : FlowStatus} {flow : FlowRow}
      {blockers : Table BlockerRow.blockerId} {children : Table ChildRow.taskId}
      (present : store.execution = some execution)
      (pinned : Pinned (viewOf store) execution step)
      (shift : Shift step.status next.status status flowStatus)
      (halted : step.status = .blocked ∨ step.status = .failed →
        execution.status = .blocked ∧ step.attemptCount < step.maxAttempts)
      (place : SamePlace step next)
      (taskFree : TaskFree store.stepExecutions next)
      (tasked : Tasked store.goal store.children children step next)
      (blockersMoved : BlockersMoved store.blockers blockers execution.planRevision step)
      (flowMoved : FlowMoved store.flow flowStatus (shownStep (some step.stepId)) flow)
      (shown : flow.state = stateOf store.goal
        { execution with status := status, currentStepId := some step.stepId }
        store.planRevisions (store.stepExecutions.update (shownRow step next)))
      (kept : GoalKept store.goal goal)
      (ending : SameEnd store.goal goal)
      (steps : StepsKept store.planSteps planSteps) :
      Move .shift store
        { store with
          goal := goal
          planSteps := planSteps
          execution := some
            { execution with
              status := status
              currentStepId := some step.stepId
              revision := execution.revision + 1 }
          stepExecutions := store.stepExecutions.update next
          blockers := blockers
          flow := some flow
          children := children }
  | succeeded {store : GoalStore} {planSteps : Table PlanStepRow.stepId}
      {execution : ExecutionRow} {step done : StepExecutionRow}
      {next : Option StepExecutionRow} {flow : FlowRow}
      (present : store.execution = some execution)
      (pinned : Pinned (viewOf store) execution step)
      (running : step.status = .running)
      (place : SamePlace step done)
      (isDone : done.status = .succeeded)
      (task : done.currentTaskId = step.currentTaskId)
      (successor : ∀ row, next = some row → Pinned (viewOf store) execution row ∧
        row.status = .pending ∧ row.ordinal = step.ordinal + 1)
      (missed : next = none → ∀ row, Pinned (viewOf store) execution row →
        ¬ (row.status = .pending ∧ row.ordinal = step.ordinal + 1))
      (flowMoved : FlowMoved store.flow .running
        (shownStep (next.map StepExecutionRow.stepId)) flow)
      (shown : flow.state = stateOf store.goal
        { execution with status := .running, currentStepId := next.map StepExecutionRow.stepId }
        store.planRevisions (afterSuccess store.stepExecutions done next))
      (steps : StepsKept store.planSteps planSteps)
      (mirrored : execution.planRevision = store.goal.planRevision →
        Completed planSteps step.stepId) :
      Move (.succeed step) store
        { store with
          planSteps := planSteps
          execution := some
            { execution with
              status := .running
              currentStepId := next.map StepExecutionRow.stepId
              revision := execution.revision + 1 }
          stepExecutions := afterSuccess store.stepExecutions done next
          flow := some flow }
  | adopted {store : GoalStore} {goal : GoalRow} {planSteps : Table PlanStepRow.stepId}
      {execution : ExecutionRow} {flow : FlowRow} {table : Table StepExecutionRow.key}
      {projected : List StepExecutionRow} {next : Option String}
      (present : store.execution = some execution)
      (newer : execution.planRevision < store.goal.planRevision)
      (idle : execution.status = .blocked ∨ execution.status = .waiting)
      (unblocked : ∀ row, ¬ OpenAt store.blockers execution.planRevision row)
      (isProjected : projected = readyFirst ((planOf store.planRevisions
        store.goal.planRevision).map (projectedStep (rowsOf store execution))))
      (filled : table.rows = store.stepExecutions.rows ++ projected)
      (chosen : next =
        (projected.find? (fun step => step.status = .ready)).map StepExecutionRow.stepId)
      (flowMoved : FlowMoved store.flow (if next.isSome then .queued else .running)
        (shownStep next) flow)
      (shown : flow.state = stateOf store.goal
        { execution with
          planRevision := store.goal.planRevision
          status := if next.isSome then .queued else .running
          currentStepId := next }
        store.planRevisions table)
      (kept : GoalKept store.goal goal)
      (ending : SameEnd store.goal goal)
      (keys : planSteps.rows.map PlanStepRow.stepId = store.planSteps.rows.map PlanStepRow.stepId)
      (mirrored : ∀ row ∈ projected, finished row.status = true → Completed planSteps row.stepId) :
      Move .adopt store
        { store with
          goal := goal
          planSteps := planSteps
          execution := some
            { execution with
              planRevision := store.goal.planRevision
              status := if next.isSome then .queued else .running
              currentStepId := next
              revision := execution.revision + 1 }
          stepExecutions := table
          flow := some flow }
  | finished {store : GoalStore} {goal : GoalRow} {execution : ExecutionRow} {flow : FlowRow}
      {currentStep : Option String}
      (present : store.execution = some execution)
      (allDone : ∀ row, Pinned (viewOf store) execution row → finished row.status = true)
      (flowMoved : FlowMoved store.flow .succeeded currentStep flow)
      (shown : flow.state = stateOf store.goal
        { execution with status := .succeeded, currentStepId := none }
        store.planRevisions store.stepExecutions)
      (kept : GoalKept store.goal goal)
      (active : store.goal.status = .active)
      (ending : goal.status = .completed) :
      Move .finish store
        { store with
          goal := goal
          execution := some
            { execution with
              status := .succeeded
              currentStepId := none
              revision := execution.revision + 1 }
          flow := some flow }
  | failed {store : GoalStore} {goal : GoalRow} {execution : ExecutionRow} {flow : FlowRow}
      {currentStep : Option String}
      (present : store.execution = some execution)
      (flowMoved : FlowMoved store.flow .failed currentStep flow)
      (shown : SameShown store.flow flow)
      (kept : GoalKept store.goal goal)
      (ending : SameEnd store.goal goal) :
      Move .fail store
        { store with
          goal := goal
          execution := some { execution with status := .failed, revision := execution.revision + 1 }
          flow := some flow }
  | cancelled {store : GoalStore} {goal : GoalRow} {planSteps : Table PlanStepRow.stepId}
      {execution : ExecutionRow} {table : Table StepExecutionRow.key} {flow : Option FlowRow}
      (present : store.execution = some execution)
      (swept : table.rows = store.stepExecutions.rows.map (sweptRow execution.planRevision))
      (flowClosed : FlowClosed store.flow flow)
      (kept : GoalKept store.goal goal)
      (ending : SameEnd store.goal goal)
      (steps : StepsKept store.planSteps planSteps) :
      Move .cancel store
        { store with
          goal := goal
          planSteps := planSteps
          execution := some (cancelledExecution execution)
          stepExecutions := table
          flow := flow }
  | asked {store : GoalStore} {flow : FlowRow} {flowStatus : FlowStatus}
      {currentStep : Option String}
      (flowMoved : FlowMoved store.flow flowStatus currentStep flow)
      (shown : SameShown store.flow flow)
      (steady : ∀ before, store.flow = some before → flowStatus = before.status) :
      Move .ask store { store with flow := some flow }
  | held {store : GoalStore} {execution : ExecutionRow} {flow : FlowRow}
      {currentStep : Option String}
      (present : store.execution = some execution)
      (blocked : execution.status = .blocked)
      (flowMoved : FlowMoved store.flow .blocked currentStep flow)
      (shown : ∀ before, store.flow = some before → flow.state = before.state) :
      Move (.block currentStep) store { store with flow := some flow }
  | cut {store : GoalStore} {flow : FlowRow} {currentStep : Option String}
      (flowMoved : FlowMoved store.flow .cancelled currentStep flow)
      (shown : SameShown store.flow flow) :
      Move .cut store { store with flow := some flow }
  | childMoved {store : GoalStore} {children : Table ChildRow.taskId}
      (same : links children = links store.children) :
      Move .child store { store with children := children }

end OpenRill.Goals.Moves
