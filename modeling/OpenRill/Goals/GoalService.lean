import OpenRill.Goals.Ledger

/-!
# The goal service

`GoalService`: the plan and the status of a goal while nobody executes it. Every
mutation is refused once the goal has an execution, except that a run which
continues the goal is counted on it. Whether the conversation and the run of a
call are known is decided elsewhere and comes with the call.
-/

namespace OpenRill.Goals.GoalService

open Lib Lib.Transaction Ledger

/-- The digest of a note, and the folding under which two titles are the same. -/
structure GoalTexts where
  fingerprint : String → String
  fold : String → String

def inputInvalid (message : String) : GoalFailure := .service .goalInputInvalid message

def goalPlanInvalid (message : String) : GoalFailure := .service .goalPlanInvalid message

def goalConflict (message : String) : GoalFailure := .service .goalRevisionConflict message

/-- `value.replace(/\r\n?/g, "\n")`. -/
def normalizeNewlines : List Char → List Char
  | [] => []
  | '\r' :: '\n' :: rest => '\n' :: normalizeNewlines rest
  | '\r' :: rest => '\n' :: normalizeNewlines rest
  | char :: rest => char :: normalizeNewlines rest

def boundedText (value : String) (label : String) (max : Nat) : GoalTransaction String :=
  bounded (String.ofList (normalizeNewlines value.toList)) max
    (inputInvalid (label ++ " must contain 1-" ++ toString max ++ " characters"))

/-- A note that is absent or empty counts as none. -/
def optionalNote (note : Option String) (label : String) : GoalTransaction (Option String) :=
  match note with
  | none => pure none
  | some text =>
    if text = "" then pure none
    else do
      let checked ← boundedText text label 2000
      pure (some checked)

def goalTransitions : GoalStatus → GoalStatus → Bool
  | .active, .paused | .active, .blocked | .active, .completed | .active, .cancelled => true
  | .paused, .active | .paused, .cancelled => true
  | .blocked, .active | .blocked, .cancelled => true
  | _, _ => false

def planStepText : PlanStepStatus → String
  | .pending => "PENDING"
  | .inProgress => "IN_PROGRESS"
  | .blocked => "BLOCKED"
  | .completed => "COMPLETED"
  | .cancelled => "CANCELLED"

def stepTransitions : PlanStepStatus → PlanStepStatus → Bool
  | .pending, .inProgress | .pending, .completed | .pending, .cancelled => true
  | .inProgress, .blocked | .inProgress, .completed | .inProgress, .cancelled => true
  | .blocked, .inProgress | .blocked, .cancelled => true
  | _, _ => false

structure GoalCaller where
  owner : Owner
  goalId : String
  known : Bool
  expectedGoalRevision : Nat
  deriving DecidableEq

def provenance (caller : GoalCaller) : GoalTransaction Unit :=
  demand (caller.known = true)
    (.service .goalProvenanceInvalid "goal conversation does not belong to the workspace")

/-- The goal of a mutation: the caller's own, and executed by nobody. -/
def unexecutedGoal (caller : GoalCaller) : GoalTransaction GoalRow := do
  provenance caller
  let store ← inspect id
  demand (store.goal.goalId = caller.goalId ∧ store.goal.owner = caller.owner)
    (.service .goalNotFound "goal not found")
  demand (store.execution = none)
    (.service .goalExecutionActive
      "goal and plan mutations are owned by the durable Goal execution; use goalExecution controls")
  pure store.goal

def activeGoal (caller : GoalCaller) : GoalTransaction GoalRow := do
  let goal ← unexecutedGoal caller
  demand (goal.status = .active ∧ goal.revision = caller.expectedGoalRevision)
    (goalConflict "goal revision or status changed; read the goal again")
  pure goal

def snapshotPlan (planRevision : Nat) (steps : List PlanStepRow) : GoalTransaction Unit :=
  forEach steps () (fun _ step =>
    insertPlanRevisionStep
      { planRevision := planRevision
        stepId := step.stepId
        ordinal := step.ordinal
        title := step.title
        required := true
        retryMode := .manual
        maxAttempts := 3 })

def plannedSteps (stepIds : Nat → String) (titles : List String) : List PlanStepRow :=
  titles.mapIdx (fun index title =>
    { stepId := stepIds index
      ordinal := index + 1
      title := title
      status := .pending
      note := none
      revision := 1 })

def insertPlan (steps : List PlanStepRow) : GoalTransaction Unit :=
  forEach steps () (fun _ step => insertStep step)

def normalizeTitles (texts : GoalTexts) (least : Nat) (refusal : String)
    (titles : List String) : GoalTransaction (List String) := do
  let checked ← forEach titles [] (fun done title => do
    let text ← boundedText title "plan step" 1000
    pure (done ++ [text]))
  demand (least ≤ checked.length ∧ checked.length ≤ 20) (goalPlanInvalid refusal)
  demand ((checked.map texts.fold).Nodup) (goalPlanInvalid "goal plan steps must be unique")
  pure checked

structure NewGoal where
  goalId : String
  owner : Owner
  objective : String
  titles : List String
  stepIds : Nat → String
  stepIdsFit : ∀ index, idFits (stepIds index) = true
  foreignSteps : List String

def bareGoal (input : NewGoal) (objective : String) : GoalStore where
  goal :=
    { goalId := input.goalId
      owner := input.owner
      objective := objective
      status := .active
      lastNote := none
      blockerFingerprint := none
      consecutiveBlockerCount := 0
      planRevision := 1
      revision := 1 }
  planSteps := Table.empty
  foreignSteps := input.foreignSteps
  planRevisions := PlanRevisions.empty
  execution := none
  stepExecutions := Table.empty
  blockers := Table.empty
  flow := none
  children := Table.empty

def create (texts : GoalTexts) (input : NewGoal) : GoalTransaction Unit := do
  let objective ← boundedText input.objective "goal objective" 4000
  let titles ← normalizeTitles texts 0 "goal plan supports at most 20 steps" input.titles
  change (fun _ => bareGoal input objective)
  let steps := plannedSteps input.stepIds titles
  insertPlan steps
  snapshotPlan 1 steps

def setPlan (texts : GoalTexts) (caller : GoalCaller) (titles : List String)
    (stepIds : Nat → String) : GoalTransaction Unit := do
  let checked ← normalizeTitles texts 1 "plan must contain 1-20 steps" titles
  let goal ← activeGoal caller
  let store ← inspect id
  demand (store.listSteps = []) (goalPlanInvalid "goal plan already exists")
  let steps := plannedSteps stepIds checked
  insertPlan steps
  let updated ← updateGoal goal.revision { goal with planRevision := goal.planRevision + 1 }
    (goalConflict "goal changed while setting the plan")
  snapshotPlan updated.planRevision steps

structure StepChange where
  stepId : String
  expectedStepRevision : Nat
  status : PlanStepStatus
  note : Option String
  deriving DecidableEq

/-- `updateStep` of the service: the plan moves to a new revision with it. -/
def changeStep (caller : GoalCaller) (input : StepChange) : GoalTransaction Unit := do
  let note ← optionalNote input.note "step note"
  let goal ← activeGoal caller
  let store ← inspect id
  let target ← expect (store.listSteps.find? (fun step => step.stepId = input.stepId))
    (goalPlanInvalid "plan step not found")
  demand (target.revision = input.expectedStepRevision)
    (goalConflict "plan step changed; read the goal again")
  demand (stepTransitions target.status input.status = true)
    (.service .goalTransitionInvalid
      ("plan step cannot transition from " ++ planStepText target.status ++ " to " ++
        planStepText input.status))
  demand ((input.status = .inProgress ∨ input.status = .completed) →
      ∀ step ∈ store.listSteps, step.ordinal < target.ordinal →
        step.status = .completed ∨ step.status = .cancelled)
    (goalPlanInvalid "earlier plan steps must be completed before advancing this step")
  let durable ← expect (store.getStep target.stepId)
    (goalConflict "plan step changed during update")
  let _ ← updateStep target.revision { durable with status := input.status, note := note }
    (goalConflict "plan step changed during update")
  let updated ← updateGoal goal.revision
    { goal with
      lastNote := note.orElse (fun _ => goal.lastNote)
      blockerFingerprint := none
      consecutiveBlockerCount := 0
      planRevision := goal.planRevision + 1 }
    (goalConflict "goal changed during plan update")
  let revised ← inspect id
  snapshotPlan updated.planRevision revised.listSteps

/-- `reportBlocker`: the third report of one blocker in a row blocks the goal. -/
def reportBlocker (texts : GoalTexts) (caller : GoalCaller) (note : String) :
    GoalTransaction Unit := do
  let checked ← boundedText note "blocker note" 2000
  let goal ← activeGoal caller
  let count :=
    if goal.blockerFingerprint = some (texts.fingerprint checked) then
      goal.consecutiveBlockerCount + 1
    else 1
  let _ ← updateGoal goal.revision
    { goal with
      status := if 3 ≤ count then .blocked else .active
      lastNote := some checked
      blockerFingerprint := some (texts.fingerprint checked)
      consecutiveBlockerCount := count }
    (goalConflict "goal changed while recording blocker")
  pure ()

inductive ControlAction where
  | pause
  | resume
  | cancel
  deriving DecidableEq

def controlledStatus : ControlAction → GoalStatus
  | .pause => .paused
  | .resume => .active
  | .cancel => .cancelled

def control (caller : GoalCaller) (action : ControlAction) (note : Option String) :
    GoalTransaction Unit := do
  let checked ← optionalNote note "goal note"
  let goal ← unexecutedGoal caller
  demand (goal.revision = caller.expectedGoalRevision)
    (goalConflict "goal changed; read the goal again")
  demand (goalTransitions goal.status (controlledStatus action) = true)
    (.service .goalTransitionInvalid
      ("goal cannot transition from " ++ goalText goal.status ++ " to " ++
        goalText (controlledStatus action)))
  let resumed := controlledStatus action = .active
  let _ ← updateGoal goal.revision
    { goal with
      status := controlledStatus action
      lastNote := checked.orElse (fun _ => goal.lastNote)
      blockerFingerprint := if resumed then none else goal.blockerFingerprint
      consecutiveBlockerCount := if resumed then 0 else goal.consecutiveBlockerCount }
    (goalConflict "goal changed during control action")
  pure ()

/-- `complete`: every step of the plan must be completed. -/
def complete (caller : GoalCaller) (note : Option String) : GoalTransaction Unit := do
  let checked ← optionalNote note "completion note"
  let goal ← activeGoal caller
  let store ← inspect id
  demand (∀ step ∈ store.listSteps, step.status = .completed)
    (.service .goalCompletionUnproven
      "every plan step must be completed before the goal can complete")
  let _ ← updateGoal goal.revision
    { goal with
      status := .completed
      lastNote := checked.orElse (fun _ => goal.lastNote)
      blockerFingerprint := none
      consecutiveBlockerCount := 0 }
    (goalConflict "goal changed during completion")
  pure ()

def prepareContext (caller : GoalCaller) : GoalTransaction Unit := do
  provenance caller
  let store ← inspect id
  whenever (store.goal.owner = caller.owner ∧ store.goal.status = .active) (do
    let _ ← updateGoal store.goal.revision store.goal
      (goalConflict "goal changed while preparing continuation context")
    pure ())

inductive ServiceOp where
  | setPlan (titles : List String) (stepIds : Nat → String)
      (stepIdsFit : ∀ index, idFits (stepIds index) = true)
  | changeStep (input : StepChange)
  | reportBlocker (note : String)
  | control (action : ControlAction) (note : Option String)
  | complete (note : Option String)
  | prepareContext

def serve (texts : GoalTexts) (caller : GoalCaller) : ServiceOp → GoalTransaction Unit
  | .setPlan titles stepIds _ => setPlan texts caller titles stepIds
  | .changeStep input => changeStep caller input
  | .reportBlocker note => reportBlocker texts caller note
  | .control action note => control caller action note
  | .complete note => complete caller note
  | .prepareContext => prepareContext caller

end OpenRill.Goals.GoalService
