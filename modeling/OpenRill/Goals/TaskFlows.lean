import OpenRill.Goals.Ledger

/-!
# The managed flow of a goal

`TaskFlowService` and the controller-bound runtime over it, for the one flow a
goal execution drives: the transition guard, the admission of a child task and
the cancellation. What the caller does in the same transaction follows the
transition in its own program.
-/

namespace OpenRill.Goals.TaskFlows

open Lib.Text Lib.Transaction Ledger

def invalidArgument (message : String) : GoalFailure :=
  .service .flowInvalidArgument message

def flowConflict (expected current : Nat) : GoalFailure :=
  .service .flowRevisionConflict
    ("expected revision " ++ toString expected ++ ", current " ++ toString current)

def flowStateInvalid (message : String) : GoalFailure :=
  .service .flowStateInvalid message

def flowNotFound : GoalFailure := .service .flowNotFound "task flow not found"

structure Binding where
  owner : Owner
  controllerId : String
  deriving DecidableEq

def allowed : FlowStatus → FlowStatus → Bool
  | .queued, .running => true
  | .queued, .waiting => true
  | .queued, .blocked => true
  | .running, .waiting => true
  | .running, .blocked => true
  | .running, .succeeded => true
  | .waiting, .queued => true
  | .waiting, .running => true
  | .blocked, .queued => true
  | .blocked, .running => true
  | current, .failed | current, .cancelled | current, .lost => !flowTerminal current
  | _, _ => false

def stateLimit : Nat := 262144

def assertState (state : ProjectedState) : GoalTransaction Unit :=
  demand (state.size ≤ stateLimit) (invalidArgument "state must be bounded JSON")

/-- `get` of a bound runtime: the flow, of this owner and this controller. -/
def controlled (binding : Binding) : GoalTransaction FlowRow := do
  let store ← inspect id
  let flow ← expect store.flow flowNotFound
  demand (flow.owner.workspaceId = binding.owner.workspaceId)
    (.service .flowAccessDenied "task flow belongs to a different workspace")
  demand (flow.owner.conversationId = binding.owner.conversationId)
    (.service .flowAccessDenied "task flow belongs to a different owner")
  demand (flow.controllerId = binding.controllerId)
    (.service .flowAccessDenied "task flow belongs to a different controller")
  pure flow

/-- The arguments of a transition. An absent field is `undefined` in the source
and keeps what the flow has. -/
structure FlowMutation where
  expectedRevision : Nat
  targetStatus : FlowStatus
  currentStep : Option (Option String) := none
  blockedTaskId : Option String := none
  blockedSummary : Option String := none
  state : Option ProjectedState := none
  wait : Option String := none
  cancelRequested : Option Bool := none

/-- A flow that is blocked names the linked task that blocks it. -/
def requireBlockedTask (blockedTaskId : Option String) : GoalTransaction Unit := do
  let store ← inspect id
  let taskId ← expect blockedTaskId (invalidArgument "blocked task flow requires blockedTaskId")
  let _ ← expect (store.children.find taskId)
    (flowStateInvalid "blockedTaskId must be linked to the task flow")
  pure ()

def nextCurrentStep (flow : FlowRow) (requested : Option (Option String)) :
    GoalTransaction (Option String) :=
  match requested with
  | none => pure flow.currentStep
  | some step => optionalBounded step 256 (invalidArgument "invalid currentStep")

def nextBlockedTask (flow : FlowRow) (requested : Option String) :
    GoalTransaction (Option String) :=
  match requested with
  | none => pure flow.blockedTaskId
  | some taskId => optionalBounded (some taskId) 256 (invalidArgument "invalid blockedTaskId")

def nextBlockedSummary (mutation : FlowMutation) : GoalTransaction (Option String) :=
  if mutation.targetStatus = .blocked then
    optionalBounded mutation.blockedSummary 4096 (invalidArgument "invalid blockedSummary")
  else pure none

def nextState (flow : FlowRow) (requested : Option ProjectedState) :
    GoalTransaction ProjectedState :=
  match requested with
  | none => pure flow.state
  | some state => do
      assertState state
      pure state

def nextWait (mutation : FlowMutation) : GoalTransaction (Option String) :=
  if mutation.targetStatus = .waiting then do
    demand (∀ text, mutation.wait = some text → jsonText text ≤ stateLimit)
      (invalidArgument "wait must be bounded JSON")
    pure mutation.wait
  else pure none

/-- `#mutate`: one guarded transition of the flow. -/
def mutate (binding : Binding) (mutation : FlowMutation) : GoalTransaction FlowRow := do
  let flow ← controlled binding
  demand (flow.revision = mutation.expectedRevision)
    (flowConflict mutation.expectedRevision flow.revision)
  demand (flowTerminal flow.status = false)
    (flowStateInvalid ("terminal task flow cannot transition from " ++ flowText flow.status))
  demand (flow.status = mutation.targetStatus ∨ allowed flow.status mutation.targetStatus = true)
    (flowStateInvalid ("invalid task flow transition " ++ flowText flow.status ++ " -> " ++
      flowText mutation.targetStatus))
  let blockedTaskId ← nextBlockedTask flow mutation.blockedTaskId
  whenever (mutation.targetStatus = .blocked) (requireBlockedTask blockedTaskId)
  let currentStep ← nextCurrentStep flow mutation.currentStep
  let blockedSummary ← nextBlockedSummary mutation
  let state ← nextState flow mutation.state
  let wait ← nextWait mutation
  let updated : FlowRow :=
    { flow with
      status := mutation.targetStatus
      currentStep := currentStep
      blockedTaskId := if mutation.targetStatus = .blocked then blockedTaskId else none
      blockedSummary := blockedSummary
      state := state
      wait := wait
      cancelRequested := mutation.cancelRequested.getD flow.cancelRequested
      revision := flow.revision + 1 }
  change (fun store => { store with flow := some updated })
  pure updated

/-- `createManaged` for a goal without a flow. A flow that exists without its
execution is refused by the caller, so it is refused here. -/
def createManaged (binding : Binding) (requestKey goal : String) (currentStep : String)
    (state : ProjectedState) : GoalTransaction Unit := do
  let _ ← bounded requestKey 128 (invalidArgument "invalid requestKey")
  let boundedGoal ← bounded goal 65536 (invalidArgument "invalid goal")
  let step ← optionalBounded (some currentStep) 256 (invalidArgument "invalid currentStep")
  assertState state
  let store ← inspect id
  demand (store.flow = none)
    (requestConflict "managed Flow exists without its Goal execution binding")
  let flow : FlowRow :=
    { owner := binding.owner
      controllerId := binding.controllerId
      goal := boundedGoal
      status := .queued
      currentStep := step
      blockedTaskId := none
      blockedSummary := none
      state := state
      wait := none
      cancelRequested := false
      revision := 1 }
  change (fun current => { current with flow := some flow })

structure ChildRequest where
  expectedRevision : Nat
  requestKey : String
  stepKey : String
  text : String
  state : Option ProjectedState

structure Admitted where
  child : ChildRow
  replayed : Bool

/-- The replay of a submission that exists: same text, same linkage. -/
def replayChild (child : ChildRow) (stepKey text : String) : GoalTransaction Admitted := do
  demand (child.text = text)
    (.service .conversationRefused "submission key reused with different input")
  demand (child.stepKey = stepKey)
    (.service .flowRequestConflict "task flow child request replay conflicts with durable linkage")
  pure
    { child := child
      replayed := true }

/-- A new child. `sent` is the task of the run that the conversation service
created for the message, or its refusal. -/
def admitChild (flow : FlowRow) (request : ChildRequest) (requestKey stepKey text : String)
    (sent : Option String) : GoalTransaction Admitted := do
  demand (flow.revision = request.expectedRevision)
    (flowConflict request.expectedRevision flow.revision)
  demand (flowTerminal flow.status = false)
    (flowStateInvalid "terminal task flow cannot admit child tasks")
  demand (flow.cancelRequested = false)
    (flowStateInvalid "task flow cancellation has already been requested")
  demand (flow.status = .queued ∨ flow.status = .running)
    (flowStateInvalid ("task flow must resume before child admission: " ++ flowText flow.status))
  let taskId ← expect sent (.service .conversationRefused "conversation not found")
  let child : ChildRow :=
    { taskId := taskId
      requestKey := requestKey
      stepKey := stepKey
      text := text
      status := .queued
      terminalOutcome := none
      terminalSummary := none
      errorCode := none }
  tryChange
    (fun store => (store.children.insert child).map (fun table => { store with children := table }))
    (.service .flowTaskConflict "newly admitted task could not be linked to its task flow")
  let updated : FlowRow :=
    { flow with
      status := .running
      currentStep := some stepKey
      blockedTaskId := none
      blockedSummary := none
      state := request.state.getD flow.state
      wait := none
      cancelRequested := false
      revision := flow.revision + 1 }
  change (fun store => { store with flow := some updated })
  pure
    { child := child
      replayed := false }

def runTask (binding : Binding) (request : ChildRequest) (sent : Option String) :
    GoalTransaction Admitted := do
  let requestKey ← bounded request.requestKey 128 (invalidArgument "invalid requestKey")
  let stepKey ← bounded request.stepKey 256 (invalidArgument "invalid stepKey")
  let text ← bounded request.text 65536 (invalidArgument "invalid text")
  demand (∀ state, request.state = some state → state.size ≤ stateLimit)
    (invalidArgument "state must be bounded JSON")
  let flow ← controlled binding
  let store ← inspect id
  match store.childOfRequest requestKey with
  | some child => replayChild child stepKey text
  | none => admitChild flow request requestKey stepKey text sent

/-- `requestCancel`: a flow that is over or already asked to stop is left alone. -/
def requestCancel (binding : Binding) (expectedRevision : Nat) :
    GoalTransaction FlowRow := do
  let flow ← controlled binding
  if flowTerminal flow.status = true ∨ flow.cancelRequested = true then pure flow
  else
    mutate binding
      { expectedRevision := expectedRevision
        targetStatus := flow.status
        cancelRequested := some true }

def writeChild (child : ChildRow) : GoalTransaction Unit :=
  change (fun store => { store with children := store.children.update child })

/-- `TaskService.cancel`: a task that still runs after its run was cancelled is an
error. The host says in which status it leaves the task. -/
def cancelTask (stopped : ChildRow → TaskStatus) (taskId : String) :
    Procedure GoalStore GoalFailure Unit := do
  let child ← commit (do
    let store ← inspect id
    expect (store.children.find taskId) (.service .taskNotFound "background task not found"))
  if taskTerminal child.status = true then pure ()
  else do
    commit (writeChild { child with status := stopped child })
    commit (demand (taskTerminal (stopped child) = true)
      (.service .taskStateInvalid "task Run did not reach a terminal state after cancellation"))

/-- The loop of a cancellation over the linked tasks. -/
def cancelChildren (stopped : ChildRow → TaskStatus) :
    List ChildRow → Procedure GoalStore GoalFailure Unit
  | [] => pure ()
  | child :: rest =>
    if taskTerminal child.status = true then cancelChildren stopped rest
    else do
      cancelTask stopped child.taskId
      cancelChildren stopped rest

/-- The end of a cancellation, once no linked task runs any more. -/
def finishCancel (binding : Binding) (flow : FlowRow) : GoalTransaction Unit := do
  let store ← inspect id
  whenever (∀ child ∈ store.children.rows, taskTerminal child.status = true) (do
    let _ ← mutate binding
      { expectedRevision := flow.revision
        targetStatus := .cancelled
        cancelRequested := some flow.cancelRequested }
    pure ())

/-- `cancel` of a bound runtime: the request, the tasks and the end commit one
after the other. -/
def cancel (binding : Binding) (expectedRevision : Nat) (stopped : ChildRow → TaskStatus) :
    Procedure GoalStore GoalFailure Unit := do
  let before ← commit (controlled binding)
  if flowTerminal before.status = true then pure ()
  else do
    let current ← commit (requestCancel binding expectedRevision)
    let store ← commit (inspect id)
    cancelChildren stopped store.children.rows
    commit (finishCancel binding current)

end OpenRill.Goals.TaskFlows
