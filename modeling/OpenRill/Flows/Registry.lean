import OpenRill.Goals.TaskFlows
import OpenRill.Lib.Checked
import OpenRill.Lib.Json
import OpenRill.Lib.NumberedLog
import OpenRill.Lib.Runs

/-!
# The registry of task flows

The flows of all owners with their events and the tasks linked to them. A transaction of
the service reads and checks, and writes last: `Change` is what it decided to write, and
`settle` commits that or, on a throw, nothing. Conversations, tasks and deliveries belong to
other services, whose answers are arguments here. Retention may delete a flow that has
ended, and with it its history.
-/

namespace OpenRill.Flows.Registry

open Lib Lib.Text Lib.Checked Lib.NumberedLog
open Goals.Ledger (FlowStatus flowTerminal flowText GoalFailure Owner)
open Goals.TaskFlows (Binding allowed invalidArgument flowConflict flowStateInvalid
  flowNotFound stateLimit)

/-- The columns that `update` sets. -/
structure FlowFields where
  status : FlowStatus
  currentStep : Option String
  blockedTaskId : Option String
  blockedSummary : Option String
  state : Json
  wait : Json
  cancelRequestedAt : Option Nat
  updatedAt : Nat
  endedAt : Option Nat
  cleanupAfter : Option Nat

structure FlowRow extends FlowFields where
  flowId : String
  workspaceId : String
  ownerKey : String
  controllerId : String
  goal : String
  createdAt : Nat
  revision : Nat

structure LinkRow where
  flowId : String
  taskId : String
  stepKey : Option String
  linkedAt : Nat

inductive FlowEvent where
  | running
  | waiting
  | blocked
  | resumed
  | succeeded
  | failed
  | cancelRequested
  | cancelled
  | taskLinked
  | taskAdmitted
  | wakeQueued
  | wakeDelivered
  | wakeFailed
  | retentionScheduled

inductive EventType where
  | created
  | later (event : FlowEvent)

def EventType.isCreated : EventType → Bool
  | .created => true
  | .later _ => false

structure EventRow where
  flowId : String
  sequence : Nat
  eventType : EventType
  status : FlowStatus
  revision : Nat
  payload : Json
  emittedAt : Nat

structure FlowStore where
  flows : Table FlowRow.flowId
  links : Table LinkRow.taskId
  events : List EventRow

def FlowStore.empty : FlowStore where
  flows := Table.empty
  links := Table.empty
  events := []

def FlowStore.eventsOf (store : FlowStore) (flowId : String) : List EventRow :=
  entriesOf EventRow.flowId store.events flowId

def FlowStore.nextEventSequence (store : FlowStore) (flowId : String) : Nat :=
  ((store.eventsOf flowId).map EventRow.sequence).foldr max 0 + 1

def FlowStore.listEvents (store : FlowStore) (flowId : String) (limit : Nat) : List EventRow :=
  ((orderBy EventRow.sequence (store.eventsOf flowId)).reverse.take limit).reverse

/-- The writes of one transaction: an update or a record numbers its event in the flow. -/
inductive Change where
  | nothing
  | create (flow : FlowRow) (payload : Json)
  | update (flowId : String) (fields : FlowFields) (link : Option LinkRow) (event : FlowEvent)
    (payload : Json)
  | record (flowId : String) (event : FlowEvent) (payload : Json) (now : Nat)

def FlowStore.nextEvent (store : FlowStore) (flow : FlowRow) (event : FlowEvent)
    (payload : Json) (now : Nat) : EventRow where
  flowId := flow.flowId
  sequence := store.nextEventSequence flow.flowId
  eventType := .later event
  status := flow.status
  revision := flow.revision
  payload := payload
  emittedAt := now

def FlowStore.linkTask (store : FlowStore) :
    Option LinkRow → Except GoalFailure (Table LinkRow.taskId)
  | none => pure store.links
  | some link => fetch (store.links.insert link)
      (.service .flowTaskConflict "newly admitted task could not be linked to its task flow")

def FlowStore.apply (store : FlowStore) : Change → Except GoalFailure FlowStore
  | .nothing => pure store
  | .create flow payload => do
    -- `length` of a text ends at its first NUL.
    require (∀ text ∈ [flow.workspaceId, flow.ownerKey, flow.controllerId, flow.goal],
      text.toList.head? ≠ some '\x00') (.constraint "task_flows")
    let flows ← fetch (store.flows.insert flow) (.constraint "task_flows.flow_id")
    let created : EventRow :=
      { flowId := flow.flowId
        sequence := 1
        eventType := .created
        status := flow.status
        revision := flow.revision
        payload := payload
        emittedAt := flow.createdAt }
    pure { store with flows := flows, events := store.events ++ [created] }
  | .update flowId fields link event payload => do
    let flow ← fetch (store.flows.find flowId) flowNotFound
    require (flow.createdAt ≤ fields.updatedAt ∧
      ∀ ended ∈ fields.endedAt, flow.createdAt ≤ ended) (.constraint "task_flows")
    let links ← store.linkTask link
    let updated : FlowRow :=
      { flow with toFlowFields := fields, revision := flow.revision + 1 }
    pure
      { flows := store.flows.update updated
        links := links
        events := store.events ++ [store.nextEvent updated event payload fields.updatedAt] }
  | .record flowId event payload now => do
    let flow ← fetch (store.flows.find flowId) flowNotFound
    pure { store with events := store.events ++ [store.nextEvent flow event payload now] }

def bounded (value label : String) (max : Nat) : Except GoalFailure String := do
  require (trim value ≠ "" ∧ utf16Length (trim value) ≤ max) (invalidArgument ("invalid " ++ label))
  pure (trim value)

def optionalBounded (value : Option String) (label : String) (max : Nat) :
    Except GoalFailure (Option String) :=
  match value.map trim with
  | none | some "" => pure none
  | some text => do
    require (utf16Length text ≤ max) (invalidArgument ("invalid " ++ label))
    pure (some text)

def tokenLength : Token → Nat
  | .null | .flag true => 4
  | .flag false => 5
  | .undefined => 9
  | .number literal => utf16Length literal
  | .text value => jsonText value
  | _ => 1

def textLength (tokens : List Token) : Nat := (tokens.map tokenLength).sum

def assertJson (value : Json) (label : String) : Except GoalFailure Json := do
  require (textLength value.print ≤ stateLimit) (invalidArgument (label ++ " must be bounded JSON"))
  pure value

def accessDenied (message : String) : GoalFailure := .service .flowAccessDenied message

def optionalJson : Option String → Json
  | none => .null
  | some value => .text value

/-- The workspaces of the service, the workspace of each conversation and the hash. -/
structure FlowOptions where
  workspaceIds : List String
  workspaceOf : String → Option String
  sha256 : List Token → String

def digest (options : FlowOptions) (value : Json) : String := options.sha256 value.value.canonical

structure FlowRequest where
  workspaceId : String
  ownerKey : String
  flowId : String
  expectedRevision : Nat

variable (options : FlowOptions) (store : FlowStore)

def authorize (workspaceId : String) : Except GoalFailure String := do
  let normalized ← bounded workspaceId "workspaceId" 64
  require (normalized ∈ options.workspaceIds)
    (accessDenied ("workspace access denied: " ++ normalized))
  pure normalized

def owned (request : FlowRequest) : Except GoalFailure FlowRow := do
  let _ ← authorize options request.workspaceId
  let ownerKey ← bounded request.ownerKey "ownerKey" 256
  let flowId ← bounded request.flowId "flowId" 256
  let flow ← fetch (store.flows.find flowId) flowNotFound
  require (flow.workspaceId = request.workspaceId)
    (accessDenied "task flow belongs to a different workspace")
  require (flow.ownerKey = ownerKey) (accessDenied "task flow belongs to a different owner")
  pure flow

/-- The conversation that owns a new flow is one of its workspace. -/
def requireOwner (owner : Owner) : Except GoalFailure Unit := do
  let workspaceId ← fetch (options.workspaceOf owner.conversationId)
    (.service .flowNotFound "task flow owner conversation not found")
  require (workspaceId = owner.workspaceId)
    (accessDenied "task flow owner belongs to a different workspace")

def newFlow (flowId goal : String) (binding : Binding) (status : FlowStatus)
    (currentStep : Option String) (state : Json) (now : Nat) : FlowRow where
  flowId := flowId
  workspaceId := binding.owner.workspaceId
  ownerKey := binding.owner.conversationId
  controllerId := binding.controllerId
  goal := goal
  status := status
  currentStep := currentStep
  blockedTaskId := none
  blockedSummary := none
  state := state
  wait := .null
  cancelRequestedAt := none
  createdAt := now
  updatedAt := now
  endedAt := none
  cleanupAfter := none
  revision := 1

variable (options : FlowOptions)

/-- What a caller gives of a new flow, with the status it begins in. -/
structure FlowInput where
  goal : String
  currentStep : Option String
  state : Json
  running : Bool

def FlowInput.status (input : FlowInput) : FlowStatus :=
  if input.running then .running else .queued

def normalized (input : FlowInput) : Except GoalFailure FlowInput := do
  let goal ← bounded input.goal "goal" 65536
  let currentStep ← optionalBounded input.currentStep "currentStep" 256
  require (textLength input.state.value.canonical ≤ stateLimit)
    (invalidArgument "state must be bounded JSON")
  pure { input with goal := goal, currentStep := currentStep }

def deterministicFlowId (binding : Binding) (requestKey : String) : String :=
  "flow:" ++ digest options (.object [("workspaceId", .text binding.owner.workspaceId),
    ("ownerKey", .text binding.owner.conversationId),
    ("controllerId", .text binding.controllerId), ("requestKey", .text requestKey)])

def FlowInput.document (input : FlowInput) : Json :=
  .object [("goal", .text input.goal), ("currentStep", optionalJson input.currentStep),
    ("state", input.state), ("status", .text (flowText input.status))]

/-- `createManaged` of a runtime that was bound to the owner, without a hook: the flow,
whether it was there before, and what is written. -/
def createManaged (binding : Binding) (requestKey : String) (input : FlowInput) (now : Nat)
    (store : FlowStore) : Except GoalFailure (FlowRow × Bool × Change) := do
  let key ← bounded requestKey "requestKey" 128
  let request ← normalized input
  let flowId := deterministicFlowId options binding key
  let fingerprint := digest options request.document
  requireOwner options binding.owner
  match store.flows.find flowId with
  | some existing =>
    let created := (store.listEvents flowId 200).find? (fun event => event.eventType.isCreated)
    require (existing.workspaceId = binding.owner.workspaceId ∧
      existing.ownerKey = binding.owner.conversationId ∧
      existing.controllerId = binding.controllerId ∧
      created.bind (fun event => event.payload.textMember "inputHash") = some fingerprint)
      (.service .flowRequestConflict "task flow request key replayed with different input")
    pure (existing, true, .nothing)
  | none =>
    let flow := newFlow flowId request.goal binding request.status request.currentStep
      request.state now
    let payload := Json.object [("controllerId", .text binding.controllerId),
      ("requestHash", .text (digest options (.text key))), ("inputHash", .text fingerprint),
      ("currentStep", optionalJson request.currentStep)]
    pure (flow, false, .create flow payload)

/-- The input of `#mutate`: an absent field is `undefined` in the source. -/
structure FlowMutation where
  targetStatus : FlowStatus
  event : FlowEvent
  currentStep : Option (Option String) := none
  blockedTaskId : Option (Option String) := none
  blockedSummary : Option String := none
  state : Option Json := none
  wait : Json := .null
  cancelRequestedAt : Option (Option Nat) := none

/-- A blocked flow names one of its linked tasks. -/
def requireBlockedTask (store : FlowStore) (flowId : String) (blockedTaskId : Option String) :
    Except GoalFailure Unit := do
  let taskId ← fetch (blockedTaskId.filter (fun taskId => decide (taskId ≠ "")))
    (invalidArgument "blocked task flow requires blockedTaskId")
  require (∃ link ∈ store.links.rows, link.flowId = flowId ∧ link.taskId = taskId)
    (flowStateInvalid "blockedTaskId must be linked to the task flow")

def keptUnless {Given Value : Type} (kept : Value) (given : Option Given)
    (check : Given → Except GoalFailure Value) : Except GoalFailure Value :=
  match given with
  | none => pure kept
  | some value => check value

def onlyWhen {Value : Type} (condition : Prop) [Decidable condition]
    (checked : Except GoalFailure Value) (otherwise : Value) : Except GoalFailure Value :=
  if condition then checked else pure otherwise

def mutate (request : FlowRequest) (mutation : FlowMutation) (now : Nat) (store : FlowStore) :
    Except GoalFailure Change := do
  let flow ← owned options store request
  require (flow.revision = request.expectedRevision)
    (flowConflict request.expectedRevision flow.revision)
  require (flowTerminal flow.status = false)
    (flowStateInvalid ("terminal task flow cannot transition from " ++ flowText flow.status))
  require (flow.status = mutation.targetStatus ∨ allowed flow.status mutation.targetStatus = true)
    (flowStateInvalid ("invalid task flow transition " ++ flowText flow.status ++ " -> " ++
      flowText mutation.targetStatus))
  let blockedTaskId ← keptUnless flow.blockedTaskId mutation.blockedTaskId
    (fun taskId => optionalBounded taskId "blockedTaskId" 256)
  onlyWhen (mutation.targetStatus = .blocked)
    (requireBlockedTask store flow.flowId blockedTaskId) ()
  let currentStep ← keptUnless flow.currentStep mutation.currentStep
    (fun step => optionalBounded step "currentStep" 256)
  let blockedSummary ← onlyWhen (mutation.targetStatus = .blocked)
    (optionalBounded mutation.blockedSummary "blockedSummary" 4096) none
  let state ← keptUnless flow.state mutation.state (fun state => assertJson state "state")
  let wait ← onlyWhen (mutation.targetStatus = .waiting) (assertJson mutation.wait "wait") .null
  let fields : FlowFields :=
    { status := mutation.targetStatus
      currentStep := currentStep
      blockedTaskId := if mutation.targetStatus = .blocked then blockedTaskId else none
      blockedSummary := blockedSummary
      state := state
      wait := wait
      cancelRequestedAt := mutation.cancelRequestedAt.getD flow.cancelRequestedAt
      updatedAt := now
      endedAt := if flowTerminal mutation.targetStatus = true then some now else none
      cleanupAfter := flow.cleanupAfter }
  let payload := Json.object [("from", .text (flowText flow.status)),
    ("to", .text (flowText fields.status)), ("currentStep", optionalJson fields.currentStep),
    ("blockedTaskId", optionalJson fields.blockedTaskId)]
  pure (.update flow.flowId fields none mutation.event payload)

/-- `requestCancel`: the clock is read for the request and again for the transition. -/
def requestCancel (request : FlowRequest) (requestedAt now : Nat) (store : FlowStore) :
    Except GoalFailure Change := do
  let flow ← owned options store request
  if flowTerminal flow.status = true ∨ flow.cancelRequestedAt ≠ none then pure .nothing
  else
    mutate options request
      { targetStatus := flow.status
        event := .cancelRequested
        cancelRequestedAt := some (some requestedAt) } now store

/-- A call of the registry. The others link or admit a child task, record a wake of the
controller, schedule retention or create a flow under a random id: one change each. -/
inductive FlowOp where
  | createManaged (binding : Binding) (requestKey : String) (input : FlowInput) (now : Nat)
  | mutate (request : FlowRequest) (mutation : FlowMutation) (now : Nat)
  | requestCancel (request : FlowRequest) (requestedAt now : Nat)
  | other (change : Change)

def FlowOp.change (options : FlowOptions) (store : FlowStore) :
    FlowOp → Except GoalFailure Change
  | .createManaged binding requestKey input now =>
    (Registry.createManaged options binding requestKey input now store).map (fun made => made.2.2)
  | .mutate request mutation now => Registry.mutate options request mutation now store
  | .requestCancel request requestedAt now =>
    Registry.requestCancel options request requestedAt now store
  | .other change => pure change

def settle (store : FlowStore) (decided : Except GoalFailure Change) : FlowStore :=
  match decided.bind store.apply with
  | .ok reached => reached
  | .error _ => store

def step (options : FlowOptions) (store : FlowStore) (op : FlowOp) : FlowStore :=
  settle store (op.change options store)

def sampleOptions : FlowOptions where
  workspaceIds := ["main"]
  workspaceOf := fun _ => some "main"
  sha256 := fun tokens => String.ofList (tokensText tokens)

def sampleBinding : Binding := ⟨⟨"main", "c1"⟩, "goal"⟩

def sampleInput : FlowInput := ⟨"tidy up", none, .null, true⟩

def sampleFlowId : String := deterministicFlowId sampleOptions sampleBinding "k1"

def sampleStore : FlowStore :=
  step sampleOptions FlowStore.empty (.createManaged sampleBinding "k1" sampleInput 1)

end OpenRill.Flows.Registry
