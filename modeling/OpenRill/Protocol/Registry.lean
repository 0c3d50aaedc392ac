import OpenRill.Protocol.Frames

/-!
# The operation registry

The operations of the host by name. Validation and the mapping of errors to the protocol are
here; what an operation does is its own service's.
-/

namespace OpenRill.Protocol.Registry

open OpenRill.Lib OpenRill.Protocol.Frames

inductive ErrorFamily where
  | connector
  | extensionRuntime
  | goalExecutor
  | taskFlow
  | task
  | controlUi
  | approval
  | automation
  | conversation
  | other
  deriving DecidableEq

structure HostError where
  family : ErrorFamily
  code : String
  message : String
  deriving DecidableEq

def errorMap : ErrorFamily → List (String × ProtocolOperationErrorCode)
  | .connector => [
      ("CONNECTOR_INVALID_ARGUMENT", .invalidInput),
      ("CONNECTOR_ACCOUNT_NOT_FOUND", .notFound),
      ("CONNECTOR_INGRESS_NOT_FOUND", .notFound),
      ("CONNECTOR_DELIVERY_NOT_FOUND", .notFound),
      ("CONNECTOR_ALREADY_REGISTERED", .conflict),
      ("CONNECTOR_BINDING_CONFLICT", .conflict),
      ("CONNECTOR_INGRESS_CONFLICT", .conflict),
      ("CONNECTOR_DELIVERY_CONFLICT", .conflict),
      ("CONNECTOR_WORKSPACE_ACCESS_DENIED", .accessDenied)]
  | .extensionRuntime => [
      ("EXTENSION_NOT_FOUND", .notFound),
      ("EXTENSION_STATE_INVALID", .invalidState),
      ("EXTENSION_ACTIVATION_FAILED", .invalidState),
      ("EXTENSION_CAPABILITY_CONFLICT", .conflict)]
  | .goalExecutor => [
      ("GOAL_EXECUTION_NOT_FOUND", .notFound),
      ("GOAL_EXECUTION_ACCESS_DENIED", .accessDenied),
      ("GOAL_EXECUTION_REVISION_CONFLICT", .conflict),
      ("GOAL_EXECUTION_REQUEST_CONFLICT", .conflict),
      ("GOAL_EXECUTION_ALREADY_EXISTS", .conflict),
      ("GOAL_EXECUTION_STATE_INVALID", .invalidState),
      ("GOAL_EXECUTION_PLAN_INVALID", .invalidInput)]
  | .taskFlow => [
      ("TASK_FLOW_NOT_FOUND", .notFound),
      ("TASK_FLOW_ACCESS_DENIED", .accessDenied),
      ("TASK_FLOW_REVISION_CONFLICT", .conflict),
      ("TASK_FLOW_STATE_INVALID", .invalidState),
      ("TASK_FLOW_TASK_CONFLICT", .conflict),
      ("TASK_FLOW_REQUEST_CONFLICT", .conflict),
      ("TASK_FLOW_EXECUTOR_UNAVAILABLE", .invalidState),
      ("TASK_FLOW_INVALID_ARGUMENT", .invalidInput)]
  | .task => [
      ("TASK_NOT_FOUND", .notFound),
      ("TASK_ACCESS_DENIED", .accessDenied),
      ("TASK_STATE_INVALID", .invalidState),
      ("TASK_INVALID_ARGUMENT", .invalidInput)]
  | .controlUi => []
  | .approval => [
      ("APPROVAL_NOT_FOUND", .notFound),
      ("APPROVAL_VERSION_CONFLICT", .conflict),
      ("APPROVAL_STATE_INVALID", .invalidState),
      ("APPROVAL_BINDING_MISMATCH", .conflict),
      ("APPROVAL_TOOL_CALL_CONFLICT", .conflict)]
  | .automation => [
      ("AUTOMATION_JOB_NOT_FOUND", .notFound),
      ("AUTOMATION_REVISION_CONFLICT", .conflict),
      ("AUTOMATION_REQUEST_CONFLICT", .conflict),
      ("AUTOMATION_SCHEDULE_IN_PAST", .invalidState),
      ("AUTOMATION_SCHEDULER_NOT_STARTED", .invalidState),
      ("AUTOMATION_SCHEDULER_CLOSED", .invalidState),
      ("AUTOMATION_LEASE_LOST", .conflict),
      ("AUTOMATION_INVALID_ARGUMENT", .invalidInput),
      ("AUTOMATION_INVALID_SCHEDULE", .invalidInput),
      ("AUTOMATION_INVALID_TIMEZONE", .invalidInput)]
  | .conversation => [
      ("CONVERSATION_NOT_FOUND", .notFound),
      ("RUN_NOT_FOUND", .notFound),
      ("WORKSPACE_ACCESS_DENIED", .accessDenied),
      ("SUBMISSION_CONFLICT", .conflict),
      ("EVENT_SEQUENCE_CONFLICT", .conflict),
      ("EVENT_IDEMPOTENCY_CONFLICT", .conflict),
      ("RUN_STATE_INVALID", .invalidState),
      ("INVALID_ARGUMENT", .invalidInput)]
  | .other => []

def unmapped : ErrorFamily → ProtocolOperationErrorCode
  | .connector => .invalidState
  | .controlUi => .notFound
  | _ => .internalError

def protocolFailure (error : HostError) : Option ProtocolOperationError :=
  if error.family = .other then none
  else
    some {
      code := ((errorMap error.family).lookup error.code).getD (unmapped error.family)
      message := error.message
      retryable := false }

structure OperationDefinition where
  name : String
  permission : String
  validate : Json → Except String Json
  validateOutput : Json → Bool

/-- The operations in the order of their registration, no two of one name. -/
structure OperationRegistry where
  operations : List OperationDefinition
  distinct : (operations.map OperationDefinition.name).Nodup

def OperationRegistry.get (registry : OperationRegistry) (name : String) :
    Option OperationDefinition :=
  registry.operations.find? (fun definition => decide (definition.name = name))

def OperationRegistry.capabilities (registry : OperationRegistry) : List (String × String) :=
  (registry.operations.map (fun definition => (definition.name, definition.permission))).mergeSort
    (fun first second => first.1 ≤ second.1)

def failure (callId : String) (code : ProtocolOperationErrorCode) (message : String)
    (retryable : Bool) : ResultFrame where
  callId := callId
  answer := .error { code, message, retryable }
  replayed := false

/-- `invoke` until the operation is called: the call is answered at once, or the operation is
called with its validated input. -/
def OperationRegistry.invoke (registry : OperationRegistry) (callId operation : String)
    (input : Json) : Except ResultFrame (OperationDefinition × Json) :=
  match registry.get operation with
  | none =>
    .error (failure callId .operationNotFound ("unknown operation: " ++ operation) false)
  | some definition =>
    match definition.validate input with
    | .error message => .error (failure callId .invalidInput message false)
    | .ok value => .ok (definition, value)

/-- `invoke` once the operation has returned or thrown. -/
def settled (callId : String) (validateOutput : Json → Bool) (outcome : Except HostError Json) :
    ResultFrame :=
  match outcome with
  | .ok output =>
    if validateOutput output then
      { callId, answer := .ok output, replayed := false }
    else failure callId .internalError "operation returned invalid output" false
  | .error error =>
    match protocolFailure error with
    | some mapped => { callId, answer := .error mapped, replayed := false }
    | none => failure callId .internalError "operation failed" false

@[simp] theorem settled_callId (callId : String) (validateOutput : Json → Bool)
    (outcome : Except HostError Json) :
    (settled callId validateOutput outcome).callId = callId := by
  unfold settled
  split
  next => split <;> rfl
  next => split <;> rfl

theorem invoke_callId {registry : OperationRegistry} {callId operation : String} {input : Json}
    {result : ResultFrame} (answered : registry.invoke callId operation input = .error result) :
    result.callId = callId := by
  unfold OperationRegistry.invoke at answered
  split at answered
  next =>
    cases answered
    rfl
  next =>
    split at answered
    next =>
      cases answered
      rfl
    next => contradiction

end OpenRill.Protocol.Registry
