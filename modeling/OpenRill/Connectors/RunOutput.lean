import OpenRill.Connectors.DispatchOnce
import OpenRill.Retention.Deliveries
import OpenRill.State.RunStatus

/-!
# Projecting the output of a run to its connector

`projectRunOutput` and the startup rescan `recoverRunOutputs`, over the
connector tables, the tombstones that retention leaves and the execution context
of every run. The conversation service is the environment of this module: it
may change the context of a run at any time. Admission of an external event is
one operation, which stores the adopted ingress of a new run and its binding.
-/

namespace OpenRill.Connectors.RunOutput

open Lib Lib.Checked Lib.Text State Ledger Delivery Retention.Deliveries

/-- The content of a message as far as the projection tells contents apart. -/
inductive MessageContent where
  | assistant (text : String)
  | text (text : String)
  | other
  deriving DecidableEq

structure ContextMessage where
  fromAssistant : Bool
  content : MessageContent
  deriving DecidableEq

/-- The execution context of a run; its messages are those of the whole
conversation. -/
structure RunContext where
  runId : String
  conversationId : String
  status : RunStatus
  messages : List ContextMessage
  deriving DecidableEq

def MessageContent.completion : MessageContent → String
  | .assistant body => trim body
  | .text body => trim body
  | .other => ""

def completionText (messages : List ContextMessage) : String :=
  match messages.reverse.find? (fun message =>
      message.fromAssistant && decide (message.content.completion ≠ "")) with
  | some message => message.content.completion
  | none => ""

def hexDigit (value : Nat) : Char :=
  if value < 10 then Char.ofNat (48 + value) else Char.ofNat (87 + value)

def escapeChar (char : Char) : List Char :=
  if char = '"' then ['\\', '"']
  else if char = '\\' then ['\\', '\\']
  else if char.toNat = 8 then ['\\', 'b']
  else if char.toNat = 9 then ['\\', 't']
  else if char.toNat = 10 then ['\\', 'n']
  else if char.toNat = 12 then ['\\', 'f']
  else if char.toNat = 13 then ['\\', 'r']
  else if char.toNat < 32 then
    ['\\', 'u', '0', '0', hexDigit (char.toNat / 16), hexDigit (char.toNat % 16)]
  else [char]

/-- The canonical text of the payload that carries `text`. -/
def textPayload (text : String) : String :=
  "\x7b\"text\":\"" ++ String.ofList (text.toList.flatMap escapeChar) ++ "\",\"type\":\"text\"\x7d"

def runOutputKey (runId : String) : String := "run:" ++ runId ++ ":assistant-final:v1"

inductive ProjectionFailure where
  | runNotFound
  | connector (failure : ConnectorFailure)
  deriving DecidableEq

structure OutputState where
  tables : ConnectorTables
  tombstones : Table TombstoneRow.entityKey
  runs : Table RunContext.runId

def OutputState.empty : OutputState where
  tables := ConnectorTables.empty
  tombstones := Table.empty
  runs := Table.empty

/-- `ORDER BY received_at DESC, ingress_id DESC`. -/
def receivedAfter (first second : IngressRow) : Prop :=
  second.receivedAt < first.receivedAt ∨
    (first.receivedAt = second.receivedAt ∧ second.ingressId ≤ first.ingressId)

instance : DecidableRel receivedAfter := fun first second => by
  unfold receivedAfter
  infer_instance

def getIngressByRunId (tables : ConnectorTables) (runId : String) : Option IngressRow :=
  ((tables.ingress.rows.filter (fun row =>
    decide (row.runId = some runId))).insertionSort receivedAfter).head?

/-- What a projection found: no connector run, a reason not to deliver, or the
request to enqueue for a connector. -/
inductive ProjectionPlan where
  | notConnectorRun
  | notDeliverable (reason : String)
  | enqueue (connectorId : String) (request : DeliveryRequest)
  deriving DecidableEq

def runStatusText : RunStatus → String
  | .created => "CREATED"
  | .running => "RUNNING"
  | .waitingApproval => "WAITING_APPROVAL"
  | .completed => "COMPLETED"
  | .failed => "FAILED"
  | .cancelled => "CANCELLED"

def outputRequest (ingress : IngressRow) (binding : BindingRow) (runId text : String) :
    DeliveryRequest where
  accountId := ingress.accountId
  conversationId := binding.conversationId
  runId := some runId
  sourceMessageId := none
  targetKey := binding.externalConversationId
  threadKey := if binding.externalThreadId = "" then none else some binding.externalThreadId
  payloadVersion := 1
  payload := textPayload text
  idempotencyKey := runOutputKey runId
  availableAt := none

/-- The reads and guards of `projectRunOutput` before it enqueues. -/
def planRunOutput (tables : ConnectorTables) (context : RunContext) : ProjectionPlan :=
  match getIngressByRunId tables context.runId with
  | none => .notConnectorRun
  | some ingress =>
    if context.status ≠ .completed then
      .notDeliverable ("run is " ++ runStatusText context.status)
    else if completionText context.messages = "" then
      .notDeliverable "run has no completion text"
    else
      match ingress.status, ingress.bindingId with
      | .adopted, some bindingId =>
        match tables.bindings.find bindingId with
        | none =>
          .notDeliverable "connector binding is unavailable or conflicts with the Run"
        | some binding =>
          if binding.conversationId = context.conversationId then
            .enqueue ingress.connectorId
              (outputRequest ingress binding context.runId (completionText context.messages))
          else
            .notDeliverable "connector binding is unavailable or conflicts with the Run"
      | _, _ => .notDeliverable "connector ingress is not adopted"

inductive RunProjection where
  | notConnectorRun
  | notDeliverable (reason : String)
  | delivery (connectorId accountId : String) (row : DeliveryRow) (replayed : Bool)

def projectRunOutput (options : ConnectorOptions) (state : OutputState) (runId : String)
    (now : Nat) (deliveryId : String) :
    Except ProjectionFailure (OutputState × RunProjection) := do
  let _ ← (bounded runId "runId" 128 idPattern).mapError .connector
  let context ← fetch (state.runs.find runId) .runNotFound
  match planRunOutput state.tables context with
  | .notConnectorRun => pure (state, .notConnectorRun)
  | .notDeliverable reason => pure (state, .notDeliverable reason)
  | .enqueue connectorId request => do
      let queued ← (enqueueDelivery options state.tables connectorId request now
        deliveryId).mapError .connector
      pure ({ state with tables := queued.1 },
        .delivery connectorId request.accountId queued.2.1 queued.2.2)

structure OutputRecovery where
  projected : Nat
  replayed : Nat
  skipped : Nat
  deliveries : List (String × String × String)
  deriving DecidableEq

def OutputRecovery.noted (count : OutputRecovery) : RunProjection → OutputRecovery
  | .delivery connectorId accountId row true =>
    { count with
      replayed := count.replayed + 1
      deliveries := count.deliveries ++ [(connectorId, accountId, row.deliveryId)] }
  | .delivery connectorId accountId row false =>
    { count with
      projected := count.projected + 1
      deliveries := count.deliveries ++ [(connectorId, accountId, row.deliveryId)] }
  | _ => { count with skipped := count.skipped + 1 }

/-- The rescan loop. Every projection commits by itself, so a projection that
throws ends the loop and keeps what the earlier ones wrote. -/
def recoverEach (options : ConnectorOptions) (createId : Nat → String) (now : Nat) :
    List IngressRow → List String → OutputState → OutputRecovery →
      OutputState × Except ProjectionFailure OutputRecovery
  | [], _, state, count => (state, .ok count)
  | ingress :: rows, seen, state, count =>
    match ingress.runId with
    | none =>
      recoverEach options createId now rows seen state { count with skipped := count.skipped + 1 }
    | some runId =>
      if runId ∈ seen then
        recoverEach options createId now rows seen state { count with skipped := count.skipped + 1 }
      else
        match projectRunOutput options state runId now (createId count.projected) with
        | .error failure => (state, .error failure)
        | .ok (next, projection) =>
          recoverEach options createId now rows (runId :: seen) next (count.noted projection)

/-- `listIngress({ status: "ADOPTED", limit })`. -/
def adoptedIngress (tables : ConnectorTables) (limit : Nat) : List IngressRow :=
  ((tables.ingress.rows.filter (fun row =>
    decide (row.status = .adopted))).insertionSort receivedAfter).take limit

/-- `recoverRunOutputs()` with its default limit of one thousand. -/
def recoverRunOutputs (options : ConnectorOptions) (state : OutputState)
    (now : Nat) (createId : Nat → String) :
    OutputState × Except ProjectionFailure OutputRecovery :=
  recoverEach options createId now (adoptedIngress state.tables 1000) [] state
    { projected := 0, replayed := 0, skipped := 0, deliveries := [] }

/-- What delivery workers do: every delivery operation but an enqueue. -/
inductive WorkerOp where
  | registerAccount (input : RegisterInput) (now : Nat)
  | createConversation (row : ConversationRow)
  | claimDelivery (connectorId accountId : String) (now : Nat) (createId : Nat → String)
  | markDeliveryDispatched (claim : DeliveryClaim) (now : Nat)
  | completeDeliveryAccepted (claim : DeliveryClaim) (provider : ProviderReceipt)
      (now : Nat) (receiptId : String)
  | completeDeliverySuppressed (claim : DeliveryClaim) (reason : String) (now : Nat)
  | failDelivery (claim : DeliveryClaim) (report : FailureReport) (now : Nat)
      (deadLetterId : String)
  | recoverExpiredDeliveryClaims (limit now : Nat) (createId : Nat → String)

def WorkerOp.toDeliveryOp : WorkerOp → DeliveryOp
  | .registerAccount input now => .registerAccount input now
  | .createConversation row => .createConversation row
  | .claimDelivery connectorId accountId now createId =>
    .claimDelivery connectorId accountId now createId
  | .markDeliveryDispatched claim now => .markDeliveryDispatched claim now
  | .completeDeliveryAccepted claim provider now receiptId =>
    .completeDeliveryAccepted claim provider now receiptId
  | .completeDeliverySuppressed claim reason now =>
    .completeDeliverySuppressed claim reason now
  | .failDelivery claim report now deadLetterId =>
    .failDelivery claim report now deadLetterId
  | .recoverExpiredDeliveryClaims limit now createId =>
    .recoverExpiredDeliveryClaims limit now createId

inductive OutputOp where
  | worker (op : WorkerOp)
  | setRunContext (context : RunContext)
  | admitIngress (ingress : IngressRow) (binding : BindingRow)
  | projectRunOutput (runId : String) (now : Nat) (deliveryId : String)
  | recoverRunOutputs (now : Nat) (createId : Nat → String)
  | scheduleRetention (workspaceId : String) (retentionMs limit : Nat)
  | prune (deliveryId : String) (now : Nat)

def setRunContext (state : OutputState) (context : RunContext) : OutputState :=
  match state.runs.find context.runId with
  | some _ => { state with runs := state.runs.update context }
  | none =>
    match state.runs.insert context with
    | some runs => { state with runs := runs }
    | none => state

/-- An adopted external event has a run of its own: its submission key is made
from the event's identity. -/
def admitIngress (state : OutputState) (ingress : IngressRow) (binding : BindingRow) :
    OutputState :=
  if ingress.status = .adopted ∧
      (∀ other ∈ state.tables.ingress.rows, other.runId ≠ ingress.runId) then
    match state.tables.ingress.insert ingress with
    | none => state
    | some rows =>
      match state.tables.bindings.insert binding with
      | none => { state with tables := { state.tables with ingress := rows } }
      | some bindings =>
        { state with
          tables :=
            { state.tables with ingress := rows, bindings := bindings } }
  else state

def step (options : ConnectorOptions) (state : OutputState) : OutputOp → OutputState
  | .worker op =>
    { state with tables := Delivery.step options state.tables op.toDeliveryOp }
  | .setRunContext context => setRunContext state context
  | .admitIngress ingress binding => admitIngress state ingress binding
  | .projectRunOutput runId now deliveryId =>
    commit state (projectRunOutput options state runId now deliveryId)
  | .recoverRunOutputs now createId => (recoverRunOutputs options state now createId).1
  | .scheduleRetention workspaceId retentionMs limit =>
    { state with
      tables := scheduleConnectorDeliveryRetention state.tables workspaceId retentionMs limit }
  | .prune deliveryId now =>
    match pruneDelivery state.tables state.tombstones deliveryId now with
    | .error _ => state
    | .ok ((tables, tombstones), _) =>
      { state with tables := tables, tombstones := tombstones }

end OpenRill.Connectors.RunOutput
