import OpenRill.Connectors.Delivery
import OpenRill.Lib.Json

/-!
# Repeated calls with a payload

`receiveIngress` and `enqueueDelivery` store a payload as its JSON text and take a
call under a key that is there for a repetition when the canonical text of its payload
has the stored digest and is that of the stored document. An undefined member is in
the canonical text and not in the document.
-/

namespace OpenRill.Connectors.PayloadReplays

open Lib Lib.Checked Ledger Delivery

/-- A row of the calls' two tables: what is stored under a key. -/
structure Stored (Content Digest : Type) where
  id : String
  key : String × String × String
  content : Content
  payload : Json
  payloadHash : Digest

structure IngressContent where
  laneKey : String
  payloadVersion : Nat
  deriving DecidableEq

structure DeliveryContent where
  conversationId : String
  runId : Option String
  sourceMessageId : Option String
  targetKey : String
  threadKey : String
  payloadVersion : Nat
  deriving DecidableEq

structure PayloadStore (Digest : Type) where
  tables : ConnectorTables
  ingress : List (Stored IngressContent Digest)
  deliveries : List (Stored DeliveryContent Digest)

structure ConnectorIngressAdmission where
  accountId : String
  externalEventId : String
  laneKey : String
  payloadVersion : Nat
  payload : JsValue

structure ConnectorDeliveryRequest where
  accountId : String
  conversationId : String
  runId : Option String
  sourceMessageId : Option String
  targetKey : String
  threadKey : Option String
  payloadVersion : Nat
  payload : JsValue
  idempotencyKey : String

variable {Content Digest : Type} [DecidableEq Content] [DecidableEq Digest]
variable (sha256 : List Token → Digest) (options : ConnectorOptions)

/-- The rows after a call, the row of its key, and whether that was there already. -/
def accept (conflict : ConnectorFailure) (rows : List (Stored Content Digest))
    (key : String × String × String) (content : Content) (payload : JsValue) (id : String) :
    Except ConnectorFailure (List (Stored Content Digest) × Stored Content Digest × Bool) :=
  match rows.find? (fun row => decide (row.key = key)) with
  | some existing => do
    require (existing.content = content ∧ existing.payloadHash = sha256 payload.canonical ∧
      existing.payload.value.canonical = payload.canonical) conflict
    pure (rows, existing, true)
  | none => do
    let document ← fetch payload.json (.constraint "payload_json")
    let row := ⟨id, key, content, document, sha256 payload.canonical⟩
    pure (rows ++ [row], row, false)

def ingressConflict : ConnectorFailure :=
  .service .ingressConflict "external event id was reused with different ingress content"

def deliveryConflict : ConnectorFailure :=
  .service .deliveryConflict "delivery idempotency key was reused with different content"

/-- The checks of `receiveIngress`. The clock's own reading always passes that on
`receivedAt`. -/
def ingressChecks (tables : ConnectorTables) (connectorId : String)
    (input : ConnectorIngressAdmission) : Except ConnectorFailure Unit := do
  bounded connectorId "connectorId" 128 idPattern
  bounded input.accountId "accountId" 128 idPattern
  bounded input.externalEventId "externalEventId" 256 anyText
  bounded input.laneKey "laneKey" 512 anyText
  positiveInteger input.payloadVersion "payloadVersion" 1000000
  let _ ← account options tables connectorId input.accountId
  pure ()

def receiveIngress (store : PayloadStore Digest) (connectorId : String)
    (input : ConnectorIngressAdmission) (ingressId : String) :
    Except ConnectorFailure (PayloadStore Digest × Stored IngressContent Digest × Bool) := do
  ingressChecks options store.tables connectorId input
  let accepted ← accept sha256 ingressConflict store.ingress
    (connectorId, input.accountId, input.externalEventId) ⟨input.laneKey, input.payloadVersion⟩
    input.payload ingressId
  pure ({ store with ingress := accepted.1 }, accepted.2)

def deliveryChecks (tables : ConnectorTables) (connectorId : String)
    (input : ConnectorDeliveryRequest) : Except ConnectorFailure Unit := do
  bounded connectorId "connectorId" 128 idPattern
  bounded input.accountId "accountId" 128 idPattern
  bounded input.targetKey "targetKey" 512 anyText
  optionalBounded input.threadKey "threadKey" 256
  bounded input.idempotencyKey "idempotencyKey" 256 anyText
  positiveInteger input.payloadVersion "payloadVersion" 1000000
  bounded input.conversationId "conversationId" 128 anyText
  optionalBounded input.runId "runId" 128
  optionalBounded input.sourceMessageId "sourceMessageId" 128
  let owner ← account options tables connectorId input.accountId
  let conversation ← fetch (tables.conversations.find input.conversationId)
    (.service .deliveryConflict "delivery conversation not found")
  require (conversation.workspaceId = owner.workspaceId)
    (.service .workspaceAccessDenied "delivery conversation belongs to a different workspace")

def enqueueDelivery (store : PayloadStore Digest) (connectorId : String)
    (input : ConnectorDeliveryRequest) (deliveryId : String) :
    Except ConnectorFailure (PayloadStore Digest × Stored DeliveryContent Digest × Bool) := do
  deliveryChecks options store.tables connectorId input
  let accepted ← accept sha256 deliveryConflict store.deliveries
    (connectorId, input.accountId, input.idempotencyKey)
    ⟨input.conversationId, input.runId, input.sourceMessageId, input.targetKey,
      input.threadKey.getD "", input.payloadVersion⟩ input.payload deliveryId
  pure ({ store with deliveries := accepted.1 }, accepted.2)

inductive PayloadCall where
  | ingress (connectorId : String) (input : ConnectorIngressAdmission) (ingressId : String)
  | delivery (connectorId : String) (input : ConnectorDeliveryRequest) (deliveryId : String)

def step (store : PayloadStore Digest) : PayloadCall → PayloadStore Digest
  | .ingress connectorId input ingressId =>
    commit store (receiveIngress sha256 options store connectorId input ingressId)
  | .delivery connectorId input deliveryId =>
    commit store (enqueueDelivery sha256 options store connectorId input deliveryId)

/-- Two payloads differ as JSON, the order of members aside. -/
def Differs (other payload : JsValue) : Prop :=
  ∃ first second, other.json = some first ∧ payload.json = some second ∧
    first.sorted ≠ second.sorted

/-- The same payload is a repetition of the stored row, and one that differs a conflict. -/
def Recognises (call : JsValue →
      Except ConnectorFailure (PayloadStore Digest × Stored Content Digest × Bool))
    (later : PayloadStore Digest) (row : Stored Content Digest) (conflict : ConnectorFailure)
    (payload other : JsValue) : Prop :=
  (other = payload → call other = .ok (later, row, true)) ∧
    (Differs other payload → call other = .error conflict)

/-- The stored document keeps the canonical text of its payload, and shares it with no
payload that differs from it. -/
def Faithful (payload other : JsValue) : Prop :=
  (other = payload → payload.Survives) ∧
    (Differs other payload → ¬ (payload.Survives ∧ other.canonical = payload.canonical))

/-- The rows of a store stay, in their order, and so do the accounts and conversations. -/
structure Grown (store later : PayloadStore Digest) : Prop where
  tables : later.tables = store.tables
  ingress : store.ingress <+: later.ingress
  deliveries : store.deliveries <+: later.deliveries

variable {sha256 options} {store reached later : PayloadStore Digest} {conflict : ConnectorFailure}
variable {rows changed : List (Stored Content Digest)} {row : Stored Content Digest}
variable {key : String × String × String} {content : Content} {payload other : JsValue}
variable {fresh : String} {replayed : Bool}

theorem accept_grows (done : accept sha256 conflict rows key content payload fresh =
    .ok (changed, row, replayed)) : rows <+: changed := by
  unfold accept at done
  split at done
  · simp only [bind_ok_iff, pure_ok_iff, Prod.mk.injEq] at done
    obtain ⟨-, -, rfl, -⟩ := done
    exact List.prefix_refl _
  · simp only [bind_ok_iff, pure_ok_iff, Prod.mk.injEq] at done
    obtain ⟨-, -, rfl, -⟩ := done
    exact List.prefix_append _ _

/-- What a call under a stored key comes to. -/
theorem accept_again (injective : Function.Injective sha256)
    (first : accept sha256 conflict rows key content payload fresh = .ok (changed, row, false))
    {grown : List (Stored Content Digest)} (kept : changed <+: grown) (other : JsValue)
    (again : String) : payload.json = some row.payload ∧
      accept sha256 conflict grown key content other again =
        if row.payload.value.canonical = payload.canonical ∧
            other.canonical = payload.canonical then .ok (grown, row, true)
        else .error conflict := by
  unfold accept at first
  split at first
  · simp only [bind_ok_iff, pure_ok_iff, Prod.mk.injEq, Bool.true_eq_false, and_false,
      exists_false] at first
  next absent =>
  simp only [bind_ok_iff, fetch_ok_iff, pure_ok_iff, Prod.mk.injEq] at first
  obtain ⟨document, isDocument, rfl, rfl, -⟩ := first
  obtain ⟨more, rfl⟩ := kept
  refine ⟨isDocument, ?_⟩
  unfold accept
  rw [List.append_assoc, List.find?_append, absent, Option.none_or, List.singleton_append,
    List.find?_cons_of_pos (by simp)]
  dsimp only
  unfold require
  by_cases sameText : other.canonical = payload.canonical
  · by_cases stands : document.value.canonical = payload.canonical
    · rw [if_pos ⟨rfl, congrArg sha256 sameText.symm, stands.trans sameText.symm⟩,
        if_pos ⟨stands, sameText⟩]
      rfl
    · rw [if_neg fun holds => stands (holds.2.2.trans sameText), if_neg fun holds => stands holds.1]
      rfl
  · rw [if_neg fun holds => sameText (injective holds.2.1).symm,
      if_neg fun holds => sameText holds.2]
    rfl

theorem step_grows (store : PayloadStore Digest) (call : PayloadCall) :
    Grown store (step sha256 options store call) := by
  have unchanged : Grown store store := ⟨rfl, List.prefix_refl _, List.prefix_refl _⟩
  cases call with
  | ingress connectorId input ingressId =>
    refine commit_preserves (Grown store) store _ unchanged fun reached _ done => ?_
    simp only [receiveIngress, bind_ok_iff, pure_ok_iff, Prod.mk.injEq] at done
    obtain ⟨-, -, admitted, isAdmitted, rfl, -⟩ := done
    exact ⟨rfl, accept_grows isAdmitted, List.prefix_refl _⟩
  | delivery connectorId input deliveryId =>
    refine commit_preserves (Grown store) store _ unchanged fun reached _ done => ?_
    simp only [enqueueDelivery, bind_ok_iff, pure_ok_iff, Prod.mk.injEq] at done
    obtain ⟨-, -, admitted, isAdmitted, rfl, -⟩ := done
    exact ⟨rfl, List.prefix_refl _, accept_grows isAdmitted⟩

theorem run_grows (store : PayloadStore Digest) (calls : List PayloadCall) :
    Grown store (calls.foldl (step sha256 options) store) := by
  induction calls generalizing store with
  | nil => exact ⟨rfl, List.prefix_refl _, List.prefix_refl _⟩
  | cons call calls ih =>
    have first := @step_grows _ _ sha256 options store call
    have rest := ih (step sha256 options store call)
    exact ⟨rest.tables.trans first.tables, first.ingress.trans rest.ingress,
      first.deliveries.trans rest.deliveries⟩

omit [DecidableEq Content] [DecidableEq Digest] in
theorem recognises_iff {call : JsValue →
      Except ConnectorFailure (PayloadStore Digest × Stored Content Digest × Bool)}
    (isDocument : payload.json = some row.payload)
    (answers : call other =
      if row.payload.value.canonical = payload.canonical ∧ other.canonical = payload.canonical then
        .ok (later, row, true)
      else .error conflict) :
    Recognises call later row conflict payload other ↔ Faithful payload other := by
  have survives : payload.Survives ↔ row.payload.value.canonical = payload.canonical := by
    constructor
    · rintro ⟨document, isStored, same⟩
      rw [isDocument, Option.some.injEq] at isStored
      rw [isStored, same]
    · exact fun same => ⟨row.payload, isDocument, same.symm⟩
  unfold Recognises Faithful
  rw [answers, survives]
  constructor
  · rintro ⟨replays, refuses⟩
    constructor
    · intro isSame
      by_contra lost
      have replayed := replays isSame
      rw [if_neg fun holds => lost holds.1] at replayed
      cases replayed
    · intro differs holds
      have refused := refuses differs
      rw [if_pos holds] at refused
      cases refused
  · rintro ⟨kept, apart⟩
    constructor
    · intro isSame
      rw [if_pos ⟨kept isSame, congrArg _ isSame⟩]
    · intro differs
      rw [if_neg (apart differs)]

def oneWorkspace : ConnectorOptions := ⟨["main"], id, 1000, 3, by decide, by decide⟩

def openStore : PayloadStore (List Token) where
  tables := upsertAccount .empty ⟨"c", "a", "main", "e", .enabled, 1, 0, 0⟩
  ingress := []
  deliveries := []

def event (payload : JsValue) : ConnectorIngressAdmission := ⟨"a", "e1", "lane", 1, payload⟩

end OpenRill.Connectors.PayloadReplays
