import OpenRill.Lib.Checked
import OpenRill.Lib.Table
import OpenRill.State.Failure
import Mathlib.Data.List.Sort

/-!
# The connector tables and their repository

Rows of the connector accounts, deliveries, delivery attempts, receipts and
dead letters, with the constraints their tables declare, and the statements of
`StateConnectorRepository` that the delivery path executes. A payload stands by
its canonical JSON text, so comparing two payloads is comparing their texts.
The ingress and binding tables carry the columns the output projection reads.
-/

namespace OpenRill.Connectors.Ledger

open Lib Lib.Checked State

inductive ConnectorErrorCode where
  | invalidArgument
  | accountNotFound
  | accountDisabled
  | workspaceAccessDenied
  | bindingConflict
  | ingressConflict
  | deliveryNotFound
  | deliveryConflict
  | deliveryStateInvalid
  | deliveryClaimLost
  | receiptConflict
  deriving DecidableEq

abbrev ConnectorFailure := Failure ConnectorErrorCode

inductive AccountStatus where
  | enabled
  | disabled
  deriving DecidableEq

structure AccountRow where
  connectorId : String
  accountId : String
  workspaceId : String
  extensionId : String
  status : AccountStatus
  revision : Nat
  createdAt : Nat
  updatedAt : Nat
  deriving DecidableEq

def AccountRow.accountKey (row : AccountRow) : String × String :=
  (row.connectorId, row.accountId)

structure BindingRow where
  bindingId : String
  externalConversationId : String
  externalThreadId : String
  conversationId : String
  deriving DecidableEq

inductive IngressStatus where
  | received
  | claimed
  | adopted
  | ignored
  | dead
  deriving DecidableEq

structure IngressRow where
  ingressId : String
  connectorId : String
  accountId : String
  status : IngressStatus
  bindingId : Option String
  runId : Option String
  receivedAt : Nat
  deriving DecidableEq

inductive DeliveryStatus where
  | pending
  | delivering
  | delivered
  | suppressed
  | uncertain
  | dead
  deriving DecidableEq

inductive SettledStatus where
  | pending
  | delivered
  | suppressed
  | uncertain
  | dead
  deriving DecidableEq

def SettledStatus.toStatus : SettledStatus → DeliveryStatus
  | .pending => .pending
  | .delivered => .delivered
  | .suppressed => .suppressed
  | .uncertain => .uncertain
  | .dead => .dead

theorem SettledStatus.toStatus_ne_delivering (status : SettledStatus) :
    status.toStatus ≠ .delivering := by
  cases status <;> simp [SettledStatus.toStatus]

/-- A delivery row; `claimHeld` is the table's CHECK, so a row that is
`DELIVERING` without a claim, or claimed in another status, cannot be built. -/
structure DeliveryRow where
  deliveryId : String
  connectorId : String
  accountId : String
  conversationId : String
  runId : Option String
  sourceMessageId : Option String
  targetKey : String
  threadKey : String
  payloadVersion : Nat
  payload : String
  payloadHash : String
  idempotencyKey : String
  status : DeliveryStatus
  attemptCount : Nat
  availableAt : Nat
  claimToken : Option String
  claimDeadlineAt : Option Nat
  lastErrorCode : Option String
  lastErrorSummary : Option String
  createdAt : Nat
  updatedAt : Nat
  cleanupAfter : Option Nat
  claimHeld : status = .delivering ↔ (claimToken.isSome ∧ claimDeadlineAt.isSome)
  deriving DecidableEq

inductive AttemptStatus where
  | claimed
  | dispatched
  | accepted
  | rejected
  | abandoned
  | uncertain
  deriving DecidableEq

/-- `status IN ('CLAIMED', 'DISPATCHED')`. -/
def AttemptStatus.live : AttemptStatus → Bool
  | .claimed => true
  | .dispatched => true
  | _ => false

/-- `Exclude<LedgerConnectorDeliveryAttemptStatus, "CLAIMED" | "DISPATCHED">`. -/
inductive EndedStatus where
  | accepted
  | rejected
  | abandoned
  | uncertain
  deriving DecidableEq

def EndedStatus.toStatus : EndedStatus → AttemptStatus
  | .accepted => .accepted
  | .rejected => .rejected
  | .abandoned => .abandoned
  | .uncertain => .uncertain

@[simp] theorem EndedStatus.toStatus_not_live (status : EndedStatus) :
    status.toStatus.live = false := by
  cases status <;> rfl

structure AttemptRow where
  attemptId : String
  deliveryId : String
  attemptNumber : Nat
  claimToken : String
  requestHash : String
  status : AttemptStatus
  errorCode : Option String
  errorSummary : Option String
  startedAt : Nat
  dispatchedAt : Option Nat
  endedAt : Option Nat
  deriving DecidableEq

structure ReceiptRow where
  receiptId : String
  deliveryId : String
  attemptId : String
  providerMessageId : String
  providerConversationId : Option String
  providerThreadId : Option String
  receipt : String
  receiptHash : String
  acceptedAt : Nat
  deriving DecidableEq

inductive DeadLetterKind where
  | ingress
  | delivery
  deriving DecidableEq

inductive DeadLetterStatus where
  | opened
  | resolved
  deriving DecidableEq

structure DeadLetterRow where
  deadLetterId : String
  connectorId : String
  accountId : String
  kind : DeadLetterKind
  subjectId : String
  reasonCode : String
  summary : String
  payloadHash : String
  status : DeadLetterStatus
  createdAt : Nat
  resolvedAt : Option Nat
  resolution : Option String
  deriving DecidableEq

structure ConversationRow where
  conversationId : String
  workspaceId : String
  deriving DecidableEq

structure ConnectorTables where
  accounts : Table AccountRow.accountKey
  conversations : Table ConversationRow.conversationId
  bindings : Table BindingRow.bindingId
  ingress : Table IngressRow.ingressId
  deliveries : Table DeliveryRow.deliveryId
  attempts : Table AttemptRow.attemptId
  receipts : Table ReceiptRow.receiptId
  deadLetters : Table DeadLetterRow.deadLetterId

def ConnectorTables.empty : ConnectorTables where
  accounts := Table.empty
  conversations := Table.empty
  bindings := Table.empty
  ingress := Table.empty
  deliveries := Table.empty
  attempts := Table.empty
  receipts := Table.empty
  deadLetters := Table.empty

def upsertAccount (tables : ConnectorTables) (row : AccountRow) : ConnectorTables :=
  match tables.accounts.find row.accountKey with
  | some existing =>
    { tables with
      accounts := tables.accounts.update
        { row with revision := existing.revision + 1, createdAt := existing.createdAt } }
  | none =>
    match tables.accounts.insert row with
    | some accounts => { tables with accounts := accounts }
    | none => tables

def getDeliveryByIdempotency (tables : ConnectorTables)
    (connectorId accountId idempotencyKey : String) : Option DeliveryRow :=
  tables.deliveries.rows.find? (fun row =>
    decide (row.connectorId = connectorId ∧ row.accountId = accountId ∧
      row.idempotencyKey = idempotencyKey))

/-- The insert meets the primary key and `UNIQUE (connector_id, account_id,
idempotency_key)`. -/
def insertDelivery (tables : ConnectorTables) (row : DeliveryRow) :
    Except ConnectorFailure ConnectorTables := do
  require
    (getDeliveryByIdempotency tables row.connectorId row.accountId row.idempotencyKey = none)
    (.constraint "connector_deliveries.idempotency_key")
  let deliveries ← fetch (tables.deliveries.insert row)
    (.constraint "connector_deliveries.delivery_id")
  pure { tables with deliveries := deliveries }

/-- `ORDER BY created_at, delivery_id`. -/
def createdBefore (first second : DeliveryRow) : Prop :=
  first.createdAt < second.createdAt ∨
    (first.createdAt = second.createdAt ∧ first.deliveryId ≤ second.deliveryId)

instance : DecidableRel createdBefore := fun first second => by
  unfold createdBefore
  infer_instance

def dueDelivery (tables : ConnectorTables) (connectorId accountId : String)
    (now : Nat) : Option DeliveryRow :=
  ((tables.deliveries.rows.filter (fun row =>
    decide (row.connectorId = connectorId ∧ row.accountId = accountId ∧
      row.status = .pending ∧ row.availableAt ≤ now))).insertionSort createdBefore).head?

structure ClaimInput where
  connectorId : String
  accountId : String
  now : Nat
  claimToken : String
  claimDeadlineAt : Nat
  attemptId : String

def DeliveryRow.claimedBy (row : DeliveryRow) (input : ClaimInput) : DeliveryRow :=
  { row with
    status := .delivering
    attemptCount := row.attemptCount + 1
    claimToken := some input.claimToken
    claimDeadlineAt := some input.claimDeadlineAt
    updatedAt := input.now
    lastErrorCode := none
    lastErrorSummary := none
    claimHeld := by simp }

def ClaimInput.attemptFor (input : ClaimInput) (row : DeliveryRow) : AttemptRow where
  attemptId := input.attemptId
  deliveryId := row.deliveryId
  attemptNumber := row.attemptCount + 1
  claimToken := input.claimToken
  requestHash := row.payloadHash
  status := .claimed
  errorCode := none
  errorSummary := none
  startedAt := input.now
  dispatchedAt := none
  endedAt := none

/-- The insert meets the primary key, `UNIQUE (claim_token)` and `UNIQUE
(delivery_id, attempt_number)`. -/
def insertAttempt (tables : ConnectorTables) (row : AttemptRow) :
    Except ConnectorFailure ConnectorTables := do
  require (∀ other ∈ tables.attempts.rows, other.claimToken ≠ row.claimToken)
    (.constraint "connector_delivery_attempts.claim_token")
  require
    (∀ other ∈ tables.attempts.rows,
      ¬ (other.deliveryId = row.deliveryId ∧ other.attemptNumber = row.attemptNumber))
    (.constraint "connector_delivery_attempts.attempt_number")
  let attempts ← fetch (tables.attempts.insert row)
    (.constraint "connector_delivery_attempts.attempt_id")
  pure { tables with attempts := attempts }

/-- `claimDelivery` of the repository: the due delivery becomes `DELIVERING`
under the token and a `CLAIMED` attempt is inserted. -/
def claimDueDelivery (tables : ConnectorTables) (input : ClaimInput) :
    Except ConnectorFailure (ConnectorTables × Option (DeliveryRow × AttemptRow)) :=
  match dueDelivery tables input.connectorId input.accountId input.now with
  | none => .ok (tables, none)
  | some candidate => do
      let claimed := candidate.claimedBy input
      let attempt := input.attemptFor candidate
      let written ← insertAttempt
        { tables with deliveries := tables.deliveries.update claimed } attempt
      pure (written, some (claimed, attempt))

def getDeliveryAttemptByClaim (tables : ConnectorTables) (claimToken : String) :
    Option AttemptRow :=
  tables.attempts.rows.find? (fun row => decide (row.claimToken = claimToken))

def AttemptRow.markedDispatched (row : AttemptRow) (now : Nat) : AttemptRow :=
  { row with status := .dispatched, dispatchedAt := some now }

/-- `markDeliveryDispatched` of the repository; `none` when no `CLAIMED` attempt
of the delivery carries the token. -/
def markAttemptDispatched (tables : ConnectorTables) (deliveryId claimToken : String)
    (now : Nat) : Option (ConnectorTables × AttemptRow) :=
  match getDeliveryAttemptByClaim tables claimToken with
  | none => none
  | some attempt =>
    if attempt.deliveryId = deliveryId ∧ attempt.status = .claimed then
      let dispatched := attempt.markedDispatched now
      some ({ tables with attempts := tables.attempts.update dispatched }, dispatched)
    else none

structure FinishInput where
  deliveryId : String
  claimToken : String
  attemptStatus : EndedStatus
  deliveryStatus : SettledStatus
  availableAt : Nat
  errorCode : Option String
  errorSummary : Option String
  now : Nat

def AttemptRow.endedBy (row : AttemptRow) (input : FinishInput) : AttemptRow :=
  { row with
    status := input.attemptStatus.toStatus
    errorCode := input.errorCode
    errorSummary := input.errorSummary
    endedAt := some input.now }

def DeliveryRow.settledBy (row : DeliveryRow) (input : FinishInput) : DeliveryRow :=
  { row with
    status := input.deliveryStatus.toStatus
    availableAt := input.availableAt
    claimToken := none
    claimDeadlineAt := none
    lastErrorCode := input.errorCode
    lastErrorSummary := input.errorSummary
    updatedAt := input.now
    claimHeld := by simp [SettledStatus.toStatus_ne_delivering] }

/-- Ends the live attempt that carries the token and settles its delivery.
`none` is the source's `false`: no live attempt of the delivery carries it. -/
def finishDeliveryAttempt (tables : ConnectorTables) (input : FinishInput) :
    Except ConnectorFailure (Option ConnectorTables) :=
  match getDeliveryAttemptByClaim tables input.claimToken with
  | none => .ok none
  | some attempt =>
    if attempt.deliveryId = input.deliveryId ∧ attempt.status.live then do
      let lost : ConnectorFailure :=
        .state .schemaInconsistent "connector delivery claim disappeared while finishing attempt"
      let delivery ← fetch (tables.deliveries.find input.deliveryId) lost
      require
        (delivery.status = .delivering ∧ delivery.claimToken = some input.claimToken)
        lost
      pure (some
        { tables with
          attempts := tables.attempts.update (attempt.endedBy input)
          deliveries := tables.deliveries.update (delivery.settledBy input) })
    else .ok none

def getReceiptByAttempt (tables : ConnectorTables) (attemptId : String) :
    Option ReceiptRow :=
  tables.receipts.rows.find? (fun row => decide (row.attemptId = attemptId))

/-- The insert meets the primary key, `UNIQUE (attempt_id)` and `UNIQUE
(delivery_id, provider_message_id)`. -/
def insertReceipt (tables : ConnectorTables) (row : ReceiptRow) :
    Except ConnectorFailure ConnectorTables := do
  require (getReceiptByAttempt tables row.attemptId = none)
    (.constraint "connector_delivery_receipts.attempt_id")
  require
    (∀ other ∈ tables.receipts.rows,
      ¬ (other.deliveryId = row.deliveryId ∧ other.providerMessageId = row.providerMessageId))
    (.constraint "connector_delivery_receipts.provider_message_id")
  let receipts ← fetch (tables.receipts.insert row)
    (.constraint "connector_delivery_receipts.receipt_id")
  pure { tables with receipts := receipts }

/-- `INSERT … ON CONFLICT(kind, subject_id) DO UPDATE`: a subject has one dead
letter, reopened by a later one. -/
def insertDeadLetter (tables : ConnectorTables) (row : DeadLetterRow) :
    Except ConnectorFailure ConnectorTables :=
  match tables.deadLetters.rows.find? (fun other =>
      decide (other.kind = row.kind ∧ other.subjectId = row.subjectId)) with
  | some existing =>
    .ok
      { tables with
        deadLetters := tables.deadLetters.update
          { existing with
            reasonCode := row.reasonCode
            summary := row.summary
            payloadHash := row.payloadHash
            status := .opened
            resolvedAt := none
            resolution := none } }
  | none => do
      let deadLetters ← fetch (tables.deadLetters.insert row)
        (.constraint "connector_dead_letters.dead_letter_id")
      pure { tables with deadLetters := deadLetters }

/-- `ORDER BY claim_deadline_at, delivery_id` over joined claims. -/
def expiresBefore (first second : DeliveryRow × AttemptRow) : Prop :=
  first.1.claimDeadlineAt.getD 0 < second.1.claimDeadlineAt.getD 0 ∨
    (first.1.claimDeadlineAt.getD 0 = second.1.claimDeadlineAt.getD 0 ∧
      first.1.deliveryId ≤ second.1.deliveryId)

instance : DecidableRel expiresBefore := fun first second => by
  unfold expiresBefore
  infer_instance

/-- The deliveries whose claim deadline has passed, each joined with its live
attempt. -/
def listExpiredDeliveryClaims (tables : ConnectorTables) (now limit : Nat) :
    List (DeliveryRow × AttemptRow) :=
  ((tables.deliveries.rows.flatMap (fun delivery =>
    (tables.attempts.rows.filter (fun attempt =>
      decide (attempt.deliveryId = delivery.deliveryId ∧
        delivery.claimToken = some attempt.claimToken ∧
        delivery.status = .delivering ∧
        delivery.claimDeadlineAt.getD 0 ≤ now) && attempt.status.live)).map
      (fun attempt => (delivery, attempt)))).insertionSort expiresBefore).take limit

end OpenRill.Connectors.Ledger
