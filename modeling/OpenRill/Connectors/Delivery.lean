import OpenRill.Connectors.Ledger
import OpenRill.Lib.Text

/-!
# The delivery operations of the connector service

`enqueueDelivery`, `claimDelivery`, `markDeliveryDispatched`,
`completeDeliveryAccepted`, `completeDeliverySuppressed`, `failDelivery` and
`recoverExpiredDeliveryClaims`, each one transaction over the connector tables.
The clock reading and the identifiers of one call are its arguments, and a
worker may present any delivery id and claim token. Hashing is the parameter
`hash`; nothing here depends on its being collision free.
-/

namespace OpenRill.Connectors.Delivery

open Lib.Checked Lib.Text Ledger

structure ConnectorOptions where
  workspaceIds : List String
  hash : String → String
  deliveryLeaseMs : Nat
  maxDeliveryAttempts : Nat
  leaseBounded : 1 ≤ deliveryLeaseMs ∧ deliveryLeaseMs ≤ 15 * 60000
  attemptsBounded : 1 ≤ maxDeliveryAttempts ∧ maxDeliveryAttempts ≤ 100

def bounded (value label : String) (max : Nat) (pattern : String → Bool) :
    Except ConnectorFailure Unit :=
  require (1 ≤ utf16Length value ∧ utf16Length value ≤ max ∧ pattern value = true)
    (.service .invalidArgument ("invalid " ++ label))

def anyText (_ : String) : Bool := true

def idPattern : String → Bool := matchesIdPattern 255

def optionalBounded (value : Option String) (label : String) (max : Nat) :
    Except ConnectorFailure Unit :=
  match value with
  | none => .ok ()
  | some text => bounded text label max anyText

def positiveInteger (value : Nat) (label : String) (max : Nat) :
    Except ConnectorFailure Unit :=
  require (1 ≤ value ∧ value ≤ max)
    (.service .invalidArgument (label ++ " must be a positive integer"))

def boundedSummary (value fallback : String) : String :=
  let normalized :=
    trim (String.ofList (collapseRuns ['\r', '\n', '\t'].contains value.toList))
  sliceUnits 1000 (if normalized = "" then fallback else normalized)

def authorizeWorkspace (options : ConnectorOptions) (workspaceId : String) :
    Except ConnectorFailure Unit := do
  bounded workspaceId "workspaceId" 64 matchesWorkspacePattern
  require (workspaceId ∈ options.workspaceIds)
    (.service .workspaceAccessDenied "connector workspace access denied")

/-- The enabled account, its workspace authorized. -/
def account (options : ConnectorOptions) (tables : ConnectorTables)
    (connectorId accountId : String) : Except ConnectorFailure AccountRow := do
  let found ← fetch (tables.accounts.find (connectorId, accountId))
    (.service .accountNotFound "connector account not found")
  require (found.status = .enabled) (.service .accountDisabled "connector account is disabled")
  authorizeWorkspace options found.workspaceId
  pure found

structure RegisterInput where
  connectorId : String
  accountId : String
  workspaceId : String
  extensionId : String
  status : Option AccountStatus

def registerAccount (options : ConnectorOptions) (tables : ConnectorTables)
    (input : RegisterInput) (now : Nat) :
    Except ConnectorFailure (ConnectorTables × Unit) := do
  bounded input.connectorId "connectorId" 128 idPattern
  bounded input.accountId "accountId" 128 idPattern
  bounded input.extensionId "extensionId" 128 idPattern
  authorizeWorkspace options input.workspaceId
  let existing := tables.accounts.find (input.connectorId, input.accountId)
  require
    (∀ row ∈ existing, row.workspaceId = input.workspaceId ∧ row.extensionId = input.extensionId)
    (.service .bindingConflict "connector account ownership cannot be rebound")
  pure (upsertAccount tables
    { connectorId := input.connectorId
      accountId := input.accountId
      workspaceId := input.workspaceId
      extensionId := input.extensionId
      status := input.status.getD .enabled
      revision := 1
      createdAt := (existing.map AccountRow.createdAt).getD now
      updatedAt := now }, ())

structure DeliveryRequest where
  accountId : String
  conversationId : String
  runId : Option String
  sourceMessageId : Option String
  targetKey : String
  threadKey : Option String
  payloadVersion : Nat
  payload : String
  idempotencyKey : String
  availableAt : Option Nat
  deriving DecidableEq

/-- The request says again what the row under its idempotency key says. -/
def DeliveryRequest.repeats (request : DeliveryRequest) (hash : String → String)
    (row : DeliveryRow) : Prop :=
  row.conversationId = request.conversationId ∧ row.runId = request.runId ∧
    row.sourceMessageId = request.sourceMessageId ∧
    row.targetKey = request.targetKey ∧
    row.threadKey = request.threadKey.getD "" ∧
    row.payloadVersion = request.payloadVersion ∧
    row.payloadHash = hash request.payload ∧ row.payload = request.payload

instance (request : DeliveryRequest) (hash : String → String) (row : DeliveryRow) :
    Decidable (request.repeats hash row) := by
  unfold DeliveryRequest.repeats
  infer_instance

def DeliveryRequest.toRow (request : DeliveryRequest) (hash : String → String)
    (connectorId deliveryId : String) (now : Nat) : DeliveryRow where
  deliveryId := deliveryId
  connectorId := connectorId
  accountId := request.accountId
  conversationId := request.conversationId
  runId := request.runId
  sourceMessageId := request.sourceMessageId
  targetKey := request.targetKey
  threadKey := request.threadKey.getD ""
  payloadVersion := request.payloadVersion
  payload := request.payload
  payloadHash := hash request.payload
  idempotencyKey := request.idempotencyKey
  status := .pending
  attemptCount := 0
  availableAt := request.availableAt.getD now
  claimToken := none
  claimDeadlineAt := none
  lastErrorCode := none
  lastErrorSummary := none
  createdAt := now
  updatedAt := now
  cleanupAfter := none
  claimHeld := by simp

def validateRequest (connectorId : String) (request : DeliveryRequest) :
    Except ConnectorFailure Unit := do
  bounded connectorId "connectorId" 128 idPattern
  bounded request.accountId "accountId" 128 idPattern
  bounded request.targetKey "targetKey" 512 anyText
  optionalBounded request.threadKey "threadKey" 256
  bounded request.idempotencyKey "idempotencyKey" 256 anyText
  positiveInteger request.payloadVersion "payloadVersion" 1000000
  bounded request.conversationId "conversationId" 128 anyText
  optionalBounded request.runId "runId" 128
  optionalBounded request.sourceMessageId "sourceMessageId" 128

/-- The delivery row of the request and whether it was there already. -/
def enqueueDelivery (options : ConnectorOptions) (tables : ConnectorTables)
    (connectorId : String) (request : DeliveryRequest) (now : Nat)
    (deliveryId : String) :
    Except ConnectorFailure (ConnectorTables × DeliveryRow × Bool) := do
  validateRequest connectorId request
  let owner ← account options tables connectorId request.accountId
  let conversation ← fetch (tables.conversations.find request.conversationId)
    (.service .deliveryConflict "delivery conversation not found")
  require (conversation.workspaceId = owner.workspaceId)
    (.service .workspaceAccessDenied "delivery conversation belongs to a different workspace")
  match getDeliveryByIdempotency tables connectorId request.accountId request.idempotencyKey with
  | some existing =>
    require (request.repeats options.hash existing)
      (.service .deliveryConflict "delivery idempotency key was reused with different content")
    pure (tables, existing, true)
  | none =>
    let row := request.toRow options.hash connectorId deliveryId now
    let written ← insertDelivery tables row
    pure (written, row, false)

def deadLetter (deadLetterId connectorId accountId : String) (kind : DeadLetterKind)
    (subjectId reasonCode summary payloadHash : String) (now : Nat) :
    DeadLetterRow where
  deadLetterId := deadLetterId
  connectorId := connectorId
  accountId := accountId
  kind := kind
  subjectId := subjectId
  reasonCode := reasonCode
  summary := boundedSummary summary "connector dead letter"
  payloadHash := payloadHash
  status := .opened
  createdAt := now
  resolvedAt := none
  resolution := none

structure RecoveryCount where
  safe : Nat
  uncertain : Nat
  deriving DecidableEq

/-- How recovery ends one expired claim: an attempt that was dispatched may have
reached the provider, one that was not goes back to `PENDING`. -/
def recoveryFinish (attempt : AttemptRow) (now : Nat) : FinishInput :=
  if attempt.status = .dispatched then
    { deliveryId := attempt.deliveryId
      claimToken := attempt.claimToken
      attemptStatus := .uncertain
      deliveryStatus := .uncertain
      availableAt := now
      errorCode := some "HOST_RESTART_AFTER_DISPATCH"
      errorSummary := some
        "delivery may have been accepted before Host restart; automatic replay is forbidden"
      now := now }
  else
    { deliveryId := attempt.deliveryId
      claimToken := attempt.claimToken
      attemptStatus := .abandoned
      deliveryStatus := .pending
      availableAt := now
      errorCode := some "HOST_RESTART_BEFORE_DISPATCH"
      errorSummary := some
        "delivery claim expired before dispatch and was safely returned to pending"
      now := now }

/-- One turn of the recovery loop. The identifiers of the call are numbered by
the dead letters it has written. -/
def recoverClaim (createId : Nat → String) (now : Nat)
    (tables : ConnectorTables) (count : RecoveryCount)
    (item : DeliveryRow × AttemptRow) :
    Except ConnectorFailure (ConnectorTables × RecoveryCount) := do
  match ← finishDeliveryAttempt tables (recoveryFinish item.2 now) with
  | none => pure (tables, count)
  | some finished =>
    if item.2.status = .dispatched then
      let written ← insertDeadLetter finished
        (deadLetter (createId count.uncertain) item.1.connectorId item.1.accountId
          .delivery item.1.deliveryId "HOST_RESTART_AFTER_DISPATCH"
          "delivery may have been accepted before Host restart; automatic replay is forbidden"
          item.1.payloadHash now)
      pure (written, { count with uncertain := count.uncertain + 1 })
    else
      pure (finished, { count with safe := count.safe + 1 })

def recoverClaims (createId : Nat → String) (now : Nat) :
    List (DeliveryRow × AttemptRow) → ConnectorTables → RecoveryCount →
      Except ConnectorFailure (ConnectorTables × RecoveryCount)
  | [], tables, count => .ok (tables, count)
  | item :: items, tables, count => do
      let next ← recoverClaim createId now tables count item
      recoverClaims createId now items next.1 next.2

def recoverExpiredDeliveries (createId : Nat → String) (tables : ConnectorTables)
    (now limit : Nat) : Except ConnectorFailure (ConnectorTables × RecoveryCount) :=
  recoverClaims createId now (listExpiredDeliveryClaims tables now limit) tables
    { safe := 0
      uncertain := 0 }

def recoverExpiredDeliveryClaims (tables : ConnectorTables) (limit now : Nat)
    (createId : Nat → String) :
    Except ConnectorFailure (ConnectorTables × RecoveryCount) := do
  positiveInteger limit "limit" 1000
  recoverExpiredDeliveries createId tables now limit

/-- Recovers up to 100 expired claims, then claims the first due delivery. -/
def claimDelivery (options : ConnectorOptions) (tables : ConnectorTables)
    (connectorId accountId : String) (now : Nat) (createId : Nat → String) :
    Except ConnectorFailure (ConnectorTables × Option (DeliveryRow × AttemptRow)) := do
  bounded connectorId "connectorId" 128 idPattern
  bounded accountId "accountId" 128 idPattern
  let _ ← account options tables connectorId accountId
  let recovered ← recoverExpiredDeliveries createId tables now 100
  claimDueDelivery recovered.1
    { connectorId := connectorId
      accountId := accountId
      now := now
      claimToken := createId recovered.2.uncertain
      claimDeadlineAt := now + options.deliveryLeaseMs
      attemptId := createId (recovered.2.uncertain + 1) }

/-- What a worker presents: the delivery it holds and the token it holds it by. -/
structure DeliveryClaim where
  deliveryId : String
  claimToken : String
  deriving DecidableEq

def claimLost : ConnectorFailure :=
  .service .deliveryClaimLost "connector delivery claim was lost"

def deliveryNotFound : ConnectorFailure :=
  .service .deliveryNotFound "connector delivery not found"

def markDeliveryDispatched (tables : ConnectorTables) (claim : DeliveryClaim)
    (now : Nat) :
    Except ConnectorFailure (ConnectorTables × DeliveryRow × AttemptRow) := do
  let marked ← fetch
    (markAttemptDispatched tables claim.deliveryId claim.claimToken now)
    (.service .deliveryClaimLost "connector delivery claim was lost before dispatch")
  let delivery ← fetch (marked.1.deliveries.find claim.deliveryId) deliveryNotFound
  pure (marked.1, delivery, marked.2)

structure ProviderReceipt where
  providerMessageId : String
  providerConversationId : Option String
  providerThreadId : Option String
  receipt : String
  deriving DecidableEq

def ProviderReceipt.repeats (provider : ProviderReceipt) (hash : String → String)
    (row : ReceiptRow) : Prop :=
  row.providerMessageId = provider.providerMessageId ∧
    row.providerConversationId = provider.providerConversationId ∧
    row.providerThreadId = provider.providerThreadId ∧
    row.receiptHash = hash provider.receipt ∧ row.receipt = provider.receipt

instance (provider : ProviderReceipt) (hash : String → String) (row : ReceiptRow) :
    Decidable (provider.repeats hash row) := by
  unfold ProviderReceipt.repeats
  infer_instance

def ProviderReceipt.toRow (provider : ProviderReceipt) (hash : String → String)
    (receiptId deliveryId attemptId : String) (now : Nat) : ReceiptRow where
  receiptId := receiptId
  deliveryId := deliveryId
  attemptId := attemptId
  providerMessageId := provider.providerMessageId
  providerConversationId := provider.providerConversationId
  providerThreadId := provider.providerThreadId
  receipt := provider.receipt
  receiptHash := hash provider.receipt
  acceptedAt := now

def acceptedFinish (claim : DeliveryClaim) (now : Nat) : FinishInput where
  deliveryId := claim.deliveryId
  claimToken := claim.claimToken
  attemptStatus := .accepted
  deliveryStatus := .delivered
  availableAt := now
  errorCode := none
  errorSummary := none
  now := now

def AttemptStatus.text : AttemptStatus → String
  | .claimed => "CLAIMED"
  | .dispatched => "DISPATCHED"
  | .accepted => "ACCEPTED"
  | .rejected => "REJECTED"
  | .abandoned => "ABANDONED"
  | .uncertain => "UNCERTAIN"

def claimedAttempt (tables : ConnectorTables) (claim : DeliveryClaim) :
    Except ConnectorFailure AttemptRow := do
  let attempt ← fetch (getDeliveryAttemptByClaim tables claim.claimToken) claimLost
  require (attempt.deliveryId = claim.deliveryId) claimLost
  pure attempt

/-- A first report writes the receipt and ends the attempt; a second report of
an accepted attempt must repeat the receipt and changes nothing. -/
def completeDeliveryAccepted (options : ConnectorOptions) (tables : ConnectorTables)
    (claim : DeliveryClaim) (provider : ProviderReceipt) (now : Nat)
    (receiptId : String) :
    Except ConnectorFailure (ConnectorTables × DeliveryRow × ReceiptRow × Bool) := do
  bounded provider.providerMessageId "providerMessageId" 512 anyText
  optionalBounded provider.providerConversationId "providerConversationId" 512
  optionalBounded provider.providerThreadId "providerThreadId" 512
  let attempt ← claimedAttempt tables claim
  match attempt.status, getReceiptByAttempt tables attempt.attemptId with
  | .accepted, some existing =>
    require (provider.repeats options.hash existing)
      (.service .receiptConflict "accepted connector delivery receipt conflicts with replay")
    let current ← fetch (tables.deliveries.find claim.deliveryId) deliveryNotFound
    pure (tables, current, existing, true)
  | status, _ =>
    require (status = .dispatched)
      (.service .deliveryStateInvalid ("delivery attempt is " ++ AttemptStatus.text status))
    let row := provider.toRow options.hash receiptId claim.deliveryId attempt.attemptId now
    let receipted ← insertReceipt tables row
    let ended ← finishDeliveryAttempt receipted (acceptedFinish claim now)
    let finished ← fetch ended
      (.service .deliveryClaimLost "connector delivery claim was lost before receipt commit")
    let current ← fetch (finished.deliveries.find claim.deliveryId) deliveryNotFound
    pure (finished, current, row, false)

def suppressedFinish (claim : DeliveryClaim) (reason : String) (now : Nat) :
    FinishInput where
  deliveryId := claim.deliveryId
  claimToken := claim.claimToken
  attemptStatus := .rejected
  deliveryStatus := .suppressed
  availableAt := now
  errorCode := some "SUPPRESSED"
  errorSummary := some reason
  now := now

def completeDeliverySuppressed (tables : ConnectorTables) (claim : DeliveryClaim)
    (reasonInput : String) (now : Nat) :
    Except ConnectorFailure (ConnectorTables × DeliveryRow) := do
  let reason := boundedSummary reasonInput "connector delivery suppressed"
  let ended ← finishDeliveryAttempt tables (suppressedFinish claim reason now)
  let finished ← fetch ended claimLost
  let current ← fetch (finished.deliveries.find claim.deliveryId) deliveryNotFound
  pure (finished, current)

inductive DeliveryCertainty where
  | notSent
  | rejected
  | maybeAccepted
  deriving DecidableEq

structure FailureReport where
  errorCode : String
  summary : String
  certainty : DeliveryCertainty
  retryable : Bool
  retryAfterMs : Option Nat
  deriving DecidableEq

/-- A failure that the provider certainly refused may be tried again while
attempts remain. -/
def FailureReport.retries (report : FailureReport) (options : ConnectorOptions)
    (delivery : DeliveryRow) : Bool :=
  decide (report.certainty ≠ .maybeAccepted) && report.retryable &&
    decide (delivery.attemptCount < options.maxDeliveryAttempts)

def FailureReport.deliveryStatus (report : FailureReport) (options : ConnectorOptions)
    (delivery : DeliveryRow) : SettledStatus :=
  if report.certainty = .maybeAccepted then .uncertain
  else if report.retries options delivery then .pending
  else .dead

def failedFinish (report : FailureReport) (options : ConnectorOptions)
    (delivery : DeliveryRow) (claim : DeliveryClaim) (now : Nat) : FinishInput where
  deliveryId := delivery.deliveryId
  claimToken := claim.claimToken
  attemptStatus := if report.certainty = .maybeAccepted then .uncertain else .rejected
  deliveryStatus := report.deliveryStatus options delivery
  availableAt :=
    if report.retries options delivery then now + report.retryAfterMs.getD 1000 else now
  errorCode := some report.errorCode
  errorSummary := some (boundedSummary report.summary "connector delivery failed")
  now := now

/-- The dead letter of a delivery that will not be tried again. -/
def recordGivenUp (tables : ConnectorTables) (status : SettledStatus)
    (letter : DeadLetterRow) : Except ConnectorFailure ConnectorTables :=
  if status = .uncertain ∨ status = .dead then insertDeadLetter tables letter
  else .ok tables

def failDelivery (options : ConnectorOptions) (tables : ConnectorTables)
    (claim : DeliveryClaim) (report : FailureReport) (now : Nat)
    (deadLetterId : String) :
    Except ConnectorFailure (ConnectorTables × DeliveryRow) := do
  bounded report.errorCode "errorCode" 128 idPattern
  require (report.retryAfterMs.getD 1000 ≤ 24 * 60 * 60000)
    (.service .invalidArgument "retryAfterMs is invalid")
  let _ ← claimedAttempt tables claim
  let delivery ← fetch (tables.deliveries.find claim.deliveryId) deliveryNotFound
  let ended ← finishDeliveryAttempt tables (failedFinish report options delivery claim now)
  let finished ← fetch ended claimLost
  let written ← recordGivenUp finished (report.deliveryStatus options delivery)
    (deadLetter deadLetterId delivery.connectorId delivery.accountId .delivery
      delivery.deliveryId report.errorCode
      (boundedSummary report.summary "connector delivery failed")
      delivery.payloadHash now)
  let current ← fetch (written.deliveries.find delivery.deliveryId) deliveryNotFound
  pure (written, current)

/-- The calls that hosts and workers make, with the clock reading and the
identifiers of each. -/
inductive DeliveryOp where
  | registerAccount (input : RegisterInput) (now : Nat)
  | createConversation (row : ConversationRow)
  | enqueueDelivery (connectorId : String) (request : DeliveryRequest) (now : Nat)
      (deliveryId : String)
  | claimDelivery (connectorId accountId : String) (now : Nat) (createId : Nat → String)
  | markDeliveryDispatched (claim : DeliveryClaim) (now : Nat)
  | completeDeliveryAccepted (claim : DeliveryClaim) (provider : ProviderReceipt)
      (now : Nat) (receiptId : String)
  | completeDeliverySuppressed (claim : DeliveryClaim) (reason : String) (now : Nat)
  | failDelivery (claim : DeliveryClaim) (report : FailureReport) (now : Nat)
      (deadLetterId : String)
  | recoverExpiredDeliveryClaims (limit now : Nat) (createId : Nat → String)

def createConversation (tables : ConnectorTables) (row : ConversationRow) :
    Except ConnectorFailure (ConnectorTables × Unit) := do
  let conversations ← fetch (tables.conversations.insert row)
    (.constraint "conversations.conversation_id")
  pure ({ tables with conversations := conversations }, ())

/-- One call; a call that throws leaves the tables as they were. -/
def step (options : ConnectorOptions) (tables : ConnectorTables) :
    DeliveryOp → ConnectorTables
  | .registerAccount input now =>
    commit tables (registerAccount options tables input now)
  | .createConversation row => commit tables (createConversation tables row)
  | .enqueueDelivery connectorId request now deliveryId =>
    commit tables (enqueueDelivery options tables connectorId request now deliveryId)
  | .claimDelivery connectorId accountId now createId =>
    commit tables (claimDelivery options tables connectorId accountId now createId)
  | .markDeliveryDispatched claim now =>
    commit tables (markDeliveryDispatched tables claim now)
  | .completeDeliveryAccepted claim provider now receiptId =>
    commit tables (completeDeliveryAccepted options tables claim provider now receiptId)
  | .completeDeliverySuppressed claim reason now =>
    commit tables (completeDeliverySuppressed tables claim reason now)
  | .failDelivery claim report now deadLetterId =>
    commit tables (failDelivery options tables claim report now deadLetterId)
  | .recoverExpiredDeliveryClaims limit now createId =>
    commit tables (recoverExpiredDeliveryClaims tables limit now createId)

end OpenRill.Connectors.Delivery
