import OpenRill.Connectors.Ledger

/-!
# Physical retention of connector deliveries

The connector part of `StateRetentionRepository`: the deadline that a safe
terminal delivery gets, the protection check, and the prune that writes a
tombstone and deletes the row. Attempts and receipts go with their delivery, by
the cascades of their tables; a dead letter has no reference to it and stays.
The digest column of a tombstone is written and never read; it is left out.
-/

namespace OpenRill.Retention.Deliveries

open Lib Lib.Checked Connectors.Ledger

inductive RetentionEntityKind where
  | task
  | taskFlow
  | connectorDelivery
  deriving DecidableEq

inductive ProtectionCode where
  | notFound
  | notTerminal
  | retentionNotDue
  | openDeadLetter
  | deliveryReceiptMissing
  deriving DecidableEq

/-- A tombstone of a pruned row; `terminalStatus` is the status text it had. -/
structure TombstoneRow where
  entityKind : RetentionEntityKind
  entityId : String
  workspaceId : String
  terminalStatus : String
  sourceRef : Option String
  terminalAt : Nat
  cleanupAfter : Nat
  prunedAt : Nat
  deriving DecidableEq

def TombstoneRow.entityKey (row : TombstoneRow) : RetentionEntityKind × String :=
  (row.entityKind, row.entityId)

def deliveryStatusText : DeliveryStatus → String
  | .pending => "PENDING"
  | .delivering => "DELIVERING"
  | .delivered => "DELIVERED"
  | .suppressed => "SUPPRESSED"
  | .uncertain => "UNCERTAIN"
  | .dead => "DEAD"

def safeTerminal : DeliveryStatus → Bool
  | .delivered => true
  | .suppressed => true
  | _ => false

def DeliveryRow.withCleanup (row : DeliveryRow) (deadline : Nat) : DeliveryRow :=
  { row with cleanupAfter := some deadline }

/-- `ORDER BY updated_at, delivery_id`. -/
def updatedBefore (first second : DeliveryRow) : Prop :=
  first.updatedAt < second.updatedAt ∨
    (first.updatedAt = second.updatedAt ∧ first.deliveryId ≤ second.deliveryId)

instance : DecidableRel updatedBefore := fun first second => by
  unfold updatedBefore
  infer_instance

def workspaceOf (tables : ConnectorTables) (row : DeliveryRow) : Option String :=
  (tables.accounts.find (row.connectorId, row.accountId)).map AccountRow.workspaceId

def unscheduledDeliveries (tables : ConnectorTables) (workspaceId : String) (limit : Nat) :
    List DeliveryRow :=
  ((tables.deliveries.rows.filter (fun row =>
    decide (workspaceOf tables row = some workspaceId ∧ row.cleanupAfter = none) &&
      safeTerminal row.status)).insertionSort updatedBefore).take limit

def withDeadline (tables : ConnectorTables) (row : DeliveryRow) (deadline : Nat) :
    ConnectorTables :=
  { tables with
    deliveries := tables.deliveries.update (DeliveryRow.withCleanup row deadline) }

/-- `UPDATE … SET cleanup_after = … WHERE delivery_id = … AND cleanup_after IS
NULL AND status IN ('DELIVERED','SUPPRESSED')`. -/
def scheduleDelivery (tables : ConnectorTables) (deliveryId : String) (deadline : Nat) :
    ConnectorTables :=
  match tables.deliveries.find deliveryId with
  | none => tables
  | some current =>
    if current.cleanupAfter = none ∧ safeTerminal current.status = true then
      withDeadline tables current deadline
    else tables

def scheduleDeliveries (retentionMs : Nat) :
    List DeliveryRow → ConnectorTables → ConnectorTables
  | [], tables => tables
  | row :: rows, tables =>
    scheduleDeliveries retentionMs rows
      (scheduleDelivery tables row.deliveryId (row.updatedAt + retentionMs))

def scheduleConnectorDeliveryRetention (tables : ConnectorTables) (workspaceId : String)
    (retentionMs limit : Nat) : ConnectorTables :=
  scheduleDeliveries retentionMs (unscheduledDeliveries tables workspaceId limit) tables

/-- The reasons that keep a delivery from being pruned, in their sorted order. -/
def protectedBy (tables : ConnectorTables) (row : DeliveryRow) (now : Nat) :
    List ProtectionCode :=
  (if row.status = .delivered ∧
      tables.receipts.rows.all (fun receipt => decide (receipt.deliveryId ≠ row.deliveryId))
    then [.deliveryReceiptMissing] else []) ++
  (if safeTerminal row.status = false then [.notTerminal] else []) ++
  (if tables.deadLetters.rows.any (fun letter =>
      decide (letter.kind = .delivery ∧ letter.subjectId = row.deliveryId ∧
        letter.status = .opened))
    then [.openDeadLetter] else []) ++
  (match row.cleanupAfter with
    | none => [.retentionNotDue]
    | some deadline => if now < deadline then [.retentionNotDue] else [])

/-- The delivery as it is now, with its workspace; `none` when the row or its
account is gone. -/
def inspectConnectorDelivery (tables : ConnectorTables) (deliveryId : String) :
    Option (DeliveryRow × String) :=
  match tables.deliveries.find deliveryId with
  | none => none
  | some row => (workspaceOf tables row).map (fun workspaceId => (row, workspaceId))

def tombstoneOf (row : DeliveryRow) (workspaceId : String) (now : Nat) : TombstoneRow where
  entityKind := .connectorDelivery
  entityId := row.deliveryId
  workspaceId := workspaceId
  terminalStatus := deliveryStatusText row.status
  sourceRef := some (row.runId.getD row.conversationId)
  terminalAt := row.updatedAt
  cleanupAfter := row.cleanupAfter.getD 0
  prunedAt := now

/-- The delete, with the cascades to attempts and receipts. -/
def deleteDelivery (tables : ConnectorTables) (deliveryId : String) : ConnectorTables :=
  { tables with
    deliveries := tables.deliveries.deleteWhere (fun row => decide (row.deliveryId = deliveryId))
    attempts := tables.attempts.deleteWhere (fun row => decide (row.deliveryId = deliveryId))
    receipts := tables.receipts.deleteWhere (fun row => decide (row.deliveryId = deliveryId)) }

/-- Tables and tombstones after the prune, with the tombstone or what protected
the row. A second tombstone of one entity breaks the primary key. -/
def pruneDelivery (tables : ConnectorTables) (tombstones : Table TombstoneRow.entityKey)
    (deliveryId : String) (now : Nat) :
    Except ConnectorFailure
      ((ConnectorTables × Table TombstoneRow.entityKey) ×
        Except (List ProtectionCode) TombstoneRow) :=
  match inspectConnectorDelivery tables deliveryId with
  | none => .ok ((tables, tombstones), .error [.notFound])
  | some (row, workspaceId) =>
    if protectedBy tables row now = [] then do
      let tombstone := tombstoneOf row workspaceId now
      let written ← fetch (tombstones.insert tombstone)
        (.constraint "maintenance_retention_tombstones.entity_id")
      pure ((deleteDelivery tables row.deliveryId, written), .ok tombstone)
    else .ok ((tables, tombstones), .error (protectedBy tables row now))

end OpenRill.Retention.Deliveries
