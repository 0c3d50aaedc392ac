import Mathlib.Data.Prod.Lex
import Mathlib.Data.String.Basic
import Mathlib.Order.RelClasses
import OpenRill.Lib.JsonText
import OpenRill.Lib.KeysetSweeps
import OpenRill.Lib.Runs
import OpenRill.Lib.Text
import OpenRill.Lib.Utf8
import OpenRill.Retention.Deliveries

/-!
# Retention sweeps

The lease, the sweep state and the candidates of `StateRetentionRepository`, and the calls of
`prune` and `sweepAll` that coordinators make on them, one transaction a step. All statements
name the workspace, so that the rows, the lease and the sweep state here are those of one
workspace. What `inspect` looks up in other tables is given to it; the digest column of a
tombstone is left out.
-/

namespace OpenRill.Retention.Sweeps

open OpenRill.Lib OpenRill.Lib.Runs OpenRill.Lib.KeysetSweeps
open Deliveries

/-- A row of the three tables. The times are safe integers. -/
structure LedgerRow where
  entityKind : RetentionEntityKind
  entityId : String
  terminalStatus : String
  sourceRef : Option String
  terminalAt : Option Nat
  cleanupAfter : Option Nat
  deriving DecidableEq

def LedgerRow.entityKey (row : LedgerRow) : RetentionEntityKind × String :=
  (row.entityKind, row.entityId)

structure RetentionCursor where
  cleanupAfter : Nat
  entityKind : RetentionEntityKind
  entityId : String
  deriving DecidableEq

structure CandidateRow where
  entityKind : RetentionEntityKind
  entityId : String
  workspaceId : String
  terminalStatus : String
  sourceRef : Option String
  terminalAt : Nat
  cleanupAfter : Nat
  deriving DecidableEq

def kindText : RetentionEntityKind → String
  | .task => "TASK"
  | .taskFlow => "TASK_FLOW"
  | .connectorDelivery => "CONNECTOR_DELIVERY"

/-- `ORDER BY cleanupAfter, entityKind, entityId`. -/
abbrev SweepKey : Type := Nat ×ₗ (String ×ₗ String)

def sweepKey (cleanupAfter : Nat) (entityKind : RetentionEntityKind) (entityId : String) :
    SweepKey :=
  toLex (cleanupAfter, toLex (kindText entityKind, entityId))

def RetentionCursor.key (cursor : RetentionCursor) : SweepKey :=
  sweepKey cursor.cleanupAfter cursor.entityKind cursor.entityId

def CandidateRow.key (candidate : CandidateRow) : SweepKey :=
  sweepKey candidate.cleanupAfter candidate.entityKind candidate.entityId

def CandidateRow.cursor (candidate : CandidateRow) : RetentionCursor where
  cleanupAfter := candidate.cleanupAfter
  entityKind := candidate.entityKind
  entityId := candidate.entityId

/-- A row whose deadline has passed. -/
structure DueRow where
  row : LedgerRow
  cleanupAfter : Nat

def DueRow.key (due : DueRow) : SweepKey :=
  sweepKey due.cleanupAfter due.row.entityKind due.row.entityId

def dueRow (now : Nat) (row : LedgerRow) : Option DueRow :=
  (row.cleanupAfter.filter (fun deadline => decide (deadline ≤ now))).map (DueRow.mk row)

def dueRows (rows : Table LedgerRow.entityKey) (now : Nat) : List DueRow :=
  rows.rows.filterMap (dueRow now)

def dueBefore (first second : DueRow) : Prop := first.key ≤ second.key

instance : DecidableRel dueBefore := fun first second =>
  inferInstanceAs (Decidable (first.key ≤ second.key))

def DueRow.candidate (workspaceId : String) (due : DueRow) : Option CandidateRow :=
  due.row.terminalAt.map (fun terminalAt => {
    entityKind := due.row.entityKind
    entityId := due.row.entityId
    workspaceId := workspaceId
    terminalStatus := due.row.terminalStatus
    sourceRef := due.row.sourceRef
    terminalAt := terminalAt
    cleanupAfter := due.cleanupAfter })

def duePage (rows : Table LedgerRow.entityKey) (now limit : Nat)
    (after : Option RetentionCursor) : List DueRow :=
  (((dueRows rows now).filter
    (fun due => decide (After (after.map RetentionCursor.key) due.key))).insertionSort
      dueBefore).take limit

/-- `listCandidates`: rows without a terminal time are dropped behind the limit. -/
def listCandidates (workspaceId : String) (rows : Table LedgerRow.entityKey) (now limit : Nat)
    (after : Option RetentionCursor) : List CandidateRow :=
  (duePage rows now limit after).filterMap (DueRow.candidate workspaceId)

/-- The deadline of a row that has ended and has none, if the schedulers give it one. -/
def scheduleRow (deadline : LedgerRow → Option Nat) (row : LedgerRow) : LedgerRow :=
  if row.cleanupAfter = none ∧ row.terminalAt.isSome then
    { row with cleanupAfter := deadline row }
  else row

theorem scheduleRow_entityKey (deadline : LedgerRow → Option Nat) (row : LedgerRow) :
    (scheduleRow deadline row).entityKey = row.entityKey := by
  unfold scheduleRow
  split <;> rfl

def scheduleRows (rows : Table LedgerRow.entityKey) (deadline : LedgerRow → Option Nat) :
    Table LedgerRow.entityKey where
  rows := rows.rows.map (scheduleRow deadline)
  keysNodup := by
    have sameKeys : (rows.rows.map (scheduleRow deadline)).map LedgerRow.entityKey =
        rows.rows.map LedgerRow.entityKey := by
      rw [List.map_map]
      exact List.map_congr_left (fun row _ => scheduleRow_entityKey deadline row)
    rw [sameKeys]
    exact rows.keysNodup

/-- `JSON.stringify({ v: 1, w, c, k, i })`. -/
def cursorText (workspaceId : String) (cursor : RetentionCursor) : List Char :=
  ['{'] ++ "\"v\":1,\"w\":".toList ++ quoted workspaceId ++ ",\"c\":".toList ++
    (toString cursor.cleanupAfter).toList ++ ",\"k\":".toList ++
    quoted (kindText cursor.entityKind) ++ ",\"i\":".toList ++ quoted cursor.entityId ++ ['}']

def base64urlLength (bytes : Nat) : Nat := (bytes * 4 + 2) / 3

/-- `decodeCursor` accepts the text that `encodeCursor` made of the cursor, and returns the
cursor. -/
def readsBack (workspaceId : String) (cursor : RetentionCursor) : Bool :=
  decide (base64urlLength (Utf8.encode (cursorText workspaceId cursor)).length ≤ 2048 ∧
    1 ≤ Text.utf16Length cursor.entityId ∧ Text.utf16Length cursor.entityId ≤ 512)

def passesBack (workspaceId : String) (cursor : Option RetentionCursor) : Bool :=
  cursor.all (readsBack workspaceId)

structure LeaseRow where
  ownerId : String
  leaseToken : String
  leaseExpiresAt : Nat
  updatedAt : Nat
  revision : Nat
  deriving DecidableEq

def upsertLease (lease : Option LeaseRow) (ownerId leaseToken : String)
    (now leaseExpiresAt : Nat) : LeaseRow :=
  match lease with
  | none => { ownerId, leaseToken, leaseExpiresAt, updatedAt := now, revision := 1 }
  | some held =>
    if held.leaseExpiresAt ≤ now then
      { ownerId, leaseToken, leaseExpiresAt, updatedAt := now, revision := held.revision + 1 }
    else held

def LeaseRow.heldBy (lease : LeaseRow) (ownerId leaseToken : String) : Bool :=
  decide (lease.ownerId = ownerId ∧ lease.leaseToken = leaseToken)

/-- `claimLease`: whether the row is the caller's after the upsert. -/
def claimLease (lease : Option LeaseRow) (ownerId leaseToken : String)
    (now leaseExpiresAt : Nat) : LeaseRow × Bool :=
  let row := upsertLease lease ownerId leaseToken now leaseExpiresAt
  (row, row.heldBy ownerId leaseToken)

def renewLease (lease : Option LeaseRow) (ownerId leaseToken : String)
    (now leaseExpiresAt : Nat) : Option LeaseRow :=
  match lease with
  | none => none
  | some held =>
    if held.heldBy ownerId leaseToken ∧ now < held.leaseExpiresAt then
      some { held with leaseExpiresAt, updatedAt := now, revision := held.revision + 1 }
    else none

def releaseLease (lease : Option LeaseRow) (ownerId leaseToken : String) : Option LeaseRow :=
  lease.filter (fun held => !held.heldBy ownerId leaseToken)

def ownsLease (lease : Option LeaseRow) (ownerId leaseToken : String) (now : Nat) : Bool :=
  lease.any (fun held => held.heldBy ownerId leaseToken && decide (now < held.leaseExpiresAt))

structure SweepStateRow where
  cursor : Option RetentionCursor
  updatedAt : Nat
  revision : Nat
  deriving DecidableEq

/-- `advanceSweepState`: the row, and whether the cursor was stored. -/
def advanceSweepState (state : Option SweepStateRow) (expectedRevision : Option Nat)
    (cursor : Option RetentionCursor) (now : Nat) : Option SweepStateRow × Bool :=
  match expectedRevision, state with
  | none, none => (some { cursor, updatedAt := now, revision := 1 }, true)
  | none, some row => (some row, false)
  | some _, none => (none, false)
  | some revision, some row =>
    if row.revision = revision then
      (some { cursor, updatedAt := now, revision := row.revision + 1 }, true)
    else (some row, false)

inductive RetentionProtectionCode where
  | activeChildTask
  | activeFlow
  | activeGoalStep
  | actionableTaskDelivery
  | deliveryReceiptMissing
  | goalExecutionReference
  | notFound
  | notTerminal
  | openBlocker
  | openDeadLetter
  | retentionNotDue
  | runActive
  deriving DecidableEq

/-- What `inspect` finds in the row itself, and then in other tables. -/
def protections (lookups : LedgerRow → List RetentionProtectionCode) (now : Nat)
    (row : LedgerRow) : List RetentionProtectionCode :=
  (if row.terminalAt = none then [.notTerminal] else []) ++
    (match row.cleanupAfter with
      | none => [.retentionNotDue]
      | some deadline => if now < deadline then [.retentionNotDue] else []) ++
    lookups row

def tombstone (workspaceId : String) (row : LedgerRow) (now : Nat) : TombstoneRow where
  entityKind := row.entityKind
  entityId := row.entityId
  workspaceId := workspaceId
  terminalStatus := row.terminalStatus
  sourceRef := row.sourceRef
  terminalAt := row.terminalAt.getD 0
  cleanupAfter := row.cleanupAfter.getD 9007199254740991
  prunedAt := now

structure PruneResult where
  deleted : Bool
  protectedBy : List RetentionProtectionCode
  deriving DecidableEq

/-- `prune` of the repository. A second tombstone of an entity breaks the primary key. -/
def pruneRow (workspaceId : String) (rows : Table LedgerRow.entityKey)
    (tombstones : Table TombstoneRow.entityKey) (candidate : CandidateRow)
    (lookups : LedgerRow → List RetentionProtectionCode) (now : Nat) :
    Option ((Table LedgerRow.entityKey × Table TombstoneRow.entityKey) × PruneResult) :=
  match rows.find (candidate.entityKind, candidate.entityId) with
  | none => some ((rows, tombstones), { deleted := false, protectedBy := [.notFound] })
  | some row =>
    if protections lookups now row = [] then
      (tombstones.insert (tombstone workspaceId row now)).map (fun written =>
        ((rows.deleteWhere (fun other => decide (other.entityKey = row.entityKey)), written),
          { deleted := true, protectedBy := [] }))
    else
      some ((rows, tombstones), { deleted := false, protectedBy := protections lookups now row })

structure CoordinatorOptions where
  ownerId : String
  leaseDurationMs : Nat
  batchSize : Nat
  deriving DecidableEq

/-- Who called `prune`: `sweepAll`, which read the sweep state with this revision, or an
operator. -/
inductive Caller where
  | sweep (revision : Option Nat)
  | operator
  deriving DecidableEq

structure CandidateView where
  candidate : CandidateRow
  protectedBy : List RetentionProtectionCode
  deriving DecidableEq

/-- A call of `prune` that has the lease. -/
structure PruneCall where
  caller : Caller
  limit : Nat
  after : Option RetentionCursor
  leaseToken : String
  startedAt : Nat
  deriving DecidableEq

/-- Its loop: how many candidates were listed and which are still to come. -/
structure Batch where
  call : PruneCall
  leaseExpiresAt : Nat
  listed : Nat
  candidates : List CandidateRow
  index : Nat
  operationNow : Option Nat
  lastProcessed : Option CandidateRow
  views : List CandidateView
  deriving DecidableEq

inductive RetentionBatchState where
  | completed
  | leaseLost
  deriving DecidableEq

structure BatchResult where
  state : RetentionBatchState
  views : List CandidateView
  nextCursor : Option RetentionCursor
  deriving DecidableEq

def Batch.completed (batch : Batch) : BatchResult where
  state := .completed
  views := batch.views
  nextCursor :=
    if batch.listed = batch.call.limit then batch.lastProcessed.map CandidateRow.cursor else none

def Batch.leaseLost (batch : Batch) : BatchResult where
  state := .leaseLost
  views := batch.views
  nextCursor :=
    match batch.lastProcessed with
    | some candidate => some candidate.cursor
    | none => batch.call.after

/-- How far a coordinator is. In `closing` the lease is still to be released; without a
result an error is thrown. -/
inductive Phase where
  | idle
  | called (caller : Caller) (limit : Nat) (after : Option RetentionCursor)
  | leased (call : PruneCall) (leaseExpiresAt : Nat)
  | scheduled (call : PruneCall) (leaseExpiresAt : Nat)
  | pruning (batch : Batch)
  | closing (call : PruneCall) (result : Option BatchResult)
  | storing (revision : Option Nat) (result : BatchResult)
  deriving DecidableEq

inductive SweepEvent where
  | claimed (ownerId leaseToken : String) (now : Nat)
  | inspected (ownerId leaseToken : String) (key : SweepKey) (deleted : Bool) (now : Nat)
  | swept (coordinator : Nat) (state : RetentionBatchState) (stored : Bool)
  deriving DecidableEq

structure RetentionLedger where
  rows : Table LedgerRow.entityKey
  tombstones : Table TombstoneRow.entityKey
  lease : Option LeaseRow
  sweepState : Option SweepStateRow
  tokens : List String
  phases : Nat → Phase
  log : List SweepEvent

def RetentionLedger.record (ledger : RetentionLedger) (event : SweepEvent) : RetentionLedger :=
  { ledger with log := ledger.log ++ [event] }

def RetentionLedger.goTo (ledger : RetentionLedger) (coordinator : Nat) (phase : Phase) :
    RetentionLedger :=
  { ledger with phases := Function.update ledger.phases coordinator phase }

/-- The next transaction of a coordinator, its crash, or what other services do to the rows:
they give no deadline to a row that has not ended, and take no end back. -/
inductive SweepOp where
  | sweepAll (coordinator : Nat)
  | prune (coordinator limit : Nat) (after : Option RetentionCursor)
  | claim (coordinator : Nat) (leaseToken : String) (now : Nat)
  | schedule (coordinator : Nat) (deadline : LedgerRow → Option Nat)
  | list (coordinator : Nat)
  | turn (coordinator now : Nat)
  | inspect (coordinator : Nat) (lookups : LedgerRow → List RetentionProtectionCode)
  | finish (coordinator : Nat)
  | release (coordinator : Nat)
  | store (coordinator now : Nat)
  | crash (coordinator : Nat)
  | others (rows : Table LedgerRow.entityKey)

structure Setting where
  workspaceId : String
  options : Nat → CoordinatorOptions
  batch_positive : ∀ coordinator, 1 ≤ (options coordinator).batchSize
  batch_bounded : ∀ coordinator, (options coordinator).batchSize ≤ 1000

def Ended (rows : Table LedgerRow.entityKey) : Prop :=
  ∀ row ∈ rows.rows, row.cleanupAfter.isSome → row.terminalAt.isSome

instance (rows : Table LedgerRow.entityKey) : Decidable (Ended rows) :=
  inferInstanceAs (Decidable (∀ row ∈ rows.rows, row.cleanupAfter.isSome → row.terminalAt.isSome))

/-- The lease is renewed before every twenty-fifth candidate and when it is about to
expire. -/
def Batch.renews (batch : Batch) (now : Nat) : Bool :=
  decide (0 < batch.index ∧ (batch.index % 25 = 0 ∨ batch.leaseExpiresAt ≤ now + 1000))

def beginTurn (options : CoordinatorOptions) (coordinator now : Nat) (ledger : RetentionLedger)
    (batch : Batch) : RetentionLedger :=
  if batch.renews now then
    match renewLease ledger.lease options.ownerId batch.call.leaseToken now
      (now + options.leaseDurationMs) with
    | none => ledger.goTo coordinator (.closing batch.call (some batch.leaseLost))
    | some renewed =>
      { ledger with lease := some renewed }.goTo coordinator (.pruning { batch with
        leaseExpiresAt := renewed.leaseExpiresAt, operationNow := some now })
  else ledger.goTo coordinator (.pruning { batch with operationNow := some now })

/-- The transaction of a turn: the lease is checked, then the row is pruned. -/
def inspectNext (setting : Setting) (coordinator now : Nat) (ledger : RetentionLedger)
    (batch : Batch) (candidate : CandidateRow) (rest : List CandidateRow)
    (lookups : LedgerRow → List RetentionProtectionCode) : RetentionLedger :=
  let ownerId := (setting.options coordinator).ownerId
  if ownsLease ledger.lease ownerId batch.call.leaseToken now then
    match pruneRow setting.workspaceId ledger.rows ledger.tombstones candidate lookups now with
    | none => ledger.goTo coordinator (.closing batch.call none)
    | some ((rows, tombstones), result) =>
      ({ ledger with rows, tombstones }.record
        (.inspected ownerId batch.call.leaseToken candidate.key result.deleted now)).goTo
          coordinator (.pruning { batch with
            candidates := rest
            index := batch.index + 1
            operationNow := none
            lastProcessed := some candidate
            views := batch.views ++ [CandidateView.mk candidate result.protectedBy] })
  else ledger.goTo coordinator (.closing batch.call (some batch.leaseLost))

def step (setting : Setting) (ledger : RetentionLedger) : SweepOp → RetentionLedger
  | .sweepAll coordinator =>
    match ledger.phases coordinator with
    | .idle =>
      let after := ledger.sweepState.bind SweepStateRow.cursor
      if passesBack setting.workspaceId after then
        ledger.goTo coordinator
          (.called (.sweep (ledger.sweepState.map SweepStateRow.revision))
            (setting.options coordinator).batchSize after)
      else ledger
    | _ => ledger
  | .prune coordinator limit after =>
    match ledger.phases coordinator with
    | .idle =>
      if 1 ≤ limit ∧ limit ≤ 1000 ∧ passesBack setting.workspaceId after then
        ledger.goTo coordinator (.called .operator limit after)
      else ledger
    | _ => ledger
  | .claim coordinator leaseToken now =>
    match ledger.phases coordinator with
    | .called caller limit after =>
      if leaseToken ∈ ledger.tokens then ledger
      else
        let options := setting.options coordinator
        let claimed := claimLease ledger.lease options.ownerId leaseToken now
          (now + options.leaseDurationMs)
        let ledger := { ledger with
          lease := some claimed.1, tokens := ledger.tokens ++ [leaseToken] }
        if claimed.2 then
          (ledger.record (.claimed options.ownerId leaseToken now)).goTo coordinator
            (.leased { caller, limit, after, leaseToken, startedAt := now }
              claimed.1.leaseExpiresAt)
        else ledger.goTo coordinator .idle
    | _ => ledger
  | .schedule coordinator deadline =>
    match ledger.phases coordinator with
    | .leased call leaseExpiresAt =>
      { ledger with rows := scheduleRows ledger.rows deadline }.goTo coordinator
        (.scheduled call leaseExpiresAt)
    | _ => ledger
  | .list coordinator =>
    match ledger.phases coordinator with
    | .scheduled call leaseExpiresAt =>
      let candidates := listCandidates setting.workspaceId ledger.rows call.startedAt
        call.limit call.after
      ledger.goTo coordinator (.pruning {
        call, leaseExpiresAt, listed := candidates.length, candidates, index := 0
        operationNow := none, lastProcessed := none, views := [] })
    | _ => ledger
  | .turn coordinator now =>
    match ledger.phases coordinator with
    | .pruning batch =>
      if batch.operationNow = none ∧ batch.candidates ≠ [] then
        beginTurn (setting.options coordinator) coordinator now ledger batch
      else ledger
    | _ => ledger
  | .inspect coordinator lookups =>
    match ledger.phases coordinator with
    | .pruning batch =>
      match batch.operationNow, batch.candidates with
      | some now, candidate :: rest =>
        inspectNext setting coordinator now ledger batch candidate rest lookups
      | _, _ => ledger
    | _ => ledger
  | .finish coordinator =>
    match ledger.phases coordinator with
    | .pruning batch =>
      if batch.candidates = [] then
        ledger.goTo coordinator (.closing batch.call (some batch.completed))
      else ledger
    | _ => ledger
  | .release coordinator =>
    match ledger.phases coordinator with
    | .closing call result =>
      { ledger with
          lease := releaseLease ledger.lease (setting.options coordinator).ownerId
            call.leaseToken }.goTo coordinator
        (match call.caller, result with
          | .sweep revision, some result => .storing revision result
          | _, _ => .idle)
    | _ => ledger
  | .store coordinator now =>
    match ledger.phases coordinator with
    | .storing revision result =>
      if passesBack setting.workspaceId result.nextCursor then
        let advanced := advanceSweepState ledger.sweepState revision result.nextCursor now
        ({ ledger with sweepState := advanced.1 }.record
          (.swept coordinator result.state advanced.2)).goTo coordinator .idle
      else ledger.goTo coordinator .idle
    | _ => ledger
  | .crash coordinator => ledger.goTo coordinator .idle
  | .others rows => if Ended rows then { ledger with rows } else ledger

def RetentionLedger.initial : RetentionLedger where
  rows := Table.empty
  tombstones := Table.empty
  lease := none
  sweepState := none
  tokens := []
  phases := fun _ => .idle
  log := []

def reach (setting : Setting) (ops : List SweepOp) : RetentionLedger :=
  run (step setting) RetentionLedger.initial ops

end OpenRill.Retention.Sweeps
