import OpenRill.Connectors.DispatchOnce
import OpenRill.Retention.Deliveries

/-!
# What retention does to the delivery ledger

Scheduling rewrites the deadline of a delivery and nothing else; a prune removes
one safe terminal delivery with its attempts and receipts. Both keep the ledger
correct, and both only ever leave rows that were there before.
-/

namespace OpenRill.Retention.LedgerKept

open Lib Lib.Checked Connectors.Ledger Connectors.DispatchOnce Deliveries

variable {tables : ConnectorTables} {row : DeliveryRow} {now : Nat} {deliveryId : String}

theorem correct_withDeadline (correct : LedgerCorrect tables) (deadline : Nat)
    (present : tables.deliveries.find row.deliveryId = some row) :
    LedgerCorrect (withDeadline tables row deadline) where
  tallies := by
    intro deliveryId
    have status : statusOf (withDeadline tables row deadline) deliveryId =
        if row.deliveryId = deliveryId then some row.status
        else statusOf tables deliveryId :=
      statusOf_update (DeliveryRow.withCleanup row deadline) present rfl deliveryId
    have earlier := correct.tallies deliveryId
    rw [status]
    by_cases same : row.deliveryId = deliveryId
    · have wasStatus : statusOf tables deliveryId = some row.status := by
        simp [statusOf, ← same, present]
      rw [wasStatus] at earlier
      rw [if_pos same]
      exact earlier
    · rw [if_neg same]
      exact earlier
  held := by
    intro attempt attemptIn live delivery found
    unfold withDeadline at found
    rw [tables.deliveries.find_update (DeliveryRow.withCleanup row deadline) present] at found
    by_cases same : (DeliveryRow.withCleanup row deadline).deliveryId = attempt.deliveryId
    · rw [if_pos same, Option.some.injEq] at found
      have wasPresent : tables.deliveries.find attempt.deliveryId = some row := by
        rw [← same]
        exact present
      rw [← found]
      exact correct.held attempt attemptIn live row wasPresent
    · rw [if_neg same] at found
      exact correct.held attempt attemptIn live delivery found

theorem scheduleDelivery_cases (tables : ConnectorTables) (deliveryId : String)
    (deadline : Nat) :
    scheduleDelivery tables deliveryId deadline = tables ∨
      ∃ row, tables.deliveries.find row.deliveryId = some row ∧
        scheduleDelivery tables deliveryId deadline = withDeadline tables row deadline := by
  unfold scheduleDelivery
  cases found : tables.deliveries.find deliveryId with
  | none =>
    left
    rfl
  | some row =>
    by_cases due : row.cleanupAfter = none ∧ safeTerminal row.status = true
    · right
      refine ⟨row, ?_, ?_⟩
      · rw [tables.deliveries.key_of_find found]
        exact found
      · simp only
        rw [if_pos due]
    · left
      simp only
      rw [if_neg due]

theorem schedule_preserves (property : ConnectorTables → Prop)
    (kept : ∀ tables row deadline, property tables →
      tables.deliveries.find row.deliveryId = some row →
      property (withDeadline tables row deadline))
    (tables : ConnectorTables) (workspaceId : String) (retentionMs limit : Nat)
    (initially : property tables) :
    property (scheduleConnectorDeliveryRetention tables workspaceId retentionMs limit) := by
  unfold scheduleConnectorDeliveryRetention
  generalize unscheduledDeliveries tables workspaceId limit = rows
  induction rows generalizing tables with
  | nil => exact initially
  | cons row rows ih =>
    apply ih
    rcases scheduleDelivery_cases tables row.deliveryId (row.updatedAt + retentionMs) with
      unchanged | ⟨current, present, rewritten⟩
    · rw [unchanged]
      exact initially
    · rw [rewritten]
      exact kept tables current _ initially present

theorem safe_of_unprotected (unprotected : protectedBy tables row now = []) :
    safeTerminal row.status = true := by
  by_cases safe : safeTerminal row.status = true
  · exact safe
  · simp [protectedBy, safe] at unprotected

/-- Inversion of a prune: it did nothing, or it wrote the tombstone of a safe
terminal row and deleted the row. -/
theorem pruneDelivery_cases {reached : ConnectorTables}
    {tombstones written : Table TombstoneRow.entityKey}
    {outcome : Except (List ProtectionCode) TombstoneRow}
    (done : pruneDelivery tables tombstones deliveryId now = .ok ((reached, written), outcome)) :
    (reached = tables ∧ written = tombstones) ∨
      ∃ row workspaceId,
        tables.deliveries.find row.deliveryId = some row ∧
        safeTerminal row.status = true ∧
        tombstones.insert (tombstoneOf row workspaceId now) = some written ∧
        reached = deleteDelivery tables row.deliveryId := by
  unfold pruneDelivery at done
  split at done
  · simp only [Except.ok.injEq, Prod.mk.injEq] at done
    left
    exact ⟨done.1.1.symm, done.1.2.symm⟩
  next row workspaceId inspected =>
    by_cases unprotected : protectedBy tables row now = []
    · right
      rw [if_pos unprotected] at done
      simp only [bind_ok_iff, fetch_ok_iff, pure_ok_iff, Prod.mk.injEq] at done
      obtain ⟨inserted, insertDone, ⟨rfl, rfl⟩, -⟩ := done
      have present : tables.deliveries.find row.deliveryId = some row := by
        unfold inspectConnectorDelivery at inspected
        cases found : tables.deliveries.find deliveryId with
        | none => simp [found] at inspected
        | some current =>
          simp only [found, Option.map_eq_some_iff, Prod.mk.injEq] at inspected
          obtain ⟨-, -, isRow, -⟩ := inspected
          rw [← isRow, tables.deliveries.key_of_find found]
          exact found
      exact ⟨row, workspaceId, present, safe_of_unprotected unprotected, insertDone, rfl⟩
    · left
      rw [if_neg unprotected] at done
      simp only [Except.ok.injEq, Prod.mk.injEq] at done
      exact ⟨done.1.1.symm, done.1.2.symm⟩

theorem mem_deleteDelivery_iff (deliveryId : String) (other : DeliveryRow) :
    other ∈ (deleteDelivery tables deliveryId).deliveries.rows ↔
      other ∈ tables.deliveries.rows ∧ other.deliveryId ≠ deliveryId := by
  unfold deleteDelivery
  rw [Table.mem_deleteWhere_iff]
  simp

theorem find_deleteDelivery (deliveryId wanted : String) (different : wanted ≠ deliveryId) :
    (deleteDelivery tables deliveryId).deliveries.find wanted = tables.deliveries.find wanted := by
  apply Table.find_deleteWhere
  intro other _ isWanted
  simp [isWanted, different]

theorem find_deleteDelivery_self (deliveryId : String) :
    (deleteDelivery tables deliveryId).deliveries.find deliveryId = none := by
  rw [Table.find_none_iff]
  intro other otherIn
  exact ((mem_deleteDelivery_iff deliveryId other).mp otherIn).2

theorem tally_deleteDelivery_other {wanted : String} (different : wanted ≠ deliveryId) :
    tally (deleteDelivery tables deliveryId) wanted = tally tables wanted := by
  have keeps : ∀ named : String, named = wanted → named ≠ deliveryId := by
    intro named isWanted
    rw [isWanted]
    exact different
  simp only [tally, Tally.mk.injEq, attemptCount, receiptCount, deleteDelivery,
    Table.deleteWhere, List.countP_filter]
  refine ⟨?_, ?_, ?_, ?_, trivial⟩
  all_goals
    apply List.countP_congr
    intro named _
    simp only [Bool.and_eq_true, decide_eq_true_eq, Bool.not_eq_true', decide_eq_false_iff_not]
  · exact ⟨fun both => both.1, fun ofWanted => ⟨ofWanted, keeps _ ofWanted.1⟩⟩
  · exact ⟨fun both => both.1, fun ofWanted => ⟨ofWanted, keeps _ ofWanted.1⟩⟩
  · exact ⟨fun both => both.1, fun ofWanted => ⟨ofWanted, keeps _ ofWanted.1⟩⟩
  · exact ⟨fun both => both.1, fun ofWanted => ⟨ofWanted, keeps _ ofWanted⟩⟩

theorem tally_deleteDelivery_self (deliveryId : String) :
    tally (deleteDelivery tables deliveryId) deliveryId =
      ⟨0, 0, 0, 0, deadLetterCount tables.deadLetters deliveryId⟩ := by
  have noAttempts : ∀ counted : AttemptStatus → Bool,
      attemptCount (deleteDelivery tables deliveryId).attempts deliveryId counted = 0 := by
    intro counted
    apply List.countP_eq_zero.mpr
    intro attempt attemptIn
    have kept := ((Table.mem_deleteWhere_iff _ _ attempt).mp attemptIn).2
    simp [kept]
  have noReceipts :
      receiptCount (deleteDelivery tables deliveryId).receipts deliveryId = 0 := by
    apply List.countP_eq_zero.mpr
    intro receipt receiptIn
    have kept := ((Table.mem_deleteWhere_iff _ _ receipt).mp receiptIn).2
    simpa using kept
  simp only [tally, noAttempts, noReceipts, Tally.mk.injEq]
  exact ⟨trivial, trivial, trivial, trivial, rfl⟩

theorem correct_deleteDelivery (correct : LedgerCorrect tables)
    (present : tables.deliveries.find row.deliveryId = some row)
    (safe : safeTerminal row.status = true) :
    LedgerCorrect (deleteDelivery tables row.deliveryId) where
  tallies := by
    intro deliveryId
    by_cases same : deliveryId = row.deliveryId
    · -- a safe terminal delivery has no dead letter to leave behind
      have noLetters := congrArg Tally.deadLetters (correct.tallies row.deliveryId)
      simp only [tally, statusOf, present, Option.map_some] at noLetters
      have none : (expected (some row.status)).deadLetters = 0 := by
        cases status : row.status <;> simp_all [safeTerminal, expected]
      rw [same, tally_deleteDelivery_self, noLetters, none]
      simp [statusOf, find_deleteDelivery_self, expected]
    · rw [tally_deleteDelivery_other same, correct.tallies]
      simp [statusOf, find_deleteDelivery _ _ same]
  held := by
    intro attempt attemptIn live delivery found
    obtain ⟨earlier, kept⟩ := (Table.mem_deleteWhere_iff _ _ attempt).mp attemptIn
    have different : attempt.deliveryId ≠ row.deliveryId := by simpa using kept
    rw [find_deleteDelivery _ _ different] at found
    exact correct.held attempt earlier live delivery found

end OpenRill.Retention.LedgerKept
