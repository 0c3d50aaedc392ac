import OpenRill.Connectors.Delivery
import Mathlib.Logic.Relation

/-!
# What a delivery call can do to the ledger

Every call of the connector service is a sequence of five kinds of change to
the delivery ledger: an enqueued row, a claim, a dispatch mark, a settlement
and a change that does not touch the ledger. This file reads each operation as
such a sequence once; the invariants are proved of the five kinds.
-/

namespace OpenRill.Connectors.LedgerSteps

open Lib Lib.Checked Ledger Delivery

variable {after finished claimed written recovered tables : ConnectorTables} {attempt : AttemptRow}
variable {input : FinishInput} {result : Option (DeliveryRow × AttemptRow)} {letter : DeadLetterRow}
variable {createId : Nat → String} {now : Nat} {count counted : RecoveryCount}
variable {options : ConnectorOptions} {connectorId : String} {claim : DeliveryClaim}

/-- The record that a settlement leaves beside the attempt: a receipt when the
provider accepted, a dead letter when the delivery is given up. -/
def SettlementRecorded (before after : ConnectorTables) (input : FinishInput) : Prop :=
  match input.attemptStatus, input.deliveryStatus with
  | .accepted, .delivered =>
    after.deadLetters = before.deadLetters ∧
      ∃ receipt, receipt.deliveryId = input.deliveryId ∧
        before.receipts.insert receipt = some after.receipts
  | .rejected, .suppressed =>
    after.receipts = before.receipts ∧ after.deadLetters = before.deadLetters
  | .rejected, .pending =>
    after.receipts = before.receipts ∧ after.deadLetters = before.deadLetters
  | .abandoned, .pending =>
    after.receipts = before.receipts ∧ after.deadLetters = before.deadLetters
  | .uncertain, .uncertain =>
    after.receipts = before.receipts ∧
      ∃ letter written, letter.kind = .delivery ∧
        letter.subjectId = input.deliveryId ∧
        insertDeadLetter before letter = .ok written ∧
        after.deadLetters = written.deadLetters
  | .rejected, .dead =>
    after.receipts = before.receipts ∧
      ∃ letter written, letter.kind = .delivery ∧
        letter.subjectId = input.deliveryId ∧
        insertDeadLetter before letter = .ok written ∧
        after.deadLetters = written.deadLetters
  | _, _ => False

def SourcesKept (before after : ConnectorTables) : Prop :=
  after.ingress = before.ingress ∧ after.bindings = before.bindings

/-- One change of the delivery ledger by a host or a worker: no delivery is
added and none is removed. -/
inductive WorkStep : ConnectorTables → ConnectorTables → Prop where
  | idle (before after : ConnectorTables)
      (deliveries : after.deliveries = before.deliveries)
      (attempts : after.attempts = before.attempts)
      (receipts : after.receipts = before.receipts)
      (deadLetters : after.deadLetters = before.deadLetters)
      (sources : SourcesKept before after) :
      WorkStep before after
  | claim (before after : ConnectorTables) (row : DeliveryRow) (input : ClaimInput)
      (present : before.deliveries.find row.deliveryId = some row)
      (pending : row.status = .pending)
      (fresh : ∀ other ∈ before.attempts.rows, other.claimToken ≠ input.claimToken)
      (deliveries : after.deliveries = before.deliveries.update (row.claimedBy input))
      (inserted : before.attempts.insert (input.attemptFor row) = some after.attempts)
      (receipts : after.receipts = before.receipts)
      (deadLetters : after.deadLetters = before.deadLetters)
      (sources : SourcesKept before after) :
      WorkStep before after
  | dispatch (before after : ConnectorTables) (attempt : AttemptRow) (now : Nat)
      (present : before.attempts.find attempt.attemptId = some attempt)
      (claimed : attempt.status = .claimed)
      (deliveries : after.deliveries = before.deliveries)
      (attempts : after.attempts = before.attempts.update (attempt.markedDispatched now))
      (receipts : after.receipts = before.receipts)
      (deadLetters : after.deadLetters = before.deadLetters)
      (sources : SourcesKept before after) :
      WorkStep before after
  | settle (before after : ConnectorTables) (attempt : AttemptRow)
      (delivery : DeliveryRow) (input : FinishInput)
      (attemptPresent : before.attempts.find attempt.attemptId = some attempt)
      (deliveryPresent : before.deliveries.find delivery.deliveryId = some delivery)
      (sameDelivery : attempt.deliveryId = delivery.deliveryId)
      (named : input.deliveryId = delivery.deliveryId)
      (live : attempt.status.live = true)
      (delivering : delivery.status = .delivering)
      (deliveries : after.deliveries = before.deliveries.update (delivery.settledBy input))
      (attempts : after.attempts = before.attempts.update (attempt.endedBy input))
      (recorded : SettlementRecorded before after input)
      (sources : SourcesKept before after) :
      WorkStep before after

/-- One change of the delivery ledger. -/
inductive LedgerStep : ConnectorTables → ConnectorTables → Prop where
  | work (before after : ConnectorTables) (change : WorkStep before after) :
      LedgerStep before after
  | enqueue (before after : ConnectorTables) (row : DeliveryRow)
      (pending : row.status = .pending)
      (inserted : before.deliveries.insert row = some after.deliveries)
      (attempts : after.attempts = before.attempts)
      (receipts : after.receipts = before.receipts)
      (deadLetters : after.deadLetters = before.deadLetters) :
      LedgerStep before after

abbrev WorkPath := Relation.ReflTransGen WorkStep

abbrev LedgerPath := Relation.ReflTransGen LedgerStep

theorem workPath_ledgerPath {before : ConnectorTables} (path : WorkPath before after) :
    LedgerPath before after := by
  induction path with
  | refl => exact Relation.ReflTransGen.refl
  | tail earlier change ih => exact ih.tail (LedgerStep.work _ _ change)

theorem mem_of_claim_lookup {claimToken : String}
    (found : getDeliveryAttemptByClaim tables claimToken = some attempt) :
    tables.attempts.find attempt.attemptId = some attempt ∧ attempt.claimToken = claimToken := by
  have attemptIn : attempt ∈ tables.attempts.rows := List.mem_of_find?_eq_some found
  have token : attempt.claimToken = claimToken := by simpa using List.find?_some found
  exact ⟨tables.attempts.find_of_mem attemptIn, token⟩

theorem finishDeliveryAttempt_some
    (done : finishDeliveryAttempt tables input = .ok (some finished)) :
    ∃ attempt delivery,
      tables.attempts.find attempt.attemptId = some attempt ∧
      tables.deliveries.find delivery.deliveryId = some delivery ∧
      attempt.claimToken = input.claimToken ∧
      attempt.deliveryId = delivery.deliveryId ∧
      input.deliveryId = delivery.deliveryId ∧
      attempt.status.live = true ∧ delivery.status = .delivering ∧
      delivery.claimToken = some input.claimToken ∧
      finished =
        { tables with
          attempts := tables.attempts.update (attempt.endedBy input)
          deliveries := tables.deliveries.update (delivery.settledBy input) } := by
  unfold finishDeliveryAttempt at done
  cases looked : getDeliveryAttemptByClaim tables input.claimToken with
  | none => simp [looked] at done
  | some attempt =>
    obtain ⟨attemptPresent, token⟩ := mem_of_claim_lookup looked
    rw [looked] at done
    by_cases ready : attempt.deliveryId = input.deliveryId ∧ attempt.status.live = true
    · simp only [ready, and_self, if_true, bind_ok_iff, fetch_ok_iff, require_ok_iff,
        pure_ok_iff, Option.some.injEq, exists_and_left, exists_const] at done
      obtain ⟨delivery, found, ⟨delivering, held⟩, rfl⟩ := done
      have named : delivery.deliveryId = input.deliveryId :=
        tables.deliveries.key_of_find found
      refine ⟨attempt, delivery, attemptPresent, ?_, token, ready.1.trans named.symm,
        named.symm, ready.2, delivering, held, rfl⟩
      rw [named]
      exact found
    · simp [ready] at done

theorem claimDueDelivery_path {input : ClaimInput}
    (done : claimDueDelivery tables input = .ok (claimed, result)) : WorkPath tables claimed := by
  unfold claimDueDelivery at done
  cases due : dueDelivery tables input.connectorId input.accountId input.now with
  | none =>
    simp only [due, Except.ok.injEq, Prod.mk.injEq] at done
    rw [← done.1]
  | some row =>
    simp only [due, bind_ok_iff, pure_ok_iff, insertAttempt, require_ok_iff, fetch_ok_iff,
      exists_and_left, exists_const, Prod.mk.injEq] at done
    obtain ⟨written, ⟨fresh, -, attempts, inserted, rfl⟩, rfl, -⟩ := done
    have dueIn : row ∈ tables.deliveries.rows ∧ row.status = .pending := by
      have inSorted := List.mem_of_mem_head? due
      rw [List.mem_insertionSort] at inSorted
      have selected := List.mem_filter.mp inSorted
      simp only [decide_eq_true_eq] at selected
      exact ⟨selected.1, selected.2.2.2.1⟩
    apply Relation.ReflTransGen.single
    exact WorkStep.claim _ _ row input (tables.deliveries.find_of_mem dueIn.1) dueIn.2
      fresh rfl inserted rfl rfl ⟨rfl, rfl⟩

theorem insertDeadLetter_frame (done : insertDeadLetter tables letter = .ok written) :
    written = { tables with deadLetters := written.deadLetters } := by
  unfold insertDeadLetter at done
  split at done
  · simp only [Except.ok.injEq] at done
    rw [← done]
  · simp only [bind_ok_iff, fetch_ok_iff, pure_ok_iff] at done
    obtain ⟨deadLetters, -, rfl⟩ := done
    rfl

/-- A settlement whose dead letter is written in the tables after the finish is
one step: the two writes touch different tables. -/
theorem insertDeadLetter_after_finish {delivery : DeliveryRow} (finishedEq : finished =
      { tables with
        attempts := tables.attempts.update (attempt.endedBy input)
        deliveries := tables.deliveries.update (delivery.settledBy input) })
    (done : insertDeadLetter finished letter = .ok written) :
    ∃ before, insertDeadLetter tables letter = .ok before ∧
      written.deadLetters = before.deadLetters := by
  subst finishedEq
  unfold insertDeadLetter at done ⊢
  simp only at done ⊢
  split at done
  · simp only [Except.ok.injEq] at done
    subst done
    exact ⟨_, rfl, rfl⟩
  · simp only [bind_ok_iff, fetch_ok_iff, pure_ok_iff] at done ⊢
    obtain ⟨deadLetters, inserted, rfl⟩ := done
    exact ⟨_, ⟨deadLetters, inserted, rfl⟩, rfl⟩

section

variable (done : finishDeliveryAttempt tables input = .ok (some finished))
include done

theorem settle_step (deliveries : after.deliveries = finished.deliveries)
    (attempts : after.attempts = finished.attempts)
    (recorded : SettlementRecorded tables after input) (sources : SourcesKept tables after) :
    WorkStep tables after := by
  obtain ⟨attempt, delivery, attemptPresent, deliveryPresent, -, sameDelivery, named, live,
    delivering, -, rfl⟩ := finishDeliveryAttempt_some done
  exact WorkStep.settle tables after attempt delivery input attemptPresent deliveryPresent
    sameDelivery named live delivering deliveries attempts recorded sources

theorem settle_with_letter_step (letterDone : insertDeadLetter finished letter = .ok written)
    (kind : letter.kind = .delivery) (subject : letter.subjectId = input.deliveryId)
    (givenUp : (input.attemptStatus = .uncertain ∧ input.deliveryStatus = .uncertain) ∨
      (input.attemptStatus = .rejected ∧ input.deliveryStatus = .dead)) :
    WorkStep tables written := by
  obtain ⟨attempt, delivery, -, -, -, -, -, -, -, -, finishedEq⟩ :=
    finishDeliveryAttempt_some done
  obtain ⟨before, inserted, sameLetters⟩ :=
    insertDeadLetter_after_finish finishedEq letterDone
  have frame := insertDeadLetter_frame letterDone
  have deliveries : written.deliveries = finished.deliveries := by rw [frame]
  have attempts : written.attempts = finished.attempts := by rw [frame]
  have receipts : written.receipts = tables.receipts := by rw [frame, finishedEq]
  have sources : SourcesKept tables written := by
    rw [frame, finishedEq]
    exact ⟨rfl, rfl⟩
  refine settle_step done deliveries attempts ?_ sources
  rcases givenUp with ⟨ended, settled⟩ | ⟨ended, settled⟩
  · simp only [SettlementRecorded, ended, settled]
    exact ⟨receipts, letter, before, kind, subject, inserted, sameLetters⟩
  · simp only [SettlementRecorded, ended, settled]
    exact ⟨receipts, letter, before, kind, subject, inserted, sameLetters⟩

theorem settle_without_record_step
    (unrecorded : (input.attemptStatus = .rejected ∧ input.deliveryStatus = .suppressed) ∨
      (input.attemptStatus = .rejected ∧ input.deliveryStatus = .pending) ∨
      (input.attemptStatus = .abandoned ∧ input.deliveryStatus = .pending)) :
    WorkStep tables finished := by
  obtain ⟨attempt, delivery, -, -, -, -, -, -, -, -, finishedEq⟩ :=
    finishDeliveryAttempt_some done
  have receipts : finished.receipts = tables.receipts := by rw [finishedEq]
  have deadLetters : finished.deadLetters = tables.deadLetters := by rw [finishedEq]
  have sources : SourcesKept tables finished := by
    rw [finishedEq]
    exact ⟨rfl, rfl⟩
  refine settle_step done rfl rfl ?_ sources
  rcases unrecorded with ⟨ended, settled⟩ | ⟨ended, settled⟩ | ⟨ended, settled⟩ <;>
    simp [SettlementRecorded, ended, settled, receipts, deadLetters]

end

theorem recoverClaim_path {next : ConnectorTables} {item : DeliveryRow × AttemptRow}
    (named : item.2.deliveryId = item.1.deliveryId)
    (done : recoverClaim createId now tables count item = .ok (next, counted)) :
    WorkPath tables next := by
  simp only [recoverClaim, bind_ok_iff] at done
  obtain ⟨ended, finishDone, rest⟩ := done
  cases ended with
  | none =>
    simp only [pure_ok_iff, Prod.mk.injEq] at rest
    rw [← rest.1]
  | some finished =>
    apply Relation.ReflTransGen.single
    by_cases dispatched : item.2.status = .dispatched
    · simp only [dispatched, if_true, bind_ok_iff, pure_ok_iff, Prod.mk.injEq] at rest
      obtain ⟨written, letterDone, rfl, -⟩ := rest
      apply settle_with_letter_step finishDone letterDone rfl
      · simp [deadLetter, recoveryFinish, dispatched, named]
      · left
        simp [recoveryFinish, dispatched]
    · simp only [dispatched, if_false, pure_ok_iff, Prod.mk.injEq] at rest
      obtain ⟨rfl, -⟩ := rest
      apply settle_without_record_step finishDone
      right
      right
      simp [recoveryFinish, dispatched]

theorem recoverClaims_path {items : List (DeliveryRow × AttemptRow)}
    (named : ∀ item ∈ items, item.2.deliveryId = item.1.deliveryId)
    (done : recoverClaims createId now items tables count = .ok (recovered, counted)) :
    WorkPath tables recovered := by
  induction items generalizing tables count with
  | nil =>
    simp only [recoverClaims, Except.ok.injEq, Prod.mk.injEq] at done
    rw [← done.1]
  | cons item items ih =>
    simp only [recoverClaims, bind_ok_iff] at done
    obtain ⟨next, first, rest⟩ := done
    have firstPath : WorkPath tables next.1 :=
      recoverClaim_path (named item (by simp)) first
    have restPath : WorkPath next.1 recovered :=
      ih (fun other otherIn => named other (by simp [otherIn])) rest
    exact firstPath.trans restPath

theorem listExpired_named (tables : ConnectorTables) (now limit : Nat) :
    ∀ item ∈ listExpiredDeliveryClaims tables now limit, item.2.deliveryId = item.1.deliveryId := by
  intro item itemIn
  have inSorted := List.mem_of_mem_take itemIn
  rw [List.mem_insertionSort] at inSorted
  obtain ⟨delivery, -, joined⟩ := List.mem_flatMap.mp inSorted
  obtain ⟨attempt, selected, rfl⟩ := List.mem_map.mp joined
  have matched := (List.mem_filter.mp selected).2
  simp only [Bool.and_eq_true, decide_eq_true_eq] at matched
  exact matched.1.1

theorem recoverExpiredDeliveries_path {limit : Nat}
    (done : recoverExpiredDeliveries createId tables now limit = .ok (recovered, counted)) :
    WorkPath tables recovered :=
  recoverClaims_path (listExpired_named tables now limit) done

theorem enqueueDelivery_path {request : DeliveryRequest} {deliveryId : String}
    {result : DeliveryRow × Bool}
    (done : enqueueDelivery options tables connectorId request now deliveryId =
      .ok (written, result)) : LedgerPath tables written := by
  simp only [enqueueDelivery, bind_ok_iff] at done
  obtain ⟨-, -, owner, -, conversation, -, -, -, rest⟩ := done
  split at rest
  · simp only [bind_ok_iff, pure_ok_iff, Prod.mk.injEq] at rest
    obtain ⟨-, -, rfl, -⟩ := rest
    exact Relation.ReflTransGen.refl
  · simp only [insertDelivery, bind_ok_iff, pure_ok_iff, fetch_ok_iff, Prod.mk.injEq] at rest
    obtain ⟨after, ⟨-, -, deliveries, inserted, rfl⟩, rfl, -⟩ := rest
    exact Relation.ReflTransGen.single (LedgerStep.enqueue _ _ _ rfl inserted rfl rfl rfl)

theorem claimDelivery_path {accountId : String}
    (done : claimDelivery options tables connectorId accountId now createId =
      .ok (claimed, result)) : WorkPath tables claimed := by
  simp only [claimDelivery, bind_ok_iff] at done
  obtain ⟨-, -, -, -, -, -, recovered, recoverDone, claimDone⟩ := done
  exact (recoverExpiredDeliveries_path recoverDone).trans (claimDueDelivery_path claimDone)

theorem markDeliveryDispatched_path {marked : ConnectorTables} {result : DeliveryRow × AttemptRow}
    (done : markDeliveryDispatched tables claim now = .ok (marked, result)) :
    WorkPath tables marked := by
  simp only [markDeliveryDispatched, bind_ok_iff, fetch_ok_iff, pure_ok_iff, Prod.mk.injEq] at done
  obtain ⟨written, markDone, delivery, -, rfl, -⟩ := done
  unfold markAttemptDispatched at markDone
  cases looked : getDeliveryAttemptByClaim tables claim.claimToken with
  | none => simp [looked] at markDone
  | some attempt =>
    rw [looked] at markDone
    by_cases ready : attempt.deliveryId = claim.deliveryId ∧ attempt.status = .claimed
    · simp only at markDone
      rw [if_pos ready, Option.some.injEq] at markDone
      rw [← markDone]
      exact Relation.ReflTransGen.single
        (WorkStep.dispatch _ _ attempt now (mem_of_claim_lookup looked).1 ready.2
          rfl rfl rfl rfl ⟨rfl, rfl⟩)
    · simp only at markDone
      rw [if_neg ready] at markDone
      simp at markDone

private theorem accepted_report_step {receipt : ReceiptRow} {receipts : Table ReceiptRow.receiptId}
    (inserted : tables.receipts.insert receipt = some receipts)
    (named : receipt.deliveryId = claim.deliveryId)
    (done : finishDeliveryAttempt { tables with receipts := receipts }
      (acceptedFinish claim now) = .ok (some finished)) : WorkStep tables finished := by
  obtain ⟨attempt, delivery, attemptPresent, deliveryPresent, -, sameDelivery, isNamed, live,
    delivering, -, rfl⟩ := finishDeliveryAttempt_some done
  exact WorkStep.settle tables _ attempt delivery (acceptedFinish claim now) attemptPresent
    deliveryPresent sameDelivery isNamed live delivering rfl rfl
    ⟨rfl, receipt, named, inserted⟩ ⟨rfl, rfl⟩

theorem completeDeliveryAccepted_path {provider : ProviderReceipt} {receiptId : String}
    {result : DeliveryRow × ReceiptRow × Bool}
    (done : completeDeliveryAccepted options tables claim provider now receiptId =
      .ok (finished, result)) : WorkPath tables finished := by
  simp only [completeDeliveryAccepted, bind_ok_iff] at done
  obtain ⟨-, -, -, -, -, -, attempt, -, rest⟩ := done
  split at rest
  · simp only [bind_ok_iff, pure_ok_iff, Prod.mk.injEq] at rest
    obtain ⟨-, -, current, -, rfl, -⟩ := rest
    exact Relation.ReflTransGen.refl
  · simp only [insertReceipt, bind_ok_iff, pure_ok_iff, fetch_ok_iff, Prod.mk.injEq] at rest
    obtain ⟨-, -, receipted, ⟨-, -, -, -, receipts, inserted, rfl⟩, ended, finishDone,
      reached, rfl, current, -, rfl, -⟩ := rest
    exact Relation.ReflTransGen.single (accepted_report_step inserted rfl finishDone)

theorem completeDeliverySuppressed_path {reason : String} {result : DeliveryRow}
    (done : completeDeliverySuppressed tables claim reason now = .ok (finished, result)) :
    WorkPath tables finished := by
  simp only [completeDeliverySuppressed, bind_ok_iff, pure_ok_iff, fetch_ok_iff,
    Prod.mk.injEq] at done
  obtain ⟨ended, finishDone, reached, rfl, current, -, rfl, -⟩ := done
  apply Relation.ReflTransGen.single
  apply settle_without_record_step finishDone
  left
  exact ⟨rfl, rfl⟩

theorem failDelivery_path {failed : ConnectorTables} {report : FailureReport}
    {deadLetterId : String} {result : DeliveryRow}
    (done : failDelivery options tables claim report now deadLetterId =
      .ok (failed, result)) : WorkPath tables failed := by
  simp only [failDelivery, bind_ok_iff, pure_ok_iff, fetch_ok_iff, Prod.mk.injEq] at done
  obtain ⟨-, -, -, -, attempt, -, delivery, -, ended, finishDone, reached, rfl, written,
    recorded, current, -, rfl, -⟩ := done
  apply Relation.ReflTransGen.single
  by_cases unsure : report.certainty = .maybeAccepted
  · simp only [FailureReport.deliveryStatus, unsure, if_true] at recorded
    apply settle_with_letter_step finishDone recorded rfl rfl
    left
    simp [failedFinish, FailureReport.deliveryStatus, unsure]
  · by_cases again : report.retries options delivery = true
    · simp only [recordGivenUp, FailureReport.deliveryStatus, unsure, again, if_true, if_false,
        reduceCtorEq, or_self, Except.ok.injEq] at recorded
      subst recorded
      apply settle_without_record_step finishDone
      right
      left
      simp [failedFinish, FailureReport.deliveryStatus, unsure, again]
    · simp only [FailureReport.deliveryStatus, unsure, again, if_false] at recorded
      apply settle_with_letter_step finishDone recorded rfl rfl
      right
      simp [failedFinish, FailureReport.deliveryStatus, unsure, again]

theorem upsertAccount_frame (tables : ConnectorTables) {row : AccountRow} :
    WorkStep tables (upsertAccount tables row) := by
  unfold upsertAccount
  split
  · exact WorkStep.idle _ _ rfl rfl rfl rfl ⟨rfl, rfl⟩
  · split
    · exact WorkStep.idle _ _ rfl rfl rfl rfl ⟨rfl, rfl⟩
    · exact WorkStep.idle _ _ rfl rfl rfl rfl ⟨rfl, rfl⟩

theorem commit_workPath {Result : Type} {body : Except ConnectorFailure (ConnectorTables × Result)}
    (walked : ∀ reached result, body = .ok (reached, result) → WorkPath tables reached) :
    WorkPath tables (commit tables body) :=
  commit_preserves (WorkPath tables) tables body Relation.ReflTransGen.refl walked

def DeliveryOp.works : DeliveryOp → Prop
  | .enqueueDelivery _ _ _ _ => False
  | _ => True

theorem step_workPath (options : ConnectorOptions) (tables : ConnectorTables)
    (op : DeliveryOp) (works : DeliveryOp.works op) :
    WorkPath tables (step options tables op) := by
  cases op with
  | registerAccount input now =>
    apply commit_workPath
    intro reached result done
    simp only [registerAccount, bind_ok_iff, pure_ok_iff, Prod.mk.injEq] at done
    obtain ⟨-, -, -, -, -, -, -, -, -, -, rfl, -⟩ := done
    exact Relation.ReflTransGen.single (upsertAccount_frame tables)
  | createConversation row =>
    apply commit_workPath
    intro reached result done
    simp only [createConversation, bind_ok_iff, pure_ok_iff, Prod.mk.injEq] at done
    obtain ⟨conversations, -, rfl, -⟩ := done
    exact Relation.ReflTransGen.single (WorkStep.idle _ _ rfl rfl rfl rfl ⟨rfl, rfl⟩)
  | enqueueDelivery connectorId request now deliveryId => exact works.elim
  | claimDelivery connectorId accountId now createId =>
    exact commit_workPath fun _ _ done => claimDelivery_path done
  | markDeliveryDispatched claim now =>
    exact commit_workPath fun _ _ done => markDeliveryDispatched_path done
  | completeDeliveryAccepted claim provider now receiptId =>
    exact commit_workPath fun _ _ done => completeDeliveryAccepted_path done
  | completeDeliverySuppressed claim reason now =>
    exact commit_workPath fun _ _ done => completeDeliverySuppressed_path done
  | failDelivery claim report now deadLetterId =>
    exact commit_workPath fun _ _ done => failDelivery_path done
  | recoverExpiredDeliveryClaims limit now createId =>
    apply commit_workPath
    intro reached result done
    simp only [recoverExpiredDeliveryClaims, bind_ok_iff] at done
    obtain ⟨-, -, recoverDone⟩ := done
    exact recoverExpiredDeliveries_path recoverDone

theorem step_path (options : ConnectorOptions) (tables : ConnectorTables)
    (op : DeliveryOp) : LedgerPath tables (step options tables op) := by
  cases op with
  | enqueueDelivery connectorId request now deliveryId =>
    exact commit_preserves (LedgerPath tables) tables _ Relation.ReflTransGen.refl
      fun _ _ done => enqueueDelivery_path done
  | _ => exact workPath_ledgerPath (step_workPath options tables _ trivial)

end OpenRill.Connectors.LedgerSteps
