import OpenRill.Connectors.LedgerSteps
import OpenRill.Lib.Runs

/-!
# A delivery is dispatched at most once per outcome

The ledger invariant says what the attempts, receipts and dead letters of a
delivery add up to in each of its statuses. Every kind of ledger change keeps
it, so every interleaving of workers, hosts and lease expiries does. The second
half shows that a delivery with a final outcome is frozen: its row and its
attempts never change again.
-/

namespace OpenRill.Connectors.DispatchOnce

open Lib Lib.Runs Lib.Checked Ledger Delivery LedgerSteps

variable {tables after before : ConnectorTables} {delivery : DeliveryRow}

def attemptsOf (tables : ConnectorTables) (deliveryId : String) : List AttemptRow :=
  tables.attempts.rows.filter (fun row => decide (row.deliveryId = deliveryId))

def receiptsOf (tables : ConnectorTables) (deliveryId : String) : List ReceiptRow :=
  tables.receipts.rows.filter (fun row => decide (row.deliveryId = deliveryId))

def deadLettersOf (tables : ConnectorTables) (deliveryId : String) :
    List DeadLetterRow :=
  tables.deadLetters.rows.filter (fun row =>
    decide (row.kind = .delivery ∧ row.subjectId = deliveryId))

structure Tally where
  live : Nat
  accepted : Nat
  uncertain : Nat
  receipts : Nat
  deadLetters : Nat
  deriving DecidableEq

def attemptCount (attempts : Table AttemptRow.attemptId) (deliveryId : String)
    (counted : AttemptStatus → Bool) : Nat :=
  attempts.rows.countP (fun row => decide (row.deliveryId = deliveryId) && counted row.status)

def isAccepted : AttemptStatus → Bool
  | .accepted => true
  | _ => false

def isUncertain : AttemptStatus → Bool
  | .uncertain => true
  | _ => false

def receiptCount (receipts : Table ReceiptRow.receiptId) (deliveryId : String) : Nat :=
  receipts.rows.countP (fun row => decide (row.deliveryId = deliveryId))

def deadLetterCount (deadLetters : Table DeadLetterRow.deadLetterId)
    (deliveryId : String) : Nat :=
  deadLetters.rows.countP (fun row =>
    decide (row.kind = .delivery ∧ row.subjectId = deliveryId))

def tally (tables : ConnectorTables) (deliveryId : String) : Tally where
  live := attemptCount tables.attempts deliveryId AttemptStatus.live
  accepted := attemptCount tables.attempts deliveryId isAccepted
  uncertain := attemptCount tables.attempts deliveryId isUncertain
  receipts := receiptCount tables.receipts deliveryId
  deadLetters := deadLetterCount tables.deadLetters deliveryId

/-- What the status of a delivery says the ledger holds; an absent delivery has
nothing. A delivery settled by an unsure failure counts its uncertain attempt. -/
def expected : Option DeliveryStatus → Tally
  | some .delivering => ⟨1, 0, 0, 0, 0⟩
  | some .delivered => ⟨0, 1, 0, 1, 0⟩
  | some .uncertain => ⟨0, 0, 1, 0, 1⟩
  | some .dead => ⟨0, 0, 0, 0, 1⟩
  | some .pending => ⟨0, 0, 0, 0, 0⟩
  | some .suppressed => ⟨0, 0, 0, 0, 0⟩
  | none => ⟨0, 0, 0, 0, 0⟩

def statusOf (tables : ConnectorTables) (deliveryId : String) : Option DeliveryStatus :=
  (tables.deliveries.find deliveryId).map DeliveryRow.status

structure LedgerCorrect (tables : ConnectorTables) : Prop where
  tallies : ∀ deliveryId, tally tables deliveryId = expected (statusOf tables deliveryId)
  held : ∀ attempt ∈ tables.attempts.rows, attempt.status.live = true →
    ∀ delivery, tables.deliveries.find attempt.deliveryId = some delivery →
      delivery.claimToken = some attempt.claimToken

theorem ledgerCorrect_empty : LedgerCorrect ConnectorTables.empty where
  tallies := by
    intro deliveryId
    rfl
  held := by
    intro attempt attemptIn
    simp [ConnectorTables.empty, Table.empty] at attemptIn

theorem attemptCount_insert {before after : Table AttemptRow.attemptId}
    {row : AttemptRow} (inserted : before.insert row = some after)
    (deliveryId : String) (counted : AttemptStatus → Bool) :
    attemptCount after deliveryId counted =
      attemptCount before deliveryId counted +
        (decide (row.deliveryId = deliveryId) && counted row.status).toNat :=
  before.countP_insert after row inserted _

theorem attemptCount_update {attempts : Table AttemptRow.attemptId}
    (row : AttemptRow) {old : AttemptRow} (present : attempts.find row.attemptId = some old)
    (sameDelivery : row.deliveryId = old.deliveryId)
    (deliveryId : String) (counted : AttemptStatus → Bool) :
    attemptCount (attempts.update row) deliveryId counted +
        (decide (old.deliveryId = deliveryId) && counted old.status).toNat =
      attemptCount attempts deliveryId counted +
        (decide (old.deliveryId = deliveryId) && counted row.status).toNat := by
  have exchanged := attempts.countP_update _ present
    fun row => decide (row.deliveryId = deliveryId) && counted row.status
  simp only [sameDelivery] at exchanged
  exact exchanged

theorem receiptCount_insert {before after : Table ReceiptRow.receiptId}
    {row : ReceiptRow} (inserted : before.insert row = some after)
    (deliveryId : String) :
    receiptCount after deliveryId =
      receiptCount before deliveryId + (decide (row.deliveryId = deliveryId)).toNat :=
  before.countP_insert after row inserted _

theorem deadLetterCount_insertDeadLetter {written : ConnectorTables} {letter : DeadLetterRow}
    (kind : letter.kind = .delivery)
    (first : deadLetterCount tables.deadLetters letter.subjectId = 0)
    (done : insertDeadLetter tables letter = .ok written) (deliveryId : String) :
    deadLetterCount written.deadLetters deliveryId =
      deadLetterCount tables.deadLetters deliveryId +
        (decide (letter.subjectId = deliveryId)).toNat := by
  have noneYet : ∀ other ∈ tables.deadLetters.rows,
      ¬ (other.kind = .delivery ∧ other.subjectId = letter.subjectId) := by
    simpa [deadLetterCount, List.countP_eq_zero] using first
  unfold insertDeadLetter at done
  split at done
  next existing found =>
    have isSame : existing.kind = letter.kind ∧ existing.subjectId = letter.subjectId := by
      simpa using List.find?_some found
    rw [kind] at isSame
    exact absurd isSame (noneYet existing (List.mem_of_find?_eq_some found))
  next missed =>
    simp only [bind_ok_iff, fetch_ok_iff, pure_ok_iff] at done
    obtain ⟨deadLetters, inserted, rfl⟩ := done
    have counted := tables.deadLetters.countP_insert deadLetters letter inserted
      fun row => decide (row.kind = .delivery ∧ row.subjectId = deliveryId)
    simpa [deadLetterCount, kind] using counted

theorem statusOf_update (row : DeliveryRow) {old : DeliveryRow}
    (present : tables.deliveries.find row.deliveryId = some old)
    (deliveries : after.deliveries = tables.deliveries.update row) (deliveryId : String) :
    statusOf after deliveryId =
      if row.deliveryId = deliveryId then some row.status
      else statusOf tables deliveryId := by
  unfold statusOf
  rw [deliveries, tables.deliveries.find_update _ present]
  by_cases same : row.deliveryId = deliveryId
  · simp [same]
  · simp [same]

variable {row : DeliveryRow} {input : FinishInput} {attempt : AttemptRow}

private theorem tally_eq (deliveryId : String)
    (attempts : after.attempts = before.attempts)
    (receipts : after.receipts = before.receipts)
    (deadLetters : after.deadLetters = before.deadLetters) :
    tally after deliveryId = tally before deliveryId := by
  simp [tally, attempts, receipts, deadLetters]

section

variable (correct : LedgerCorrect before)
include correct

theorem correct_idle (deliveries : after.deliveries = before.deliveries)
    (attempts : after.attempts = before.attempts) (receipts : after.receipts = before.receipts)
    (deadLetters : after.deadLetters = before.deadLetters) : LedgerCorrect after where
  tallies := by
    intro deliveryId
    rw [tally_eq deliveryId attempts receipts deadLetters, correct.tallies]
    simp [statusOf, deliveries]
  held := by
    rw [attempts, deliveries]
    exact correct.held

theorem correct_enqueue (pending : row.status = .pending)
    (inserted : before.deliveries.insert row = some after.deliveries)
    (attempts : after.attempts = before.attempts) (receipts : after.receipts = before.receipts)
    (deadLetters : after.deadLetters = before.deadLetters) : LedgerCorrect after where
  tallies := by
    intro deliveryId
    rw [tally_eq deliveryId attempts receipts deadLetters, correct.tallies]
    unfold statusOf
    rw [before.deliveries.find_insert after.deliveries row deliveryId inserted]
    by_cases same : row.deliveryId = deliveryId
    · have absent : before.deliveries.find deliveryId = none := by
        rw [Table.find_none_iff, ← same]
        exact ((before.deliveries.insert_some_iff _ row).mp inserted).1
      rw [absent, if_pos same]
      simp [expected, pending]
    · rw [if_neg same]
  held := by
    intro attempt attemptIn live delivery found
    rw [attempts] at attemptIn
    rw [before.deliveries.find_insert after.deliveries row _ inserted] at found
    by_cases same : row.deliveryId = attempt.deliveryId
    · have absent : before.deliveries.find attempt.deliveryId = none := by
        rw [Table.find_none_iff, ← same]
        exact ((before.deliveries.insert_some_iff _ row).mp inserted).1
      have noneLive := congrArg Tally.live (correct.tallies attempt.deliveryId)
      simp only [statusOf, absent, Option.map_none, expected, tally, attemptCount,
        List.countP_eq_zero] at noneLive
      have contradiction := noneLive attempt attemptIn
      simp [live] at contradiction
    · rw [if_neg same] at found
      exact correct.held attempt attemptIn live delivery found

theorem correct_claim {input : ClaimInput}
    (present : before.deliveries.find row.deliveryId = some row) (pending : row.status = .pending)
    (deliveries : after.deliveries = before.deliveries.update (row.claimedBy input))
    (inserted : before.attempts.insert (input.attemptFor row) = some after.attempts)
    (receipts : after.receipts = before.receipts)
    (deadLetters : after.deadLetters = before.deadLetters) : LedgerCorrect after where
  tallies := by
    intro deliveryId
    have status := statusOf_update (row.claimedBy input) present deliveries deliveryId
    have earlier := correct.tallies deliveryId
    rw [status]
    by_cases same : row.deliveryId = deliveryId
    · subst same
      have wasPending : statusOf before row.deliveryId = some .pending := by
        simp [statusOf, present, pending]
      simp only [wasPending, expected, tally, Tally.mk.injEq] at earlier
      simp only [DeliveryRow.claimedBy, if_true, expected, tally, Tally.mk.injEq, receipts,
        deadLetters, attemptCount_insert inserted]
      simp [ClaimInput.attemptFor, AttemptStatus.live, isAccepted, isUncertain, earlier]
    · have differs : ¬ (row.claimedBy input).deliveryId = deliveryId := same
      rw [if_neg differs, ← earlier]
      simp [tally, receipts, deadLetters, attemptCount_insert inserted, ClaimInput.attemptFor, same]
  held := by
    intro attempt attemptIn live delivery found
    have rowsEq := ((before.attempts.insert_some_iff _ _).mp inserted).2
    rw [rowsEq] at attemptIn
    rw [deliveries, before.deliveries.find_update (row.claimedBy input) present] at found
    rcases List.mem_append.mp attemptIn with earlier | isNew
    · have noneLive := congrArg Tally.live (correct.tallies row.deliveryId)
      simp only [statusOf, present, Option.map_some, pending, expected, tally, attemptCount,
        List.countP_eq_zero] at noneLive
      have differs : (row.claimedBy input).deliveryId ≠ attempt.deliveryId := by
        intro same
        have contradiction := noneLive attempt earlier
        simp [live, ← same, DeliveryRow.claimedBy] at contradiction
      rw [if_neg differs] at found
      exact correct.held attempt earlier live delivery found
    · have isAttempt : attempt = input.attemptFor row := by simpa using isNew
      subst isAttempt
      have same : (row.claimedBy input).deliveryId = (input.attemptFor row).deliveryId := rfl
      rw [if_pos same, Option.some.injEq] at found
      rw [← found]
      rfl

theorem correct_dispatch {now : Nat}
    (present : before.attempts.find attempt.attemptId = some attempt)
    (claimed : attempt.status = .claimed) (deliveries : after.deliveries = before.deliveries)
    (attempts : after.attempts = before.attempts.update
      (attempt.markedDispatched now)) (receipts : after.receipts = before.receipts)
    (deadLetters : after.deadLetters = before.deadLetters) : LedgerCorrect after where
  tallies := by
    intro deliveryId
    have sameCount : ∀ counted : AttemptStatus → Bool,
        counted .dispatched = counted .claimed →
        attemptCount after.attempts deliveryId counted =
          attemptCount before.attempts deliveryId counted := by
      intro counted same
      have exchanged := attemptCount_update
        (attempt.markedDispatched now) present rfl deliveryId counted
      rw [attempts]
      have marked : (attempt.markedDispatched now).status = .dispatched := rfl
      rw [marked, claimed, same] at exchanged
      omega
    have unchanged : tally after deliveryId = tally before deliveryId := by
      unfold tally
      rw [sameCount _ rfl, sameCount _ rfl, sameCount _ rfl, receipts, deadLetters]
    rw [unchanged, correct.tallies]
    simp [statusOf, deliveries]
  held := by
    intro other otherIn live delivery found
    rw [deliveries] at found
    rw [attempts, before.attempts.mem_update_iff (attempt.markedDispatched now) present] at otherIn
    rcases otherIn with isAttempt | ⟨earlier, -⟩
    · subst isAttempt
      have attemptLive : attempt.status.live = true := by
        rw [claimed]
        rfl
      exact correct.held attempt (before.attempts.mem_of_find present) attemptLive delivery found
    · exact correct.held other earlier live delivery found

end

/-- The attempt counts of a settlement: the live attempt of the delivery becomes
one of the ended status, and no other delivery's attempts move. -/
private theorem settled_attempts
    (attemptPresent : before.attempts.find attempt.attemptId = some attempt)
    (sameDelivery : attempt.deliveryId = delivery.deliveryId)
    (attempts : after.attempts = before.attempts.update (attempt.endedBy input))
    (deliveryId : String) (counted : AttemptStatus → Bool) :
    attemptCount after.attempts deliveryId counted +
        (decide (delivery.deliveryId = deliveryId) && counted attempt.status).toNat =
      attemptCount before.attempts deliveryId counted +
        (decide (delivery.deliveryId = deliveryId) &&
          counted input.attemptStatus.toStatus).toNat := by
  have exchanged := attemptCount_update (attempt.endedBy input) attemptPresent rfl
    deliveryId counted
  rw [attempts]
  simp only [sameDelivery] at exchanged
  exact exchanged

private theorem settled_records (correct : LedgerCorrect before)
    (delivering : statusOf before input.deliveryId = some .delivering)
    (recorded : SettlementRecorded before after input) :
    (∀ deliveryId, receiptCount after.receipts deliveryId =
      receiptCount before.receipts deliveryId +
        (decide (input.deliveryId = deliveryId) &&
          decide (input.deliveryStatus = .delivered)).toNat) ∧
    (∀ deliveryId, deadLetterCount after.deadLetters deliveryId =
      deadLetterCount before.deadLetters deliveryId +
        (decide (input.deliveryId = deliveryId) &&
          decide (input.deliveryStatus = .uncertain ∨ input.deliveryStatus = .dead)).toNat) ∧
    (input.attemptStatus = .accepted ↔ input.deliveryStatus = .delivered) ∧
    (input.attemptStatus = .uncertain ↔ input.deliveryStatus = .uncertain) := by
  have noLetter : deadLetterCount before.deadLetters input.deliveryId = 0 := by
    have counts := congrArg Tally.deadLetters (correct.tallies input.deliveryId)
    simpa [delivering, expected, tally] using counts
  unfold SettlementRecorded at recorded
  split at recorded
  next ended settled =>
    obtain ⟨deadLetters, receipt, named, inserted⟩ := recorded
    refine ⟨?_, ?_, by simp [ended, settled], by simp [ended, settled]⟩
    · intro deliveryId
      rw [receiptCount_insert inserted, named]
      simp [settled]
    · intro deliveryId
      simp [deadLetters, settled]
  next ended settled => simp [recorded, ended, settled]
  next ended settled => simp [recorded, ended, settled]
  next ended settled => simp [recorded, ended, settled]
  next ended settled =>
    obtain ⟨receipts, letter, written, kind, subject, done, deadLetters⟩ := recorded
    refine ⟨by simp [receipts, settled], ?_, by simp [ended, settled], by simp [ended, settled]⟩
    intro deliveryId
    rw [← subject] at noLetter
    rw [deadLetters, deadLetterCount_insertDeadLetter kind noLetter done, subject]
    simp [settled]
  next ended settled =>
    obtain ⟨receipts, letter, written, kind, subject, done, deadLetters⟩ := recorded
    refine ⟨by simp [receipts, settled], ?_, by simp [ended, settled], by simp [ended, settled]⟩
    intro deliveryId
    rw [← subject] at noLetter
    rw [deadLetters, deadLetterCount_insertDeadLetter kind noLetter done, subject]
    simp [settled]
  · exact recorded.elim

theorem correct_settle (correct : LedgerCorrect before)
    (attemptPresent : before.attempts.find attempt.attemptId = some attempt)
    (deliveryPresent : before.deliveries.find delivery.deliveryId = some delivery)
    (sameDelivery : attempt.deliveryId = delivery.deliveryId)
    (named : input.deliveryId = delivery.deliveryId) (live : attempt.status.live = true)
    (delivering : delivery.status = .delivering)
    (deliveries : after.deliveries = before.deliveries.update (delivery.settledBy input))
    (attempts : after.attempts = before.attempts.update (attempt.endedBy input))
    (recorded : SettlementRecorded before after input) : LedgerCorrect after := by
  have wasDelivering : statusOf before delivery.deliveryId = some .delivering := by
    simp [statusOf, deliveryPresent, delivering]
  have liveNow := settled_attempts attemptPresent sameDelivery attempts
  obtain ⟨receipts, deadLetters, acceptedIff, uncertainIff⟩ :=
    settled_records correct (by rw [named]; exact wasDelivering) recorded
  have notAccepted : isAccepted attempt.status = false := by
    cases status : attempt.status <;> simp_all [AttemptStatus.live, isAccepted]
  have notUncertain : isUncertain attempt.status = false := by
    cases status : attempt.status <;> simp_all [AttemptStatus.live, isUncertain]
  constructor
  · intro deliveryId
    have earlier := correct.tallies deliveryId
    have liveCount := liveNow deliveryId AttemptStatus.live
    have acceptedCount := liveNow deliveryId isAccepted
    have uncertainCount := liveNow deliveryId isUncertain
    have receiptTotal := receipts deliveryId
    have letterTotal := deadLetters deliveryId
    rw [statusOf_update (delivery.settledBy input) deliveryPresent deliveries]
    by_cases same : delivery.deliveryId = deliveryId
    · subst same
      rw [wasDelivering] at earlier
      simp only [expected, tally, Tally.mk.injEq] at earlier
      obtain ⟨oneLive, noneAccepted, noneUncertain, noReceipt, noLetter⟩ := earlier
      simp only [oneLive, live, decide_true, Bool.true_and, EndedStatus.toStatus_not_live,
        Bool.toNat_true, Bool.toNat_false, noneAccepted, notAccepted, noneUncertain,
        notUncertain] at liveCount acceptedCount uncertainCount
      simp only [DeliveryRow.settledBy, if_true, tally]
      cases settled : input.deliveryStatus <;> cases ended : input.attemptStatus <;>
        simp_all [expected, SettledStatus.toStatus, EndedStatus.toStatus, isAccepted, isUncertain]
    · have differs : ¬ (delivery.settledBy input).deliveryId = deliveryId := same
      rw [if_neg differs, ← earlier]
      simp only [same, named, decide_false, Bool.false_and, Bool.toNat_false,
        Nat.add_zero] at liveCount acceptedCount uncertainCount receiptTotal letterTotal
      simp only [tally, liveCount, acceptedCount, uncertainCount, receiptTotal, letterTotal]
  · intro other otherIn otherLive found foundDelivery
    rw [attempts, before.attempts.mem_update_iff (attempt.endedBy input) attemptPresent] at otherIn
    rcases otherIn with isEnded | ⟨earlier, different⟩
    · subst isEnded
      simp [AttemptRow.endedBy] at otherLive
    rw [deliveries, before.deliveries.find_update (delivery.settledBy input)
      deliveryPresent] at foundDelivery
    by_cases same : (delivery.settledBy input).deliveryId = other.deliveryId
    · -- a second live attempt of the settled delivery contradicts its count of one
      have oneLive := congrArg Tally.live (correct.tallies delivery.deliveryId)
      rw [wasDelivering] at oneLive
      have liveCount := liveNow delivery.deliveryId AttemptStatus.live
      have otherAfter : other ∈ after.attempts.rows := by
        rw [attempts, before.attempts.mem_update_iff (attempt.endedBy input) attemptPresent]
        exact Or.inr ⟨earlier, different⟩
      have noneLive : attemptCount after.attempts delivery.deliveryId
          AttemptStatus.live = 0 := by
        simp only [expected, tally] at oneLive
        simp only [oneLive, live, decide_true, Bool.true_and, Bool.toNat_true,
          EndedStatus.toStatus_not_live, Bool.toNat_false] at liveCount
        omega
      have contradiction := List.countP_eq_zero.mp noneLive other otherAfter
      have sameId : other.deliveryId = delivery.deliveryId := same.symm
      simp [otherLive, sameId] at contradiction
    · rw [if_neg same] at foundDelivery
      exact correct.held other earlier otherLive found foundDelivery

theorem workStep_correct (change : WorkStep before after) (correct : LedgerCorrect before) :
    LedgerCorrect after := by
  cases change with
  | idle deliveries attempts receipts deadLetters sources =>
    exact correct_idle correct deliveries attempts receipts deadLetters
  | claim row input present pending fresh deliveries inserted receipts deadLetters sources =>
    exact correct_claim correct present pending deliveries inserted receipts deadLetters
  | dispatch attempt now present claimed deliveries attempts receipts deadLetters sources =>
    exact correct_dispatch correct present claimed deliveries attempts receipts deadLetters
  | settle attempt delivery input attemptPresent deliveryPresent sameDelivery named live
      delivering deliveries attempts recorded sources =>
      exact correct_settle correct attemptPresent deliveryPresent sameDelivery named live
        delivering deliveries attempts recorded

theorem ledgerStep_correct (change : LedgerStep before after) (correct : LedgerCorrect before) :
    LedgerCorrect after := by
  cases change with
  | work change => exact workStep_correct change correct
  | enqueue row pending inserted attempts receipts deadLetters =>
    exact correct_enqueue correct pending inserted attempts receipts deadLetters

theorem ledgerPath_correct (path : LedgerPath before after) (correct : LedgerCorrect before) :
    LedgerCorrect after := by
  induction path with
  | refl => exact correct
  | tail _ change ih => exact ledgerStep_correct change ih

theorem run_correct (options : ConnectorOptions) (tables : ConnectorTables)
    (ops : List DeliveryOp) (correct : LedgerCorrect tables) :
    LedgerCorrect (run (step options) tables ops) :=
  run_invariant (step options) LedgerCorrect
    (fun reached op reachedCorrect =>
      ledgerPath_correct (step_path options reached op) reachedCorrect)
    tables ops correct

def finalStatus : DeliveryStatus → Bool
  | .delivered => true
  | .suppressed => true
  | .uncertain => true
  | .dead => true
  | .pending => false
  | .delivering => false

def FinalFrozen (before after : ConnectorTables) : Prop :=
  ∀ delivery, before.deliveries.find delivery.deliveryId = some delivery →
    finalStatus delivery.status = true →
    after.deliveries.find delivery.deliveryId = some delivery ∧
      attemptsOf after delivery.deliveryId = attemptsOf before delivery.deliveryId

theorem finalFrozen_refl (tables : ConnectorTables) : FinalFrozen tables tables := by
  intro delivery present final
  exact ⟨present, rfl⟩

theorem finalFrozen_trans (first second third : ConnectorTables)
    (earlier : FinalFrozen first second) (later : FinalFrozen second third) :
    FinalFrozen first third := by
  intro delivery present final
  obtain ⟨stillPresent, sameAttempts⟩ := earlier delivery present final
  obtain ⟨presentLast, sameLast⟩ := later delivery stillPresent final
  exact ⟨presentLast, sameLast.trans sameAttempts⟩

private theorem delivery_row_unique {first second : DeliveryRow}
    (firstPresent : tables.deliveries.find first.deliveryId = some first)
    (secondPresent : tables.deliveries.find second.deliveryId = some second)
    (same : first.deliveryId = second.deliveryId) : first = second := by
  rw [same, secondPresent, Option.some.injEq] at firstPresent
  exact firstPresent.symm

/-- Work never touches a delivery with a final outcome: a claim needs a pending
delivery, and a mark or a settlement a live attempt, which a correct ledger
holds only beside a `DELIVERING` delivery. -/
theorem workStep_frozen (change : WorkStep before after) (correct : LedgerCorrect before) :
    FinalFrozen before after := by
  intro kept keptPresent keptFinal
  cases change with
  | idle deliveries attempts receipts deadLetters sources =>
    simp [attemptsOf, deliveries, attempts, keptPresent]
  | claim row input present pending fresh deliveries inserted receipts deadLetters sources =>
    have other : row.deliveryId ≠ kept.deliveryId := by
      intro same
      have isKept := delivery_row_unique present keptPresent same
      rw [← isKept, pending] at keptFinal
      simp [finalStatus] at keptFinal
    have otherClaimed : (row.claimedBy input).deliveryId ≠ kept.deliveryId := other
    constructor
    · rw [deliveries, before.deliveries.find_update (row.claimedBy input) present,
        if_neg otherClaimed]
      exact keptPresent
    · have rowsEq := ((before.attempts.insert_some_iff _ _).mp inserted).2
      simp [attemptsOf, rowsEq, ClaimInput.attemptFor, other]
  | dispatch attempt now present claimed deliveries attempts receipts deadLetters sources =>
    refine ⟨by rw [deliveries, keptPresent], ?_⟩
    have other : attempt.deliveryId ≠ kept.deliveryId := by
      intro same
      have counts := congrArg Tally.live (correct.tallies kept.deliveryId)
      have noneLive : attemptCount before.attempts kept.deliveryId
          AttemptStatus.live = 0 := by
        cases status : kept.status <;>
          simp_all [statusOf, expected, tally, finalStatus]
      have contradiction := List.countP_eq_zero.mp noneLive attempt
        (before.attempts.mem_of_find present)
      simp [same, claimed, AttemptStatus.live] at contradiction
    unfold attemptsOf
    rw [attempts]
    exact before.attempts.filter_update
      (attempt.markedDispatched now) present _ (by simp [other])
      (by simp [AttemptRow.markedDispatched, other])
  | settle attempt delivery input attemptPresent deliveryPresent sameDelivery named live
      delivering deliveries attempts recorded sources =>
      have other : delivery.deliveryId ≠ kept.deliveryId := by
        intro same
        have isKept := delivery_row_unique deliveryPresent keptPresent same
        rw [← isKept, delivering] at keptFinal
        simp [finalStatus] at keptFinal
      have otherSettled : (delivery.settledBy input).deliveryId ≠ kept.deliveryId := other
      constructor
      · rw [deliveries, before.deliveries.find_update (delivery.settledBy input)
          deliveryPresent, if_neg otherSettled]
        exact keptPresent
      · unfold attemptsOf
        rw [attempts]
        exact before.attempts.filter_update (attempt.endedBy input) attemptPresent _
          (by simp [sameDelivery, other])
          (by simp [AttemptRow.endedBy, sameDelivery, other])

theorem ledgerStep_frozen (change : LedgerStep before after) (correct : LedgerCorrect before) :
    FinalFrozen before after := by
  cases change with
  | work change => exact workStep_frozen change correct
  | enqueue row pending inserted attempts receipts deadLetters =>
    intro kept keptPresent keptFinal
    constructor
    · exact before.deliveries.kept_insert after.deliveries row inserted keptPresent
    · simp [attemptsOf, attempts]

theorem ledgerPath_frozen (path : LedgerPath before after) (correct : LedgerCorrect before) :
    FinalFrozen before after := by
  induction path with
  | refl => exact finalFrozen_refl before
  | tail earlier change ih =>
    have midCorrect := ledgerPath_correct earlier correct
    exact finalFrozen_trans _ _ _ ih (ledgerStep_frozen change midCorrect)

theorem run_frozen (options : ConnectorOptions) (ops : List DeliveryOp)
    (correct : LedgerCorrect tables) : FinalFrozen tables (run (step options) tables ops) :=
  run_relates (step options) LedgerCorrect FinalFrozen finalFrozen_refl finalFrozen_trans
    (fun reached op reachedCorrect =>
      ledgerPath_correct (step_path options reached op) reachedCorrect)
    (fun reached op reachedCorrect =>
      ledgerPath_frozen (step_path options reached op) reachedCorrect)
    tables ops correct

/-- The books of one delivery: at most one acceptance, a receipt exactly when it
was delivered, one live attempt under its own token exactly while it is being
delivered, and a dead letter exactly when it was given up. -/
structure DeliveryAccounted (tables : ConnectorTables) (delivery : DeliveryRow) : Prop where
  acceptedOnce :
    ((attemptsOf tables delivery.deliveryId).filter
      (fun attempt => decide (attempt.status = .accepted))).length ≤ 1
  deliveredIff : delivery.status = .delivered ↔ (receiptsOf tables delivery.deliveryId).length = 1
  deliveringIff :
    delivery.status = .delivering ↔
      ∃ attempt,
        (attemptsOf tables delivery.deliveryId).filter (fun row => row.status.live) = [attempt] ∧
        delivery.claimToken = some attempt.claimToken
  givenUpIff :
    (delivery.status = .dead ∨ delivery.status = .uncertain) ↔
      deadLettersOf tables delivery.deliveryId ≠ []

theorem attemptCount_eq_length (tables : ConnectorTables) (deliveryId : String)
    (counted : AttemptStatus → Bool) :
    ((attemptsOf tables deliveryId).filter (fun row => counted row.status)).length =
      attemptCount tables.attempts deliveryId counted := by
  unfold attemptsOf attemptCount
  rw [← List.countP_eq_length_filter, List.countP_filter]
  exact List.countP_congr fun row _ => by simp [and_comm]

theorem accounted_of_correct (correct : LedgerCorrect tables)
    (deliveryIn : delivery ∈ tables.deliveries.rows) : DeliveryAccounted tables delivery := by
  have present := tables.deliveries.find_of_mem deliveryIn
  have counts := correct.tallies delivery.deliveryId
  have status : statusOf tables delivery.deliveryId = some delivery.status := by
    simp [statusOf, present]
  rw [status] at counts
  have liveCount : attemptCount tables.attempts delivery.deliveryId AttemptStatus.live =
      (expected (some delivery.status)).live := congrArg Tally.live counts
  have acceptedCount : attemptCount tables.attempts delivery.deliveryId isAccepted =
      (expected (some delivery.status)).accepted := congrArg Tally.accepted counts
  have liveLength := attemptCount_eq_length tables delivery.deliveryId AttemptStatus.live
  constructor
  · have sameTest :
        (fun attempt : AttemptRow => decide (attempt.status = .accepted)) =
          (fun attempt => isAccepted attempt.status) := by
      funext attempt
      cases attempt.status <;> rfl
    rw [sameTest, attemptCount_eq_length, acceptedCount]
    cases delivery.status <;> simp [expected]
  · have receipts := congrArg Tally.receipts counts
    simp only [tally, receiptCount, List.countP_eq_length_filter] at receipts
    unfold receiptsOf
    rw [receipts]
    cases delivery.status <;> simp [expected]
  · rw [liveCount] at liveLength
    constructor
    · intro delivering
      rw [delivering] at liveLength
      obtain ⟨attempt, only⟩ := List.length_eq_one_iff.mp liveLength
      have selected : attempt ∈ (attemptsOf tables delivery.deliveryId).filter
          (fun row => row.status.live) := by
        rw [only]
        simp
      obtain ⟨ofDelivery, live⟩ := List.mem_filter.mp selected
      obtain ⟨attemptIn, named⟩ := List.mem_filter.mp ofDelivery
      have sameId : attempt.deliveryId = delivery.deliveryId := by simpa using named
      refine ⟨attempt, only, correct.held attempt attemptIn live delivery ?_⟩
      rw [sameId]
      exact present
    · rintro ⟨attempt, only, -⟩
      rw [only] at liveLength
      cases settled : delivery.status <;> simp [settled, expected] at liveLength
      rfl
  · have letters := congrArg Tally.deadLetters counts
    simp only [tally, deadLetterCount, List.countP_eq_length_filter] at letters
    unfold deadLettersOf
    rw [← List.length_pos_iff, letters]
    cases delivery.status <;> simp [expected]

/-- Connector dispatch over every interleaving of workers, hosts and expiries:
once an attempt of a delivery ended `UNCERTAIN` or `ACCEPTED` its attempts are
final, and the books of every delivery balance. -/
theorem connector_dispatch_at_most_once (options : ConnectorOptions)
    (ops : List DeliveryOp) :
    (∀ attempt ∈ (run (step options) ConnectorTables.empty ops).attempts.rows,
      attempt.status = .uncertain ∨ attempt.status = .accepted →
      ∀ later,
        attemptsOf (run (step options) ConnectorTables.empty (ops ++ later))
            attempt.deliveryId =
          attemptsOf (run (step options) ConnectorTables.empty ops) attempt.deliveryId) ∧
    ∀ delivery ∈ (run (step options) ConnectorTables.empty ops).deliveries.rows,
      DeliveryAccounted (run (step options) ConnectorTables.empty ops) delivery := by
  have correct := run_correct options ConnectorTables.empty ops ledgerCorrect_empty
  constructor
  · intro attempt attemptIn ended later
    rw [run_append]
    have counts := correct.tallies attempt.deliveryId
    -- an ended attempt of this kind is counted only under a final status
    have counted : 0 < (tally (run (step options) ConnectorTables.empty ops)
        attempt.deliveryId).accepted + (tally (run (step options) ConnectorTables.empty ops)
        attempt.deliveryId).uncertain := by
      rcases ended with isUnsure | isTaken
      · apply Nat.add_pos_right
        exact List.countP_pos_iff.mpr ⟨attempt, attemptIn, by simp [isUnsure, isUncertain]⟩
      · apply Nat.add_pos_left
        exact List.countP_pos_iff.mpr ⟨attempt, attemptIn, by simp [isTaken, isAccepted]⟩
    rw [counts] at counted
    cases found : (run (step options) ConnectorTables.empty ops).deliveries.find
        attempt.deliveryId with
    | none => simp [statusOf, found, expected] at counted
    | some delivery =>
      have sameId := Table.key_of_find _ found
      have final : finalStatus delivery.status = true := by
        simp only [statusOf, found, Option.map_some] at counted
        cases status : delivery.status <;> simp_all [expected, finalStatus]
      rw [← sameId] at found ⊢
      exact (run_frozen options later correct delivery found final).2
  · intro delivery deliveryIn
    exact accounted_of_correct correct deliveryIn

end OpenRill.Connectors.DispatchOnce
