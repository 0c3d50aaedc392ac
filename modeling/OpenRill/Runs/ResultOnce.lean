import OpenRill.Runs.CallEntries

/-!
# A result is delivered once

The answer of a delegated child to the call of its parent. The completion of a
child stores the answer with its checkpoint when it finds the delivery pending,
and the delivery is pending as long as there is no answer: over every run of the
host the answer and the checkpoint are stored once, and the parent resumes once.
The parent that is about to suspend, though, suspends only when it finds the
delivery still pending.
-/

namespace OpenRill.Runs.ResultOnce

open Lib Lib.Transaction Ledger Delegations Lifecycle DelegationService
open OpenRill.Runs.Operations (Call callAt delegatedOps mainHost smallBudget)
open LedgerRules DelegationRules WaitProtocol CallEntries

variable {now : Nat} {toolCallId runId delegationId parentRunId : String}
variable {delivery : ResultDeliveryRow} {options : RunOptions} {tables base : RunTables}
variable {host : Host} {parentRun run : RunRow} {deliveries : Table ResultDeliveryRow.delegationId}
variable {suspension : Suspension}

section Answering

variable {base : RunStore}

theorem findToolResult_none {store : RunStore} {conversationId : String}
    (unanswered : answers store conversationId toolCallId = 0) :
    findToolResult (listMessages store conversationId) toolCallId = none := by
  unfold answers at unanswered
  rw [List.countP_eq_zero] at unanswered
  exact List.find?_eq_none.mpr unanswered

theorem storeResult_answers {result : TerminalResult} {messageId : String}
    (unanswered : answers base parentRun.conversationId delivery.parentToolCallId = 0) :
    Ensures (Heard base noEntry noEntry) (storeResult delivery result parentRun now messageId)
      (fun _ => Heard base (oneEntry parentRun.conversationId delivery.parentToolCallId)
        noEntry) := by
  apply ensures_at
  intro store heard
  apply ensures_read
  have still : answers store parentRun.conversationId delivery.parentToolCallId = 0 := by
    rw [heard.answers, unanswered]
    rfl
  simp only [findToolResult_none still]
  refine ensures_result (insertMessage_writes heard _) ?_
  rintro _ _ ⟨sequence, counted, heardThen, rfl⟩
  refine { runs := heardThen.runs, answers := ?_, checkpoints := heardThen.checkpoints }
  intro conversationId toolCallId
  rw [answers_of_message, heardThen.answers]
  have answering : answersCall toolCallId
      { messageId := messageId
        conversationId := parentRun.conversationId
        sequence := sequence
        role := .tool
        content := resultMessage delivery result
        createdAt := now } = decide (delivery.parentToolCallId = toolCallId) := rfl
  unfold MessageInput.toRow
  rw [answering]
  unfold noEntry oneEntry
  by_cases here : parentRun.conversationId = conversationId
  · by_cases own : delivery.parentToolCallId = toolCallId
    · simp [here, own]
    · simp [here, own, Ne.symm own]
  · simp [here, Ne.symm here]

theorem checkpoint_closes {answered : String → String → Nat} {toolName : String}
    {attemptId : Option String} {eventId : String}
    (unclosed : checkpoints base runId toolCallId = 0) :
    Ensures (Heard base answered noEntry)
      (appendRunEvent runId attemptId "run.checkpoint"
        (.object
          [("isError", .flag false), ("kind", .text "tool.completed"), ("name", .text toolName),
            ("toolCallId", .text toolCallId)])
        ("checkpoint:tool:" ++ toolCallId) now eventId)
      (fun _ => Heard base answered (oneEntry runId toolCallId)) := by
  apply ensures_at
  intro store heard
  have still : checkpoints store runId toolCallId = 0 := by
    rw [heard.checkpoints, unclosed]
    rfl
  apply ensures_inspect_then
  rintro _ rfl
  split
  next row existing =>
    refine ensures_result (ensures_demand _ _) ?_
    rintro _ _ ⟨-, sameType, -, samePayload⟩
    exfalso
    have rowIn := List.mem_of_find?_eq_some existing
    have own := List.find?_some existing
    simp only [decide_eq_true_eq] at own
    unfold checkpoints at still
    rw [List.countP_eq_zero] at still
    apply still row
    · unfold listEvents
      rw [List.mem_filter]
      exact ⟨rowIn, decide_eq_true own.1⟩
    · unfold closesCall
      rw [sameType, ← hasMember_sorted, samePayload, hasMember_sorted]
      simp [lifecycleEvent, Json.hasMember]
  next =>
    have stamped : Keeps (Heard base answered noEntry) (nextEventSequence runId now) :=
      nextEventSequence_heard runId now
    refine ensures_bind (ensures_from _ stamped ?_) fun sequence => ?_
    · rintro _ rfl
      exact heard
    apply ensures_inspect_then
    intro _ _
    apply ensures_demand_then
    intro _
    apply ensures_change
    intro reached counted
    refine { runs := counted.runs, answers := counted.answers, checkpoints := ?_ }
    intro otherRun otherCall
    rw [checkpoints_of_event, counted.checkpoints]
    unfold noEntry oneEntry closesCall lifecycleEvent EventInput.toRow Json.hasMember
    by_cases here : runId = otherRun
    · by_cases own : toolCallId = otherCall
      · simp [here, own]
      · simp [here, own, Ne.symm own]
    · simp [here, Ne.symm here]

theorem deliverResult_answers (current : DelegationRow) (delivery : ResultDeliveryRow)
    (outcome : DelegationOutcome) (result : TerminalResult) (parentRun : RunRow) (now : Nat)
    (createId : Nat → String)
    (unanswered : answers base parentRun.conversationId delivery.parentToolCallId = 0)
    (unclosed : checkpoints base parentRun.runId delivery.parentToolCallId = 0) :
    Ensures (Heard base noEntry noEntry)
      (deliverResult current delivery outcome result parentRun now createId)
      (fun _ => Heard base (oneEntry parentRun.conversationId delivery.parentToolCallId)
        (oneEntry parentRun.runId delivery.parentToolCallId)) := by
  let answered := oneEntry parentRun.conversationId delivery.parentToolCallId
  have rules := @heard_rules base answered noEntry mainHost.completionRule
  refine ensures_bind (storeResult_answers unanswered) fun _ => ?_
  refine ensures_bind
    (appendRunEvent_keeps rules.events _ _ _ _ _ _ _ (Or.inr (by decide))) fun _ => ?_
  refine ensures_bind
    (appendRunEvent_keeps rules.events _ _ _ _ _ _ _ (Or.inr (by decide))) fun _ => ?_
  exact checkpoint_closes unclosed

end Answering

/-- The ledger and the deliveries are those of the tables before. -/
def Settled (base tables : RunTables) : Prop :=
  tables.ledger = base.ledger ∧
    tables.delegations.resultDeliveries = base.delegations.resultDeliveries

theorem settled_spared (settled : Settled base tables) : Spared base tables := by
  apply spared_of_heard
  · rw [settled.1]
    exact heard_refl
  · exact settled.2

theorem onDelegations_settled {Value : Type} {body : DelegationTransaction Value}
    (same : Keeps (SameDeliveries base.delegations.resultDeliveries) body) :
    Keeps (Settled base) (onDelegations body) := by
  intro tables value reached settled done
  constructor
  · exact @onDelegations_keeps (fun ledger => ledger = base.ledger) _ body tables value reached
      settled.1 done
  · exact onDelegations_kept same tables value reached settled.2 done

theorem terminalResult_settled (delegation : DelegationRow) (outcome : DelegationOutcome) :
    Keeps (Settled base) (onLedger (terminalResult delegation outcome)) := by
  intro tables value reached settled done
  constructor
  · have kept := @terminalResult_keeps (fun ledger => ledger = base.ledger) delegation outcome
    exact onLedger_keeps kept tables value reached settled.1 done
  · have kept := @onLedger_spares
      (SameDeliveries base.delegations.resultDeliveries) _ (terminalResult delegation outcome)
    exact kept tables value reached settled.2 done

theorem settleDelegation_names (current : DelegationRow) (outcome : DelegationOutcome)
    (resultSha256 : String) (now : Nat) {before : DelegationStore → Prop} :
    Ensures before (settleDelegation current outcome resultSha256 now)
      (fun updated _ => updated.delegationId = current.delegationId) := by
  apply ensures_ite
  · intro _
    refine @ensures_bind _ _ _ _ _ (fun _ _ => True) _ _ _ (fun _ _ _ _ _ => trivial) ?_
    intro _
    apply ensures_inspect_then
    intro store _
    refine ensures_mono (ensures_expect _ _) (fun _ holds => holds) ?_
    rintro updated _ ⟨-, found⟩
    exact store.delegations.key_of_find found
  · intro _
    apply ensures_demand_then
    intro _
    exact ensures_pure _ fun _ _ => rfl

def deliveredAs (delivery : ResultDeliveryRow) (digest : String) (deliveredAt : Nat) :
    ResultDeliveryRow :=
  { delivery with state := .delivered digest deliveredAt, updatedAt := deliveredAt }

structure Delivers (base reached : RunTables) (delivery : ResultDeliveryRow) (run : RunRow) :
    Prop where
  found : base.delegations.resultDeliveries.find delivery.delegationId = some delivery
  pending : delivery.state = .pending
  parent : base.ledger.runs.find delivery.parentRunId = some run
  written : ∃ digest deliveredAt,
    reached.delegations.resultDeliveries =
      base.delegations.resultDeliveries.update (deliveredAs delivery digest deliveredAt)
  heard : Heard base.ledger (oneEntry run.conversationId delivery.parentToolCallId)
    (oneEntry delivery.parentRunId delivery.parentToolCallId) reached.ledger

theorem Delivers.settled {reached : RunTables} (delivers : Delivers base reached delivery run) :
    ∀ other ∈ reached.delegations.resultDeliveries.rows,
      other.delegationId = delivery.delegationId → other.state ≠ .pending := by
  intro other otherIn own pending
  obtain ⟨digest, deliveredAt, written⟩ := delivers.written
  rw [written] at otherIn
  have found := Table.find_update base.delegations.resultDeliveries
    (deliveredAs delivery digest deliveredAt) delivers.found delivery.delegationId
  rw [if_pos (show (deliveredAs delivery digest deliveredAt).delegationId =
    delivery.delegationId from rfl)] at found
  have same := Table.row_unique _ otherIn (Table.mem_of_find _ found) own
  rw [same] at pending
  cases pending

/-- What a completion does: no call notices it, or it answers the call of its
parent, which resumes unless it has ended. The result does not wait any longer. -/
def Answered (base : RunTables) (delegationId : String) (completion : DelegationCompletion)
    (reached : RunTables) : Prop :=
  completion.delegation.delegationId = delegationId ∧
    (∀ delivery ∈ reached.delegations.resultDeliveries.rows,
      delivery.delegationId = delegationId → delivery.state ≠ .pending) ∧
    ((Spared base reached ∧ completion.resumeParent = false) ∨
      ∃ delivery run, delivery.delegationId = delegationId ∧
        Delivers base reached delivery run ∧
        completion.resumeParent = !run.status.terminal)

def PendingNew (tables : RunTables) : Prop :=
  ∀ delivery ∈ tables.delegations.resultDeliveries.rows, delivery.state = .pending →
    ∀ run, tables.ledger.runs.find delivery.parentRunId = some run →
      answers tables.ledger run.conversationId delivery.parentToolCallId = 0 ∧
        checkpoints tables.ledger delivery.parentRunId delivery.parentToolCallId = 0

theorem markResultDelivered_writes (found : deliveries.find delivery.delegationId = some delivery)
    (digest : String) (now : Nat) :
    Ensures (SameDeliveries deliveries) (markResultDelivered delivery.delegationId digest now)
      (fun _ => SameDeliveries (deliveries.update (deliveredAs delivery digest now))) := by
  apply ensures_at
  intro store same
  apply ensures_inspect_then
  rintro _ rfl
  apply ensures_expect_then
  intro row isRow
  have sameRow : row = delivery := by
    rw [same, found, Option.some.injEq] at isRow
    exact isRow.symm
  apply ensures_demand_then
  intro _
  apply ensures_change
  rintro _ rfl
  rw [same, sameRow]
  rfl

def Stored (base : RunTables) (delivery : ResultDeliveryRow) (parentRun : RunRow)
    (tables : RunTables) : Prop :=
  Heard base.ledger (oneEntry parentRun.conversationId delivery.parentToolCallId)
      (oneEntry parentRun.runId delivery.parentToolCallId) tables.ledger ∧
    SameDeliveries base.delegations.resultDeliveries tables.delegations

theorem deliverResult_stores (current : DelegationRow) (delivery : ResultDeliveryRow)
    (outcome : DelegationOutcome) (result : TerminalResult) (parentRun : RunRow) (now : Nat)
    (createId : Nat → String)
    (unanswered : answers base.ledger parentRun.conversationId delivery.parentToolCallId = 0)
    (unclosed : checkpoints base.ledger parentRun.runId delivery.parentToolCallId = 0) :
    Ensures (Settled base)
      (onLedger (deliverResult current delivery outcome result parentRun now createId))
      (fun _ => Stored base delivery parentRun) := by
  apply ensures_focus
  intro whole value ledger settled done
  constructor
  · apply deliverResult_answers current delivery outcome result parentRun now createId
      unanswered unclosed whole.ledger value ledger _ done
    rw [settled.1]
    exact heard_refl
  · exact settled.2

theorem markDelivered_delivers
    (found : base.delegations.resultDeliveries.find delivery.delegationId = some delivery)
    (pending : delivery.state = .pending)
    (parent : base.ledger.runs.find delivery.parentRunId = some parentRun) (digest : String)
    (now : Nat) :
    Ensures (Stored base delivery parentRun)
      (onDelegations (do
        markResultDelivered delivery.delegationId digest now
        let _ ← deleteWait parentRun.runId delivery.delegationId
        pure ()))
      (fun _ reached => Delivers base reached delivery parentRun) := by
  rintro whole value reached ⟨heard, same⟩ done
  have writes := ensures_bind (markResultDelivered_writes found digest now) fun _ =>
    keeps_bind (deleteWait_keeps same_waitRules parentRun.runId delivery.delegationId)
      fun _ => keeps_pure ()
  have sameLedger : reached.ledger = whole.ledger :=
    @onDelegations_keeps (fun ledger => ledger = whole.ledger) _ _ whole value reached rfl done
  refine { found := found, pending := pending, parent := parent, written := ?_, heard := ?_ }
  · exact ⟨_, _, onDelegations_ensures writes whole value reached same done⟩
  · rw [base.ledger.runs.key_of_find parent] at heard
    rw [sameLedger]
    exact heard

theorem settleDelegation_settled (current : DelegationRow) (outcome : DelegationOutcome)
    {digest : String} (now : Nat) :
    Ensures (Settled base) (onDelegations (settleDelegation current outcome digest now))
      (fun updated tables => updated.delegationId = current.delegationId ∧
        Settled base tables) := by
  intro tables updated reached settled done
  constructor
  · have names := @settleDelegation_names current outcome digest now (fun _ => True)
    exact onDelegations_ensures names tables updated reached trivial done
  · refine onDelegations_settled ?_ tables updated reached settled done
    refine ensures_mono (settleDelegation_settles same_settleRules current outcome _ now)
      (fun _ same => same) ?_
    rintro _ _ ⟨status, -, same⟩
    exact same

theorem completeEnded_answers (current : DelegationRow) {outcome : DelegationOutcome} (now : Nat)
    (createId : Nat → String) (fresh : PendingNew base) :
    Ensures (fun tables => tables = base) (completeEnded options current outcome now createId)
      (Answered base current.delegationId) := by
  refine ensures_bind
    (ensures_from (Settled base) (terminalResult_settled current outcome) ?_) fun result => ?_
  · rintro _ rfl
    exact ⟨rfl, rfl⟩
  refine ensures_bind
    (onDelegations_settled (same_settleRules.released current True current.status outcome now))
    fun _ => ?_
  refine ensures_call (settleDelegation_settled current outcome now) fun updated isNamed => ?_
  apply ensures_at
  intro tables settled
  apply ensures_read
  split
  next absent =>
    refine ensures_return _ ⟨isNamed, ?_, Or.inl ⟨settled_spared settled, rfl⟩⟩
    intro delivery deliveryIn own
    exact absurd own ((tables.delegations.resultDeliveries.find_none_iff _).mp absent delivery
      deliveryIn)
  next delivery found =>
    split
    next isDelivered =>
      apply ensures_demand_then
      intro _
      refine ensures_return _ ⟨isNamed, ?_, Or.inl ⟨settled_spared settled, rfl⟩⟩
      intro other otherIn own pending
      have sameKey : other.delegationId = delivery.delegationId :=
        own.trans (tables.delegations.resultDeliveries.key_of_find found).symm
      have same := tables.delegations.resultDeliveries.row_unique otherIn
        (tables.delegations.resultDeliveries.mem_of_find found) sameKey
      rw [same, isDelivered] at pending
      cases pending
    next isPending =>
      apply ensures_expect_then
      intro parentRun foundRun
      rw [settled.2] at found
      rw [settled.1] at foundRun
      have own : delivery.delegationId = current.delegationId :=
        base.delegations.resultDeliveries.key_of_find found
      rw [← own] at found
      have deliveryIn := base.delegations.resultDeliveries.mem_of_find found
      obtain ⟨unanswered, unclosed⟩ :=
        fresh delivery deliveryIn isPending parentRun foundRun
      rw [← base.ledger.runs.key_of_find foundRun] at unclosed
      have stores := deliverResult_stores current delivery outcome result parentRun now
        createId unanswered unclosed
      have delivers := markDelivered_delivers found isPending foundRun
        (options.resultSha256 result) now
      rw [own] at delivers
      refine ensures_bind (ensures_from _ stores ?_) fun _ => ?_
      · rintro _ rfl
        exact settled
      refine ensures_bind delivers fun _ => ensures_pure _ ?_
      intro reached delivered
      refine ⟨isNamed, ?_, Or.inr ⟨delivery, parentRun, own, delivered, rfl⟩⟩
      rw [← own]
      exact delivered.settled

def ChildAnswered (base : RunTables) (childRunId : String) :
    Option DelegationCompletion → RunTables → Prop
  | none, reached => reached = base
  | some completion, reached =>
    ∃ current childRun, getDelegationByChildRun base.delegations childRunId = some current ∧
      base.ledger.runs.find childRunId = some childRun ∧ childRun.status.terminal = true ∧
      Answered base current.delegationId completion reached

theorem completeChild_answers (childRunId : String) (now : Nat) (createId : Nat → String)
    (fresh : PendingNew base) :
    Ensures (fun tables => tables = base)
      (DelegationService.completeChild options childRunId now createId)
      (ChildAnswered base childRunId) := by
  apply ensures_read
  split
  next => exact ensures_return none rfl
  next current found =>
    split
    next => exact ensures_return none rfl
    next childRun foundRun =>
      apply ensures_ite
      · intro ended
        refine ensures_bind (completeEnded_answers current now createId fresh)
          fun completion => ensures_pure _ ?_
        intro reached answered
        exact ⟨current, childRun, found, foundRun, ended, answered⟩
      · exact fun _ => ensures_return none rfl

/-- The wait of a call has its delivery already, or gets it. -/
def Bound (deliveries : Table ResultDeliveryRow.delegationId)
    (parentRunId delegationId : String) (identity : ToolWaitIdentity) (now : Nat)
    (store : DelegationStore) : Prop :=
  (∃ existing ∈ deliveries.rows, existing.parentRunId = parentRunId ∧
      existing.parentToolCallId = identity.parentToolCallId) ∨
    deliveries.insert (newResultDelivery parentRunId delegationId identity now) =
      some store.resultDeliveries

theorem bindResultDelivery_binds {identity : ToolWaitIdentity} :
    Ensures (SameDeliveries deliveries)
      (bindResultDelivery parentRunId delegationId now (some identity))
      (fun _ => Bound deliveries parentRunId delegationId identity now) := by
  apply ensures_at
  intro store same
  apply ensures_read
  split
  next existing found =>
    refine ensures_mono (ensures_demand _ _) (fun _ isStore => isStore) ?_
    rintro _ _ ⟨-, -, ownRun, -, ownCall, -⟩
    left
    refine ⟨existing, ?_, ownRun, ownCall⟩
    rw [← same]
    cases byId : store.resultDeliveries.find delegationId with
    | some row =>
      rw [byId] at found
      rw [← Option.some.inj found]
      exact store.resultDeliveries.mem_of_find byId
    | none =>
      rw [byId] at found
      exact List.mem_of_find?_eq_some found
  next =>
    apply ensures_read
    apply ensures_demand_then
    intro _
    apply ensures_tryMap
    rintro _ inserted rfl isInserted
    right
    rw [← same]
    exact isInserted

theorem markWaiting_binds (parentRunId delegationId : String) (identity : ToolWaitIdentity)
    (now : Nat) :
    Ensures (OnDelegations (SameDeliveries deliveries))
      (markWaiting parentRunId delegationId (some identity) now)
      (fun _ => OnDelegations (Bound deliveries parentRunId delegationId identity now)) := by
  apply ensures_inspect_then
  intro _ _
  apply ensures_expect_then
  intro delegation _
  apply ensures_demand_then
  intro _
  apply ensures_demand_then
  intro _
  apply ensures_expect_then
  intro parentRun _
  apply ensures_demand_then
  intro _
  refine ensures_bind (checkIdentity_keeps parentRun (some identity)) fun _ => ?_
  apply onDelegations_ensures
  refine ensures_bind
    (keeps_whenever fun _ => updateDelegationStatus_keeps same_rules.toEnvelopeRules _) fun _ => ?_
  refine ensures_bind (insertWait_keeps same_waitRules _ _ _) fun _ => ?_
  refine ensures_bind bindResultDelivery_binds fun _ => ?_
  exact keeps_inspect fun _ _ => keeps_pure _

theorem markWaiting_ledger {identity : Option ToolWaitIdentity} {reached : RunTables}
    {waits : List WaitRow} (done : (markWaiting parentRunId delegationId identity now).run tables =
      .ok (waits, reached)) : reached.ledger = tables.ledger :=
  @markWaiting_keeps (fun ledger => ledger = tables.ledger) parentRunId delegationId identity
    now tables waits reached rfl done

variable {other : ResultDeliveryRow}

def replies (delivery : ResultDeliveryRow) : Nat :=
  match delivery.state with
  | .pending => 0
  | .delivered _ _ => 1

/-- The call has as many answers and checkpoints as its delivery says, and its run
has resumed for it no more often, and once unless it had ended. -/
structure OnceAnswered (host : Host) (delivery : ResultDeliveryRow) : Prop where
  answered : ∃ conversationId, conversationOf host.tables delivery = some conversationId ∧
    answers host.tables.ledger conversationId delivery.parentToolCallId = replies delivery
  closed : checkpoints host.tables.ledger delivery.parentRunId delivery.parentToolCallId =
    replies delivery
  resumedOnce : host.resumed.count delivery.delegationId ≤ replies delivery
  resumes : delivery.state ≠ .pending →
    host.resumed.count delivery.delegationId = 1 ∨ RunEnded host.tables delivery.parentRunId

structure Sound (host : Host) : Prop where
  calls : ∀ delivery ∈ host.tables.delegations.resultDeliveries.rows, OnceAnswered host delivery
  apart : ∀ one ∈ host.tables.delegations.resultDeliveries.rows,
    ∀ other ∈ host.tables.delegations.resultDeliveries.rows,
      one.parentToolCallId = other.parentToolCallId →
        conversationOf host.tables one = conversationOf host.tables other → one = other
  named : ∀ delegationId ∈ host.resumed,
    ∃ delivery ∈ host.tables.delegations.resultDeliveries.rows, delivery.delegationId = delegationId

theorem sound_empty : Sound Host.empty where
  calls _ deliveryIn := absurd deliveryIn List.not_mem_nil
  apart _ deliveryIn := absurd deliveryIn List.not_mem_nil
  named _ resumedIn := absurd resumedIn List.not_mem_nil

variable {reached : RunTables}

theorem pendingNew_of_sound (sound : Sound host) : PendingNew host.tables := by
  intro delivery deliveryIn pending run found
  have once := sound.calls delivery deliveryIn
  have none : replies delivery = 0 := by
    unfold replies
    rw [pending]
  obtain ⟨conversationId, isConversation, unanswered⟩ := once.answered
  have own : conversationId = run.conversationId := by
    unfold conversationOf at isConversation
    rw [found, Option.map_some, Option.some.injEq] at isConversation
    exact isConversation.symm
  constructor
  · rw [← own, unanswered, none]
  · rw [once.closed, none]

theorem sound_of_spared (sound : Sound host) (spared : Spared host.tables reached)
    (suspending : List Suspension) :
    Sound { tables := reached, suspending := suspending, resumed := host.resumed } where
  calls delivery deliveryIn := by
    rw [spared.deliveries] at deliveryIn
    have once := sound.calls delivery deliveryIn
    obtain ⟨conversationId, isConversation, counted⟩ := once.answered
    obtain ⟨stays, sameAnswers⟩ :=
      spared.conversations delivery deliveryIn conversationId isConversation
    refine
      { answered := ⟨conversationId, stays, sameAnswers.trans counted⟩
        closed := (spared.checkpoints delivery deliveryIn).trans once.closed
        resumedOnce := once.resumedOnce
        resumes := ?_ }
    intro answered
    rcases once.resumes answered with resumed | ended
    · exact Or.inl resumed
    · exact Or.inr (spared.ended _ ended)
  apart one oneIn other otherIn sameCall sameConversation := by
    rw [spared.deliveries] at oneIn otherIn
    obtain ⟨first, isFirst, -⟩ := (sound.calls one oneIn).answered
    obtain ⟨second, isSecond, -⟩ := (sound.calls other otherIn).answered
    apply sound.apart one oneIn other otherIn sameCall
    rw [(spared.conversations one oneIn first isFirst).1,
      (spared.conversations other otherIn second isSecond).1] at sameConversation
    rw [isFirst, isSecond, sameConversation]
  named delegationId resumedIn := by
    obtain ⟨delivery, deliveryIn, isId⟩ := sound.named delegationId resumedIn
    refine ⟨delivery, ?_, isId⟩
    rw [spared.deliveries]
    exact deliveryIn

theorem Delivers.rows (delivers : Delivers base reached delivery run) :
    ∃ digest deliveredAt, ∀ other, other ∈ reached.delegations.resultDeliveries.rows ↔
      other = deliveredAs delivery digest deliveredAt ∨
        (other ∈ base.delegations.resultDeliveries.rows ∧
          other.delegationId ≠ delivery.delegationId) := by
  obtain ⟨digest, deliveredAt, written⟩ := delivers.written
  refine ⟨digest, deliveredAt, fun other => ?_⟩
  rw [written]
  exact Table.mem_update_iff _ (deliveredAs delivery digest deliveredAt) delivers.found other

theorem Delivers.origin (delivers : Delivers base reached delivery run)
    (otherIn : other ∈ reached.delegations.resultDeliveries.rows) :
    ∃ before ∈ base.delegations.resultDeliveries.rows,
      before.delegationId = other.delegationId ∧ before.parentRunId = other.parentRunId ∧
        before.parentToolCallId = other.parentToolCallId := by
  obtain ⟨digest, deliveredAt, rows⟩ := delivers.rows
  rcases (rows other).mp otherIn with rfl | ⟨before, -⟩
  · exact ⟨delivery, Table.mem_of_find _ delivers.found, rfl, rfl, rfl⟩
  · exact ⟨other, before, rfl, rfl, rfl⟩

theorem conversationOf_congr {one : ResultDeliveryRow}
    (sameRun : one.parentRunId = other.parentRunId) :
    conversationOf tables one = conversationOf tables other := by
  unfold conversationOf
  rw [sameRun]

def resumedBy (host : Host) (delegationId : String) (run : RunRow) : List String :=
  if run.status.terminal = true then host.resumed else host.resumed ++ [delegationId]

section

variable (sound : Sound host) (delivers : Delivers host.tables reached delivery run)
include sound delivers

theorem delivers_once (digest : String) (deliveredAt : Nat) :
    OnceAnswered
      { tables := reached
        suspending := host.suspending
        resumed := resumedBy host delivery.delegationId run }
      (deliveredAs delivery digest deliveredAt) := by
  have deliveryIn := Table.mem_of_find _ delivers.found
  obtain ⟨unanswered, unclosed⟩ := pendingNew_of_sound sound delivery deliveryIn
    delivers.pending run delivers.parent
  have fresh : host.resumed.count delivery.delegationId = 0 := by
    have bound := (sound.calls delivery deliveryIn).resumedOnce
    unfold replies at bound
    rw [delivers.pending] at bound
    exact Nat.le_zero.mp bound
  have counted : (resumedBy host delivery.delegationId run).count delivery.delegationId =
      if run.status.terminal = true then 0 else 1 := by
    unfold resumedBy
    split
    next => exact fresh
    next => rw [List.count_append, fresh, List.count_singleton_self]
  refine
    { answered := ⟨run.conversationId, ?_, ?_⟩, closed := ?_, resumedOnce := ?_, resumes := ?_ }
  · apply conversationOf_heard delivers.heard
    unfold conversationOf deliveredAs
    rw [delivers.parent, Option.map_some]
  · dsimp only [deliveredAs]
    rw [delivers.heard.answers, unanswered]
    simp [oneEntry, replies]
  · dsimp only [deliveredAs]
    rw [delivers.heard.checkpoints, unclosed]
    simp [oneEntry, replies]
  · dsimp only [deliveredAs]
    rw [counted]
    split
    next => exact Nat.zero_le 1
    next => exact le_refl 1
  · intro _
    dsimp only [deliveredAs]
    rw [counted]
    by_cases ended : run.status.terminal = true
    · exact Or.inr (runEnded_heard delivers.heard ⟨run, delivers.parent, ended⟩)
    · exact Or.inl (if_neg ended)

theorem delivers_others (otherIn : other ∈ host.tables.delegations.resultDeliveries.rows)
    (different : other.delegationId ≠ delivery.delegationId) :
    OnceAnswered
      { tables := reached
        suspending := host.suspending
        resumed := resumedBy host delivery.delegationId run } other := by
  have once := sound.calls other otherIn
  have deliveryIn := Table.mem_of_find _ delivers.found
  obtain ⟨conversationId, isConversation, counted⟩ := once.answered
  have isDelivery : conversationOf host.tables delivery = some run.conversationId := by
    unfold conversationOf
    rw [delivers.parent, Option.map_some]
  have elsewhere : conversationId = run.conversationId →
      other.parentToolCallId ≠ delivery.parentToolCallId := by
    intro sameConversation sameCall
    apply different
    rw [sound.apart other otherIn delivery deliveryIn sameCall]
    rw [isConversation, isDelivery, sameConversation]
  have sameCount : (resumedBy host delivery.delegationId run).count other.delegationId =
      host.resumed.count other.delegationId := by
    unfold resumedBy
    split
    next => rfl
    next =>
      rw [List.count_append, List.count_singleton, if_neg, Nat.add_zero]
      intro same
      exact different (eq_of_beq same).symm
  refine
    { answered := ⟨conversationId, conversationOf_heard delivers.heard isConversation, ?_⟩
      closed := ?_
      resumedOnce := ?_
      resumes := ?_ }
  · rw [delivers.heard.answers, counted]
    unfold oneEntry
    rw [if_neg, Nat.add_zero]
    exact fun both => elsewhere both.1 both.2
  · rw [delivers.heard.checkpoints, once.closed]
    unfold oneEntry
    rw [if_neg, Nat.add_zero]
    rintro ⟨sameRun, sameCall⟩
    apply elsewhere _ sameCall
    rw [conversationOf_congr sameRun, isDelivery, Option.some.injEq] at isConversation
    exact isConversation.symm
  · dsimp only
    rw [sameCount]
    exact once.resumedOnce
  · intro answered
    rw [sameCount]
    rcases once.resumes answered with resumed | ended
    · exact Or.inl resumed
    · exact Or.inr (runEnded_heard delivers.heard ended)

end

theorem sound_of_delivers (sound : Sound host) {delivery : ResultDeliveryRow} {run : RunRow}
    (delivers : Delivers host.tables reached delivery run) :
    Sound
      { tables := reached
        suspending := host.suspending
        resumed := resumedBy host delivery.delegationId run } where
  calls other otherIn := by
    obtain ⟨digest, deliveredAt, rows⟩ := delivers.rows
    rcases (rows other).mp otherIn with rfl | ⟨before, different⟩
    · exact delivers_once sound delivers digest deliveredAt
    · exact delivers_others sound delivers before different
  apart one oneIn other otherIn sameCall sameConversation := by
    obtain ⟨first, firstIn, firstId, firstRun, firstCall⟩ := delivers.origin oneIn
    obtain ⟨second, secondIn, secondId, secondRun, secondCall⟩ := delivers.origin otherIn
    obtain ⟨before, isBefore, -⟩ := (sound.calls first firstIn).answered
    obtain ⟨after, isAfter, -⟩ := (sound.calls second secondIn).answered
    rw [← conversationOf_congr firstRun, ← conversationOf_congr secondRun,
      conversationOf_heard delivers.heard isBefore,
      conversationOf_heard delivers.heard isAfter] at sameConversation
    have same : first = second := by
      apply sound.apart first firstIn second secondIn
      · rw [firstCall, secondCall, sameCall]
      · rw [isBefore, isAfter, sameConversation]
    apply Table.row_unique _ oneIn otherIn
    rw [← firstId, ← secondId, same]
  named delegationId resumedIn := by
    have known : ∃ before ∈ host.tables.delegations.resultDeliveries.rows,
        before.delegationId = delegationId := by
      dsimp only [resumedBy] at resumedIn
      split at resumedIn
      next => exact sound.named delegationId resumedIn
      next =>
        rw [List.mem_append, List.mem_singleton] at resumedIn
        rcases resumedIn with before | rfl
        · exact sound.named delegationId before
        · exact ⟨delivery, Table.mem_of_find _ delivers.found, rfl⟩
    obtain ⟨before, beforeIn, isId⟩ := known
    obtain ⟨digest, deliveredAt, rows⟩ := delivers.rows
    by_cases own : before.delegationId = delivery.delegationId
    · exact ⟨deliveredAs delivery digest deliveredAt, (rows _).mpr (Or.inl rfl),
        own.symm.trans isId⟩
    · exact ⟨before, (rows _).mpr (Or.inr ⟨beforeIn, own⟩), isId⟩

theorem conversationOf_ledger (same : reached.ledger = tables.ledger)
    (delivery : ResultDeliveryRow) :
    conversationOf reached delivery = conversationOf tables delivery := by
  unfold conversationOf
  rw [same]

theorem runEnded_ledger (same : reached.ledger = tables.ledger) (ended : RunEnded tables runId) :
    RunEnded reached runId := by
  unfold RunEnded
  rw [same]
  exact ended

theorem sound_of_wait (sound : Sound host) {suspending : List Suspension}
    (sameLedger : reached.ledger = host.tables.ledger) {row : ResultDeliveryRow}
    (inserted : host.tables.delegations.resultDeliveries.insert row =
      some reached.delegations.resultDeliveries) (pending : row.state = .pending)
    (found : host.tables.ledger.runs.find row.parentRunId = some run)
    (isNew : NewCall host.tables run row.parentToolCallId) :
    Sound { tables := reached, suspending := suspending, resumed := host.resumed } := by
  have rows := Table.mem_insert_iff _ _ row inserted
  obtain ⟨absent, -⟩ := (Table.insert_some_iff _ _ row).mp inserted
  obtain ⟨unanswered, unclosed, elsewhere⟩ := isNew
  have isConversation : conversationOf host.tables row = some run.conversationId := by
    unfold conversationOf
    rw [found, Option.map_some]
  have sameConversation := conversationOf_ledger sameLedger
  have noReply : replies row = 0 := by
    unfold replies
    rw [pending]
  refine { calls := ?_, apart := ?_, named := ?_ }
  · intro delivery deliveryIn
    rcases (rows delivery).mp deliveryIn with before | rfl
    · have once := sound.calls delivery before
      obtain ⟨conversationId, isOne, counted⟩ := once.answered
      refine
        { answered := ⟨conversationId, (sameConversation delivery).trans isOne, ?_⟩
          closed := ?_
          resumedOnce := once.resumedOnce
          resumes := ?_ }
      · dsimp only
        rw [sameLedger, counted]
      · dsimp only
        rw [sameLedger, once.closed]
      · intro answered
        rcases once.resumes answered with resumed | ended
        · exact Or.inl resumed
        · exact Or.inr (runEnded_ledger sameLedger ended)
    · refine
        { answered := ⟨run.conversationId, (sameConversation delivery).trans isConversation, ?_⟩
          closed := ?_
          resumedOnce := ?_
          resumes := fun answered => absurd pending answered }
      · dsimp only
        rw [sameLedger, unanswered, noReply]
      · dsimp only
        rw [sameLedger, noReply, ← host.tables.ledger.runs.key_of_find found]
        exact unclosed
      · have never : delivery.delegationId ∉ host.resumed := by
          intro resumedIn
          obtain ⟨before, beforeIn, same⟩ := sound.named _ resumedIn
          exact absent before beforeIn same
        rw [noReply, List.count_eq_zero.mpr never]
  · intro one oneIn other otherIn sameCall same
    rw [sameConversation, sameConversation] at same
    rcases (rows one).mp oneIn with oneBefore | rfl
    · rcases (rows other).mp otherIn with otherBefore | rfl
      · exact sound.apart one oneBefore other otherBefore sameCall same
      · exact absurd (same.trans isConversation) (elsewhere one oneBefore sameCall)
    · rcases (rows other).mp otherIn with otherBefore | rfl
      · exact absurd (same.symm.trans isConversation) (elsewhere other otherBefore sameCall.symm)
      · rfl
  · intro delegationId resumedIn
    obtain ⟨delivery, deliveryIn, isId⟩ := sound.named delegationId resumedIn
    exact ⟨delivery, (rows delivery).mpr (Or.inl deliveryIn), isId⟩

/-- No kernel holds the wait of the child's delegation in memory, unless its run has
ended: the child has not completed between the wait and the suspension. -/
def Undisturbed (suspending : List Suspension) (tables : RunTables) (childRunId : String) :
    Prop :=
  match getDelegationByChildRun tables.delegations childRunId,
      tables.ledger.runs.find childRunId with
  | some delegation, some childRun =>
    childRun.status.terminal = true →
      ∀ suspension ∈ suspending, suspension.delegationId = delegation.delegationId →
        RunEnded tables suspension.runId
  | _, _ => True

instance (tables : RunTables) (runId : String) : Decidable (RunEnded tables runId) :=
  decidable_of_iff
    ((tables.ledger.runs.find runId).any (fun run => run.status.terminal) = true)
    (Option.any_eq_true _ _)

instance (suspending : List Suspension) (tables : RunTables) (childRunId : String) :
    Decidable (Undisturbed suspending tables childRunId) := by
  unfold Undisturbed
  split <;> infer_instance

def NoRace (options : RunOptions) (host : Host) : WaitOp → Prop
  | .completeChild childRunId _ => Undisturbed host.suspending host.tables childRunId
  | .terminateChild childRunId termination errorCode call =>
    match (terminateRun options childRunId termination errorCode call.now call.createId).run
        host.tables with
    | .ok (true, reached) => Undisturbed host.suspending reached childRunId
    | _ => True
  | _ => True

instance (options : RunOptions) (host : Host) (op : WaitOp) :
    Decidable (NoRace options host op) := by
  unfold NoRace
  split
  next => infer_instance
  next => split <;> infer_instance
  next => infer_instance

inductive Moves (host : Host) (safe : Prop) : Host → Prop
  | spares (reached : RunTables) (suspending : List Suspension)
      (spared : Spared host.tables reached)
      (fewer : ∀ suspension ∈ suspending, suspension ∈ host.suspending) :
      Moves host safe { tables := reached, suspending := suspending, resumed := host.resumed }
  | waits (reached : RunTables) (suspension : Suspension) (row : ResultDeliveryRow)
      (run : RunRow) (sameLedger : reached.ledger = host.tables.ledger)
      (inserted : host.tables.delegations.resultDeliveries.insert row =
        some reached.delegations.resultDeliveries)
      (pending : row.state = .pending) (ownId : row.delegationId = suspension.delegationId)
      (ownRun : row.parentRunId = suspension.runId)
      (ownAttempt : row.parentAttemptId = suspension.attemptId)
      (ownCall : row.parentToolCallId = suspension.toolCallId)
      (found : host.tables.ledger.runs.find row.parentRunId = some run)
      (isNew : NewCall host.tables run row.parentToolCallId) :
      Moves host safe
        { tables := reached
          suspending := host.suspending ++ [suspension]
          resumed := host.resumed }
  | delivers (between reached : RunTables) (delivery : ResultDeliveryRow) (run : RunRow)
      (spared : Spared host.tables between) (delivered : Delivers between reached delivery run)
      (undisturbed : safe → ∀ suspension ∈ host.suspending,
        suspension.delegationId = delivery.delegationId → RunEnded between suspension.runId) :
      Moves host safe
        { tables := reached
          suspending := host.suspending
          resumed := resumedBy host delivery.delegationId run }

variable {safe : Prop}

theorem moves_same : Moves host safe host :=
  Moves.spares host.tables host.suspending (spared_refl host.tables) fun _ here => here

theorem agentWait_moves (call : Call) :
    Moves host safe (agentWait runId delegationId toolCallId call host) := by
  unfold agentWait
  split
  next => exact moves_same
  next run found =>
    split
    next => exact moves_same
    next attemptId _ =>
      split
      next ready =>
        split
        next => exact moves_same
        next waits reached done =>
          have isNew := ready.2.2
          have sameLedger := markWaiting_ledger done
          have bound := markWaiting_binds runId delegationId
            (waitIdentity attemptId toolCallId) call.now host.tables waits reached rfl done
          rcases bound with ⟨existing, existingIn, ownRun, ownCall⟩ | inserted
          · exfalso
            apply isNew.2.2 existing existingIn ownCall
            unfold conversationOf
            rw [ownRun, found, Option.map_some]
          · exact Moves.waits reached _ _ run sameLedger inserted rfl rfl rfl rfl rfl found isNew
      next => exact moves_same

theorem completeAndPublish_moves (childRunId : String) (call : Call) {between : RunTables}
    (spared : Spared host.tables between)
    (sound : Sound
      { host with
        tables := between })
    (undisturbed : safe → Undisturbed host.suspending between childRunId) :
    Moves host safe
      (completeAndPublish options childRunId call
        { host with
          tables := between }) := by
  have answers := @completeChild_answers options between childRunId call.now call.createId
    (pendingNew_of_sound sound)
  unfold completeAndPublish
  split
  next => exact Moves.spares between host.suspending spared fun _ here => here
  next completion reached done =>
    have answered := answers between completion reached rfl done
    cases completion with
    | none =>
      have same : reached = between := answered
      rw [same]
      exact Moves.spares between host.suspending spared fun _ here => here
    | some completion =>
      obtain ⟨current, childRun, found, foundRun, ended, named, -, effect⟩ := answered
      rcases effect with ⟨unnoticed, stays⟩ | ⟨delivery, run, own, delivered, resumes⟩
      · have published : publish { host with tables := between } reached (some completion) =
            { tables := reached, suspending := host.suspending, resumed := host.resumed } := by
          simp [publish, stays]
        rw [published]
        exact Moves.spares reached host.suspending (spared_trans spared unnoticed)
          fun _ here => here
      · have published : publish { host with tables := between } reached (some completion) =
            { tables := reached
              suspending := host.suspending
              resumed := resumedBy host delivery.delegationId run } := by
          unfold publish resumedBy
          dsimp only
          rw [named, own, resumes]
          cases run.status.terminal <;> rfl
        rw [published]
        apply Moves.delivers between reached delivery run spared delivered
        intro isSafe suspension suspensionIn same
        have quiet := undisturbed isSafe
        unfold Undisturbed at quiet
        rw [found, foundRun] at quiet
        exact quiet ended suspension suspensionIn (same.trans own)

theorem step_moves (sound : Sound host) (op : WaitOp) :
    Moves host (NoRace options host op) (step options host op) := by
  cases op with
  | agentWait runId delegationId toolCallId call => exact agentWait_moves call
  | suspend runId usage call =>
    dsimp only [step, suspend]
    split
    next => exact moves_same
    next suspension _ =>
      apply Moves.spares
      · exact suspendRun_spared _ _ _ _
      · exact fun _ here => (List.mem_filter.mp here).1
  | completeChild childRunId call =>
    exact completeAndPublish_moves childRunId call (spared_refl host.tables) sound
      fun undisturbed => undisturbed
  | terminateChild childRunId termination errorCode call =>
    dsimp only [step, terminateAndPublish]
    split
    next => exact moves_same
    next known reached done =>
      have spared := terminateRun_spared _ _ _ _ _ host.tables known reached rfl done
      split
      next isKnown =>
        apply completeAndPublish_moves childRunId call spared
        · exact sound_of_spared sound spared host.suspending
        · intro quiet
          unfold NoRace at quiet
          dsimp only at quiet
          rw [done, isKnown] at quiet
          exact quiet
      next => exact Moves.spares reached _ spared fun _ here => here
  | restart call =>
    apply Moves.spares
    · exact perform_ensures (recoverIncompleteRuns_spared _ _) rfl (spared_refl _)
    · exact fun _ here => absurd here List.not_mem_nil
  | other op =>
    dsimp only [step]
    split
    next => exact moves_same
    next quiet =>
      apply Moves.spares
      · exact step_spared _ _ (fun own => quiet (Or.inl own)) fun meddles => quiet (Or.inr meddles)
      · exact fun _ here => here

theorem sound_of_moves {reached : Host} (sound : Sound host) (moves : Moves host safe reached) :
    Sound reached := by
  cases moves with
  | spares tables suspending spared fewer => exact sound_of_spared sound spared suspending
  | waits tables suspension row run sameLedger inserted pending ownId ownRun ownAttempt ownCall
      found isNew =>
      exact sound_of_wait sound sameLedger inserted pending found isNew
  | delivers between tables delivery run spared delivered undisturbed =>
    exact @sound_of_delivers { host with tables := between } _
      (sound_of_spared sound spared host.suspending) _ _ delivered

/-- The wait of a suspension is as it was recorded, or its run has ended. -/
def Kept (host : Host) (suspension : Suspension) : Prop :=
  ∃ delivery, host.tables.delegations.resultDeliveries.find suspension.delegationId =
      some delivery ∧
    delivery.parentRunId = suspension.runId ∧
    delivery.parentAttemptId = suspension.attemptId ∧
    delivery.parentToolCallId = suspension.toolCallId ∧
    (delivery.state = .pending ∨ RunEnded host.tables suspension.runId)

theorem kept_of_spared {reached : RunTables} (kept : Kept host suspension)
    (spared : Spared host.tables reached) (suspending : List Suspension) (resumed : List String) :
    Kept { tables := reached, suspending := suspending, resumed := resumed } suspension := by
  obtain ⟨delivery, found, ownRun, ownAttempt, ownCall, pending⟩ := kept
  refine ⟨delivery, ?_, ownRun, ownAttempt, ownCall, ?_⟩
  · dsimp only
    rw [spared.deliveries]
    exact found
  · rcases pending with pending | ended
    · exact Or.inl pending
    · exact Or.inr (spared.ended _ ended)

theorem kept_of_moves {reached : Host} (isSafe : safe) (moves : Moves host safe reached)
    (kept : ∀ suspension ∈ host.suspending, Kept host suspension) :
    ∀ suspension ∈ reached.suspending, Kept reached suspension := by
  cases moves with
  | spares tables suspending spared fewer =>
    intro suspension suspensionIn
    exact kept_of_spared (kept suspension (fewer suspension suspensionIn)) spared _ _
  | waits tables own row run sameLedger inserted pending ownId ownRun ownAttempt ownCall found
      isNew =>
      intro suspension suspensionIn
      have lookup := Table.find_insert _ _ row suspension.delegationId inserted
      rcases List.mem_append.mp suspensionIn with before | last
      · obtain ⟨delivery, foundDelivery, rest⟩ := kept suspension before
        obtain ⟨absent, -⟩ := (Table.insert_some_iff _ _ row).mp inserted
        have different : row.delegationId ≠ suspension.delegationId := by
          intro same
          apply absent delivery (Table.mem_of_find _ foundDelivery)
          rw [same]
          exact Table.key_of_find _ foundDelivery
        rw [if_neg different] at lookup
        obtain ⟨sameRun, sameAttempt, sameCall, unsettled⟩ := rest
        refine ⟨delivery, lookup.trans foundDelivery, sameRun, sameAttempt, sameCall, ?_⟩
        rcases unsettled with pending | ended
        · exact Or.inl pending
        · exact Or.inr (runEnded_ledger sameLedger ended)
      · rw [List.mem_singleton] at last
        rw [last] at lookup ⊢
        rw [if_pos ownId] at lookup
        exact ⟨row, lookup, ownRun, ownAttempt, ownCall, Or.inl pending⟩
  | delivers between tables delivery run spared delivered undisturbed =>
    intro suspension suspensionIn
    obtain ⟨other, found, ownRun, ownAttempt, ownCall, unsettled⟩ :=
      kept_of_spared (kept suspension suspensionIn) spared host.suspending host.resumed
    obtain ⟨digest, deliveredAt, written⟩ := delivered.written
    have lookup :
        (between.delegations.resultDeliveries.update
            (deliveredAs delivery digest deliveredAt)).find suspension.delegationId =
          if delivery.delegationId = suspension.delegationId then
            some (deliveredAs delivery digest deliveredAt)
          else between.delegations.resultDeliveries.find suspension.delegationId :=
      Table.find_update _ (deliveredAs delivery digest deliveredAt) delivered.found _
    have ends : ∀ {runId : String}, RunEnded between runId → RunEnded tables runId :=
      fun ended => runEnded_heard delivered.heard ended
    unfold Kept
    rw [written]
    by_cases same : delivery.delegationId = suspension.delegationId
    · rw [if_pos same] at lookup
      have isOther : other = delivery := by
        rw [← same, delivered.found, Option.some.injEq] at found
        exact found.symm
      rw [isOther] at ownRun ownAttempt ownCall
      exact ⟨_, lookup, ownRun, ownAttempt, ownCall,
        Or.inr (ends (undisturbed isSafe suspension suspensionIn same.symm))⟩
    · rw [if_neg same] at lookup
      refine ⟨other, lookup.trans found, ownRun, ownAttempt, ownCall, ?_⟩
      rcases unsettled with pending | ended
      · exact Or.inl pending
      · exact Or.inr (ends ended)

/-- The wait that a kernel is about to suspend its running run for is pending. -/
def Stands (host : Host) (suspension : Suspension) : Prop :=
  ∀ run, host.tables.ledger.runs.find suspension.runId = some run → run.status = .running →
    ∃ delivery, host.tables.delegations.resultDeliveries.find suspension.delegationId =
        some delivery ∧
      delivery.parentRunId = suspension.runId ∧
      delivery.parentAttemptId = suspension.attemptId ∧
      delivery.parentToolCallId = suspension.toolCallId ∧ delivery.state = .pending

/-- Results are delivered once over a run: at every moment each call that waits has
been answered as often as its delivery says and has resumed its run so often, a
completion that commits leaves no result of its delegation behind, and no kernel
finds its wait answered before it suspends. -/
structure DeliveryOnce (options : RunOptions) (ops : List WaitOp) : Prop where
  once : ∀ earlier later, ops = earlier ++ later →
    ∀ delivery ∈ (reach options earlier).tables.delegations.resultDeliveries.rows,
      OnceAnswered (reach options earlier) delivery
  settled : ∀ earlier childRunId call later,
    ops = earlier ++ .completeChild childRunId call :: later →
      ∀ completion reached,
        (DelegationService.completeChild options childRunId call.now call.createId).run
            (reach options earlier).tables = .ok (some completion, reached) →
          ∀ delivery ∈ reached.delegations.resultDeliveries.rows,
            delivery.delegationId = completion.delegation.delegationId → delivery.state ≠ .pending
  stands : ∀ earlier later, ops = earlier ++ later →
    ∀ suspension ∈ (reach options earlier).suspending, Stands (reach options earlier) suspension

theorem reach_sound (options : RunOptions) (ops : List WaitOp) : Sound (reach options ops) := by
  apply Lib.Runs.run_invariant (step options) Sound
  · intro host op sound
    exact sound_of_moves sound (step_moves sound op)
  · exact sound_empty

theorem reach_kept (options : RunOptions) (ops : List WaitOp)
    (meets : Lib.Runs.EveryStep (step options) (NoRace options) Host.empty ops) :
    ∀ suspension ∈ (reach options ops).suspending, Kept (reach options ops) suspension := by
  have both : Sound (reach options ops) ∧
      ∀ suspension ∈ (reach options ops).suspending, Kept (reach options ops) suspension := by
    apply Lib.Runs.run_invariant_of_everyStep (step options) (NoRace options)
      fun host => Sound host ∧ ∀ suspension ∈ host.suspending, Kept host suspension
    · rintro host op isSafe ⟨sound, kept⟩
      have moves := @step_moves options host sound op
      exact ⟨sound_of_moves sound moves, kept_of_moves isSafe moves kept⟩
    · exact ⟨sound_empty, fun _ here => absurd here List.not_mem_nil⟩
    · exact meets
  exact both.2

theorem stands_of_kept (kept : Kept host suspension) : Stands host suspension := by
  intro run found running
  obtain ⟨delivery, foundDelivery, ownRun, ownAttempt, ownCall, unsettled⟩ := kept
  refine ⟨delivery, foundDelivery, ownRun, ownAttempt, ownCall, ?_⟩
  rcases unsettled with pending | ⟨ended, foundEnded, isEnded⟩
  · exact pending
  · rw [found, Option.some.injEq] at foundEnded
    rw [← foundEnded, running] at isEnded
    cases isEnded

/-- The answer and the checkpoint of every call are stored once, its run resumes once,
and as long as no child completes between the wait and the suspension of its parent,
every wait stands until its run is suspended. -/
theorem result_delivered_once (options : RunOptions) (ops : List WaitOp)
    (meets : Lib.Runs.EveryStep (step options) (NoRace options) Host.empty ops) :
    DeliveryOnce options ops where
  once earlier later _ := (reach_sound options earlier).calls
  settled earlier childRunId call later _ completion reached done := by
    have answers := completeChild_answers childRunId call.now call.createId
      (pendingNew_of_sound (reach_sound options earlier)) _ _ _ rfl done
    obtain ⟨current, childRun, -, -, -, named, settles, -⟩ := answers
    rw [named]
    exact settles
  stands earlier later isSplit suspension suspensionIn := by
    rw [isSplit, Lib.Runs.everyStep_append] at meets
    exact stands_of_kept (reach_kept options earlier meets.1 suspension suspensionIn)

def waitingOps : List WaitOp :=
  delegatedOps.map .other ++
    [ .other
        (.startExecution
          { runId := "r1", providerId := "p", modelId := "m", budget := smallBudget.execution }
          (callAt 4 ["a3", "e3"])),
      .other
        (.startExecution
          { runId := "r2"
            providerId := "p"
            modelId := "m"
            budget := { smallBudget.execution with maxDurationMs := 500 } }
          (callAt 5 ["a4", "e4"])),
      .agentWait "r1" "d1" "w1" (callAt 6 []) ]

def childCompletes : List WaitOp :=
  [ .other (.completeExecution "r2" 0 "completed" (some "seen") (callAt 7 ["e5"])),
    .completeChild "r2" (callAt 8 ["m3", "e6", "e7", "e8"]) ]

def quietOps : List WaitOp :=
  waitingOps ++ .suspend "r1" 0 (callAt 7 ["e9"]) :: childCompletes

def racedOps : List WaitOp := waitingOps ++ childCompletes

theorem quiet_result_delivered_once :
    DeliveryOnce mainHost quietOps ∧
      answers (reach mainHost quietOps).tables.ledger "c1" "w1" = 1 ∧
      (reach mainHost quietOps).resumed = ["d1"] :=
  ⟨result_delivered_once mainHost quietOps (by decide +kernel), by decide +kernel,
    by decide +kernel⟩

/-- The wait is answered before the parent suspends, and its suspension fails it. -/
theorem raced_wait_fails_parent :
    ¬ DeliveryOnce mainHost racedOps ∧
      ((reach mainHost (racedOps ++ [.suspend "r1" 0 (callAt 9 ["e9"])])).tables.ledger.runs.find
        "r1").map RunRow.status = some .failed := by
  constructor
  · intro once
    have stands := once.stands racedOps [] (List.append_nil racedOps).symm
      { runId := "r1", attemptId := "a1", delegationId := "d1", toolCallId := "w1" }
      (by decide +kernel)
    have running : ((reach mainHost racedOps).tables.ledger.runs.find "r1").map
        RunRow.status = some .running := by decide +kernel
    have answered : ((reach mainHost racedOps).tables.delegations.resultDeliveries.find "d1").map
        replies = some 1 := by decide +kernel
    obtain ⟨run, found, isRunning⟩ := Option.map_eq_some_iff.mp running
    obtain ⟨delivery, foundDelivery, -, -, -, pending⟩ := stands run found isRunning
    obtain ⟨other, foundOther, counted⟩ := Option.map_eq_some_iff.mp answered
    rw [foundDelivery, Option.some.injEq] at foundOther
    rw [← foundOther, replies, pending] at counted
    cases counted
  · decide +kernel

end OpenRill.Runs.ResultOnce
