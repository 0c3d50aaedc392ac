import OpenRill.Runs.DelegationRules
import OpenRill.Runs.WaitProtocol

/-!
# Answers and checkpoints of tool calls

What the operations of a run leave of the entries that close a tool call. All but
those that speak for a call keep the number of its answers and of its checkpoints,
the conversation of every run, and that a run has ended; the completion of a child
adds one answer and one checkpoint for the call of its parent.
-/

namespace OpenRill.Runs.CallEntries

open Lib Lib.Transaction State Ledger Delegations Lifecycle DelegationService Operations
open LedgerRules DelegationRules WaitProtocol

variable {runId delegationId : String} {store : RunStore} {options : RunOptions} {now : Nat}
variable {createId : Nat → String}

theorem answers_of_message (row : MessageRow) (conversationId toolCallId : String) :
    answers { store with messages := store.messages ++ [row] } conversationId toolCallId =
      answers store conversationId toolCallId +
        (if row.conversationId = conversationId ∧ answersCall toolCallId row = true then 1
          else 0) := by
  unfold answers listMessages
  congr 1
  by_cases here : row.conversationId = conversationId
  · by_cases answering : answersCall toolCallId row = true
    · simp [here, answering]
    · simp [here, answering]
  · simp [here]

theorem checkpoints_of_event (row : EventRow) (runId toolCallId : String) :
    checkpoints { store with events := store.events ++ [row] } runId toolCallId =
      checkpoints store runId toolCallId +
        (if row.runId = runId ∧ closesCall toolCallId row = true then 1 else 0) := by
  unfold checkpoints listEvents
  congr 1
  by_cases here : row.runId = runId
  · by_cases closing : closesCall toolCallId row = true
    · simp [here, closing]
    · simp [here, closing]
  · simp [here]

theorem answersCall_of_role {row : MessageRow} (noAnswer : row.role ≠ .tool)
    (toolCallId : String) : answersCall toolCallId row = false := by
  unfold answersCall
  split
  next isTool _ => exact absurd isTool noAnswer
  next => rfl

theorem closesCall_of_type {row : EventRow} (noCheckpoint : row.eventType ≠ checkpointType)
    (toolCallId : String) : closesCall toolCallId row = false := by
  unfold closesCall
  have different : (row.eventType == "run.checkpoint") = false :=
    beq_eq_false_iff_ne.mpr noCheckpoint
  rw [different, Bool.false_and]

def noEntry : String → String → Nat := fun _ _ => 0

def oneEntry (place toolCallId : String) : String → String → Nat := fun otherPlace otherId =>
  if otherPlace = place ∧ otherId = toolCallId then 1 else 0

/-- The ledger has so many more answers and checkpoints than it had, its runs are in
the conversations they were in, and those that had ended have. -/
structure Heard (base : RunStore) (answered closed : String → String → Nat)
    (store : RunStore) : Prop where
  runs : ∀ runId row, base.runs.find runId = some row →
    ∃ now, store.runs.find runId = some now ∧ now.conversationId = row.conversationId ∧
      (row.status.terminal = true → now.status.terminal = true)
  answers : ∀ conversationId toolCallId, WaitProtocol.answers store conversationId toolCallId =
    WaitProtocol.answers base conversationId toolCallId + answered conversationId toolCallId
  checkpoints : ∀ runId toolCallId, WaitProtocol.checkpoints store runId toolCallId =
    WaitProtocol.checkpoints base runId toolCallId + closed runId toolCallId

variable {base : RunStore} {answered closed : String → String → Nat}

theorem heard_refl : Heard base noEntry noEntry base where
  runs _ row found := ⟨row, found, rfl, fun ended => ended⟩
  answers _ _ := rfl
  checkpoints _ _ := rfl

theorem heard_unrelated {changed : RunStore} (heard : Heard base answered closed store)
    (runs : changed.runs = store.runs) (messages : changed.messages = store.messages)
    (events : changed.events = store.events) : Heard base answered closed changed where
  runs := by
    rw [runs]
    exact heard.runs
  answers := by
    intro conversationId toolCallId
    rw [← heard.answers]
    unfold WaitProtocol.answers listMessages
    rw [messages]
  checkpoints := by
    intro runId toolCallId
    rw [← heard.checkpoints]
    unfold WaitProtocol.checkpoints listEvents
    rw [events]

theorem heard_of_run (heard : Heard base answered closed store) {old row : RunRow}
    (found : store.runs.find row.runId = some old)
    (sameConversation : row.conversationId = old.conversationId)
    (keepsEnd : (∃ first, base.runs.find row.runId = some first ∧
      first.status.terminal = true) → row.status.terminal = true) :
    Heard base answered closed { store with runs := store.runs.update row } where
  runs := by
    intro runId first foundFirst
    obtain ⟨now, foundNow, conversation, ended⟩ := heard.runs runId first foundFirst
    have lookup := store.runs.find_update row found runId
    by_cases own : row.runId = runId
    · rw [if_pos own] at lookup
      rw [← own, found, Option.some.injEq] at foundNow
      refine ⟨row, lookup, ?_, ?_⟩
      · rw [sameConversation, foundNow]
        exact conversation
      · intro firstEnded
        apply keepsEnd
        rw [own]
        exact ⟨first, foundFirst, firstEnded⟩
    · rw [if_neg own] at lookup
      exact ⟨now, lookup.trans foundNow, conversation, ended⟩
  answers := heard.answers
  checkpoints := heard.checkpoints

theorem heard_of_message (heard : Heard base answered closed store) (row : MessageRow)
    (noAnswer : row.role ≠ .tool) :
    Heard base answered closed { store with messages := store.messages ++ [row] } where
  runs := heard.runs
  answers := by
    intro conversationId toolCallId
    rw [answers_of_message, answersCall_of_role noAnswer, heard.answers]
    simp
  checkpoints := heard.checkpoints

theorem heard_of_event (heard : Heard base answered closed store) (row : EventRow)
    (noCheckpoint : row.eventType ≠ checkpointType) :
    Heard base answered closed { store with events := store.events ++ [row] } where
  runs := heard.runs
  answers := heard.answers
  checkpoints := by
    intro runId toolCallId
    rw [checkpoints_of_event, closesCall_of_type noCheckpoint, heard.checkpoints]
    simp

theorem nextMessageSequence_heard (conversationId : String) :
    Keeps (Heard base answered closed) (nextMessageSequence conversationId) := by
  refine keeps_inspect fun _ _ => keeps_expect fun row _ => ?_
  refine keeps_bind (keeps_change ?_) fun _ => keeps_pure _
  intro store heard
  exact heard_unrelated heard rfl rfl rfl

theorem insertMessage_writes (heard : Heard base answered closed store) (input : MessageInput) :
    Ensures (fun known => known = store) (insertMessage input)
      (fun _ reached => ∃ sequence counted, Heard base answered closed counted ∧
        reached = { counted with messages := counted.messages ++ [input.toRow sequence] }) := by
  have numbered : Ensures (fun known => known = store) (nextMessageSequence input.conversationId)
      (fun _ counted => Heard base answered closed counted) :=
    ensures_from _ (nextMessageSequence_heard input.conversationId) fun known isStore => by
      rw [isStore]
      exact heard
  refine ensures_bind numbered fun sequence => ?_
  apply ensures_inspect_then
  intro _ _
  apply ensures_demand_then
  intro _
  apply ensures_change
  intro counted stillHeard
  exact ⟨sequence, counted, stillHeard, rfl⟩

theorem insertMessage_heard (input : MessageInput) (noAnswer : input.role ≠ .tool) :
    Keeps (Heard base answered closed) (insertMessage input) := by
  refine keeps_bind (nextMessageSequence_heard input.conversationId) fun sequence => ?_
  refine keeps_inspect fun _ _ => keeps_demand fun _ => keeps_change ?_
  intro store heard
  exact heard_of_message heard (input.toRow sequence) noAnswer

theorem nextEventSequence_heard (runId : String) (now : Nat) :
    Keeps (Heard base answered closed) (nextEventSequence runId now) := by
  apply nextEventSequence_ensures
  intro store row heard _ own
  refine @heard_of_run _ _ _ _ heard row (row.withEventSequence _ now) own rfl ?_
  rintro ⟨first, foundFirst, ended⟩
  obtain ⟨after, foundAfter, -, staysEnded⟩ := heard.runs _ first foundFirst
  have isRun : after = row := Option.some.inj (foundAfter.symm.trans own)
  have rowEnded := staysEnded ended
  rw [isRun] at rowEnded
  exact rowEnded

theorem insertRun_heard (row : RunRow) :
    Keeps (Heard base answered closed) (insertRun row) := by
  apply insertRun_ensures (Heard base answered closed) row
  · intro store runs heard inserted
    refine { runs := ?_, answers := heard.answers, checkpoints := heard.checkpoints }
    intro runId first foundFirst
    obtain ⟨now, foundNow, rest⟩ := heard.runs runId first foundFirst
    exact ⟨now, store.runs.kept_insert runs row inserted foundNow, rest⟩
  · intro store _ tasks heard _
    exact heard_unrelated heard rfl rfl rfl

theorem updateRun_heard (rule : CompletionRule) (input : RunUpdate)
    (keepsEnd : (∃ first, base.runs.find input.runId = some first ∧
      first.status.terminal = true) → input.status.terminal = true) :
    Keeps (Heard base answered closed) (updateRun rule input) := by
  refine updateRun_ensures ?_ fun store tasks heard => heard_unrelated heard rfl rfl rfl
  intro store row heard key own
  refine @heard_of_run _ _ _ _ heard row (row.updatedBy input) own rfl ?_
  intro ended
  apply keepsEnd
  rw [← key]
  exact ended

theorem heard_rules (rule : CompletionRule) :
    EntryRules rule False True (Heard base answered closed) where
  unrelated _ _ _ runs _ messages events heard := heard_unrelated heard runs messages events
  opened := createConversation_keeps_of (fun _ _ heard => heard_unrelated heard rfl rfl rfl)
  spoken input quiet := insertMessage_heard input (quiet.resolve_left id)
  entered row quiet := by
    refine keeps_bind (nextEventSequence_heard row.runId row.emittedAt) fun sequence => ?_
    refine keeps_inspect fun _ _ => keeps_demand fun _ => keeps_change ?_
    intro store heard
    exact heard_of_event heard { row with sequence := sequence } (quiet.resolve_left id)
  inserted row _ _ := insertRun_heard row
  classified _ _ _ := classifyRun_tasks fun _ _ heard => heard_unrelated heard rfl rfl rfl
  updated store run input heard found live _ := by
    apply updateRun_heard
    rintro ⟨first, foundFirst, ended⟩
    obtain ⟨now, foundNow, -, staysEnded⟩ := heard.runs _ first foundFirst
    rw [found, Option.some.injEq] at foundNow
    have runEnded := staysEnded ended
    rw [← foundNow, live] at runEnded
    cases runEnded

variable {deliveries : Table ResultDeliveryRow.delegationId}

def SameDeliveries (deliveries : Table ResultDeliveryRow.delegationId)
    (store : DelegationStore) : Prop :=
  store.resultDeliveries = deliveries

theorem same_rules : GraphRules False (SameDeliveries deliveries) where
  unrelated _ _ _ unwritten same := (unwritten.resolve_left id).trans same
  charged _ _ _ _ _ same := same
  opened row := by
    apply keeps_tryMap
    intro store envelopes same _
    exact same
  reported _ _ _ :=
    keeps_inspect fun _ _ => keeps_expect fun _ _ => keeps_change fun _ same => same

theorem same_settleRules : SettleRules False (SameDeliveries deliveries)
    (fun _ _ _ => SameDeliveries deliveries) :=
  settleRules_of_envelopes same_rules.toEnvelopeRules

theorem same_waitRules : WaitRules False (SameDeliveries deliveries) :=
  waitRules_of_envelopes same_rules.toEnvelopeRules

theorem step_same (tables : RunTables) (op : RunOp) (noOwn : ¬ HasOwn op)
    (same : OnDelegations (SameDeliveries deliveries) tables) :
    OnDelegations (SameDeliveries deliveries) (Operations.step options tables op) := by
  refine step_keeps_delegations same_rules tables op (fun delivers => noOwn ?_) same
  cases op with
  | markWaiting parentRunId delegationId identity call => exact delivers
  | completeChild childRunId call => trivial
  | terminateChild childRunId termination errorCode call => trivial
  | _ => exact delivers.elim

variable {base store tables : RunTables} {Value : Type}

def RunEnded (tables : RunTables) (runId : String) : Prop :=
  ∃ run, tables.ledger.runs.find runId = some run ∧ run.status.terminal = true

/-- What no call that waits notices: the deliveries are the same, each is to be
answered where it was, as often as it was, and ended runs have ended. -/
structure Spared (tables reached : RunTables) : Prop where
  deliveries : reached.delegations.resultDeliveries = tables.delegations.resultDeliveries
  conversations : ∀ delivery ∈ tables.delegations.resultDeliveries.rows,
    ∀ conversationId, conversationOf tables delivery = some conversationId →
      conversationOf reached delivery = some conversationId ∧
        answers reached.ledger conversationId delivery.parentToolCallId =
          answers tables.ledger conversationId delivery.parentToolCallId
  checkpoints : ∀ delivery ∈ tables.delegations.resultDeliveries.rows,
    checkpoints reached.ledger delivery.parentRunId delivery.parentToolCallId =
      checkpoints tables.ledger delivery.parentRunId delivery.parentToolCallId
  ended : ∀ runId, RunEnded tables runId → RunEnded reached runId

theorem conversationOf_heard (heard : Heard base.ledger answered closed store.ledger)
    {delivery : ResultDeliveryRow} {conversationId : String}
    (isConversation : conversationOf base delivery = some conversationId) :
    conversationOf store delivery = some conversationId := by
  obtain ⟨run, found, isRun⟩ := Option.map_eq_some_iff.mp isConversation
  obtain ⟨now, foundNow, same, -⟩ := heard.runs _ run found
  unfold conversationOf
  rw [foundNow, Option.map_some, same, isRun]

theorem runEnded_heard (heard : Heard base.ledger answered closed store.ledger)
    (ended : RunEnded base runId) : RunEnded store runId := by
  obtain ⟨run, found, isEnded⟩ := ended
  obtain ⟨now, foundNow, -, staysEnded⟩ := heard.runs runId run found
  exact ⟨now, foundNow, staysEnded isEnded⟩

theorem spared_of_heard {tables reached : RunTables}
    (heard : Heard tables.ledger noEntry noEntry reached.ledger)
    (same : reached.delegations.resultDeliveries = tables.delegations.resultDeliveries) :
    Spared tables reached where
  deliveries := same
  conversations _ _ _ isConversation :=
    ⟨conversationOf_heard heard isConversation, heard.answers _ _⟩
  checkpoints _ _ := heard.checkpoints _ _
  ended _ ended := runEnded_heard heard ended

theorem spared_refl (tables : RunTables) : Spared tables tables :=
  spared_of_heard heard_refl rfl

theorem spared_trans {first second third : RunTables} (one : Spared first second)
    (two : Spared second third) : Spared first third where
  deliveries := two.deliveries.trans one.deliveries
  conversations delivery deliveryIn conversationId isConversation := by
    obtain ⟨there, sameAnswers⟩ := one.conversations delivery deliveryIn _ isConversation
    have stillIn : delivery ∈ second.delegations.resultDeliveries.rows := by
      rw [one.deliveries]
      exact deliveryIn
    obtain ⟨here, moreAnswers⟩ := two.conversations delivery stillIn _ there
    exact ⟨here, moreAnswers.trans sameAnswers⟩
  checkpoints delivery deliveryIn := by
    have stillIn : delivery ∈ second.delegations.resultDeliveries.rows := by
      rw [one.deliveries]
      exact deliveryIn
    exact (two.checkpoints delivery stillIn).trans (one.checkpoints delivery deliveryIn)
  ended runId ended := two.ended runId (one.ended runId ended)

theorem spared_of_entry {tables : RunTables} {ledger : RunStore}
    (runs : ∀ runId row, tables.ledger.runs.find runId = some row →
      ∃ now, ledger.runs.find runId = some now ∧ now.conversationId = row.conversationId ∧
        (row.status.terminal = true → now.status.terminal = true))
    (answered : ∀ delivery ∈ tables.delegations.resultDeliveries.rows, ∀ conversationId,
      conversationOf tables delivery = some conversationId →
        answers ledger conversationId delivery.parentToolCallId =
          answers tables.ledger conversationId delivery.parentToolCallId)
    (closed : ∀ delivery ∈ tables.delegations.resultDeliveries.rows,
      checkpoints ledger delivery.parentRunId delivery.parentToolCallId =
        checkpoints tables.ledger delivery.parentRunId delivery.parentToolCallId) :
    Spared tables (tables.withLedger ledger) where
  deliveries := rfl
  conversations delivery deliveryIn conversationId isConversation := by
    refine ⟨?_, answered delivery deliveryIn conversationId isConversation⟩
    obtain ⟨run, found, isRun⟩ := Option.map_eq_some_iff.mp isConversation
    obtain ⟨now, foundNow, same, -⟩ := runs _ run found
    have foundThere : (tables.withLedger ledger).ledger.runs.find delivery.parentRunId =
        some now := foundNow
    unfold conversationOf
    rw [foundThere, Option.map_some, same, isRun]
  checkpoints := closed
  ended runId := by
    rintro ⟨run, found, ended⟩
    obtain ⟨now, foundNow, -, staysEnded⟩ := runs runId run found
    exact ⟨now, foundNow, staysEnded ended⟩

theorem appendMessage_spared (tables : RunTables) (input : MessageInput)
    (quiet : ¬ Meddles tables (.appendMessage input)) :
    Spared tables (perform (onLedger (insertMessage input)) tables) := by
  have inserted : Ensures (fun state => state = tables) (onLedger (insertMessage input))
      (fun _ reached => Spared tables reached) := by
    apply ensures_focus
    rintro whole value ledger rfl done
    obtain ⟨sequence, counted, heard, rfl⟩ :=
      insertMessage_writes heard_refl input whole.ledger value ledger rfl done
    apply spared_of_entry
    · exact heard.runs
    · intro delivery deliveryIn conversationId isConversation
      have unanswered : ¬ ((input.toRow sequence).conversationId = conversationId ∧
          answersCall delivery.parentToolCallId (input.toRow sequence) = true) := by
        rintro ⟨here, answering⟩
        apply quiet
        refine ⟨delivery, deliveryIn, answering, ?_⟩
        exact isConversation.trans (congrArg some here.symm)
      rw [answers_of_message, if_neg unanswered, Nat.add_zero]
      exact heard.answers conversationId delivery.parentToolCallId
    · exact fun delivery _ =>
        heard.checkpoints delivery.parentRunId delivery.parentToolCallId
  exact perform_ensures inserted rfl (spared_refl tables)

theorem keeps_spared_of_heard {body : LedgerTransaction Value}
    (heard : ∀ base, Keeps (Heard base noEntry noEntry) body) :
    Keeps (fun store => Spared tables (tables.withLedger store)) body := by
  intro store value reached spared done
  have changed := heard store store value reached heard_refl done
  exact spared_trans spared
    (@spared_of_heard (tables.withLedger store) (tables.withLedger reached) changed rfl)

theorem allocateEvent_spared (run : RunRow) (input : EventInput) {eventId : String}
    (quiet : ∀ delivery ∈ tables.delegations.resultDeliveries.rows,
      delivery.parentRunId = input.runId →
        closesCall delivery.parentToolCallId (input.toRow 0 "") = false) :
    Keeps (fun store => Spared tables (tables.withLedger store))
      (allocateEvent run input eventId) := by
  refine keeps_demand fun _ => ?_
  refine keeps_bind (keeps_spared_of_heard fun base => nextEventSequence_heard _ _)
    fun sequence => ?_
  refine keeps_bind ?_ fun _ => keeps_pure _
  refine keeps_inspect fun _ _ => keeps_demand fun _ => keeps_change ?_
  intro store spared
  apply spared_trans spared
  apply @spared_of_entry (tables.withLedger store)
  · exact fun _ row found => ⟨row, found, rfl, id⟩
  · exact fun _ _ _ _ => rfl
  intro delivery deliveryIn
  have unclosed : ¬ ((input.toRow sequence eventId).runId = delivery.parentRunId ∧
      closesCall delivery.parentToolCallId (input.toRow sequence eventId) = true) := by
    rintro ⟨here, closing⟩
    have same : closesCall delivery.parentToolCallId (input.toRow sequence eventId) =
        closesCall delivery.parentToolCallId (input.toRow 0 "") := rfl
    rw [same, quiet delivery deliveryIn here.symm] at closing
    cases closing
  rw [checkpoints_of_event, if_neg unclosed, Nat.add_zero]
  rfl

theorem appendEvent_spared (tables : RunTables) (input : EventInput) (call : Call)
    (quiet : ¬ Meddles tables (.appendEvent input call)) :
    Spared tables
      (perform (onLedger (appendEventWithRepositories input (call.createId 0))) tables) := by
  have unclosed : ∀ delivery ∈ tables.delegations.resultDeliveries.rows,
      delivery.parentRunId = input.runId →
        closesCall delivery.parentToolCallId (input.toRow 0 "") = false := by
    intro delivery deliveryIn here
    cases closes : closesCall delivery.parentToolCallId (input.toRow 0 "") with
    | false => rfl
    | true => exact absurd ⟨delivery, deliveryIn, here, closes⟩ quiet
  have kept : Keeps (fun store => Spared tables (tables.withLedger store))
      (appendEventWithRepositories input (call.createId 0)) := by
    refine keeps_bind (bounded_keeps _ _ _ _) fun _ => ?_
    refine keeps_inspect fun store _ => keeps_expect fun run _ => ?_
    split
    next => exact allocateEvent_spared run input unclosed
    next key _ =>
      refine keeps_bind (bounded_keeps _ _ _ _) fun _ => ?_
      split
      next existing _ => exact keeps_demand fun _ => keeps_pure existing
      next => exact allocateEvent_spared run input unclosed
  have spared : Ensures (fun state => state = tables)
      (onLedger (appendEventWithRepositories input (call.createId 0)))
      (fun _ reached => Spared tables reached) := by
    apply ensures_focus
    rintro whole value ledger rfl done
    exact kept whole.ledger value ledger (spared_refl whole) done
  exact perform_ensures spared rfl (spared_refl tables)

theorem failChildBeforeStart_heard {errorCode : String} :
    Ensures (fun tables => tables = base)
      (failChildBeforeStart options delegationId errorCode now createId)
      (fun _ => OnLedger (Heard base.ledger noEntry noEntry)) := by
  apply failChildBeforeStart_ensures (heard_rules options.completionRule)
  · rintro tables rfl
    exact heard_refl
  · intro tables delegation run input _ _ _ _ _ failed
    apply updateRun_heard
    intro _
    rw [failed]
    rfl

theorem step_spared (tables : RunTables) (op : RunOp) (noOwn : ¬ HasOwn op)
    (quiet : ¬ Meddles tables op) : Spared tables (Operations.step options tables op) := by
  have rules := @heard_rules tables.ledger noEntry noEntry options.completionRule
  have spares : (Apart op →
      OnLedger (Heard tables.ledger noEntry noEntry) (Operations.step options tables op)) →
        Spared tables (Operations.step options tables op) := by
    intro apart
    apply spared_of_heard
    · exact step_keeps_apart rules tables op (fun _ => trivial) apart heard_refl
    · exact step_same tables op noOwn rfl
  cases op with
  | appendMessage row => exact appendMessage_spared tables row quiet
  | appendEvent input call => exact appendEvent_spared tables input call quiet
  | transitionRun input call => exact spares fun closes => absurd closes quiet
  | failChildBeforeStart delegationId errorCode call =>
    apply spares
    intro _
    exact perform_ensures failChildBeforeStart_heard rfl heard_refl
  | completeChild childRunId call => exact absurd trivial noOwn
  | terminateChild childRunId termination errorCode call => exact absurd trivial noOwn
  | _ => exact spares fun apart => apart.elim

theorem ensures_spared {body : RunTransaction Value}
    (heard : Keeps (OnLedger (Heard base.ledger noEntry noEntry)) body)
    (same : Keeps (OnDelegations (SameDeliveries base.delegations.resultDeliveries)) body) :
    Ensures (fun tables => tables = base) body (fun _ reached => Spared base reached) := by
  rintro tables value reached rfl done
  apply spared_of_heard
  · exact heard tables value reached heard_refl done
  · exact same tables value reached rfl done

include options in
theorem updateExecutionUsage_spared {base : RunTables} (runId : String) (usage : Usage)
    (reason : Option String) (now : Nat) :
    Ensures (fun tables => tables = base) (updateExecutionUsage runId usage reason now)
      (fun _ reached => Spared base reached) :=
  ensures_spared
    (updateExecutionUsage_keeps (heard_rules options.completionRule) _ _ _ _)
    (updateExecutionUsage_withstood same_rules _ _ _ _)

theorem terminateRun_spared (childRunId : String) (termination : Termination) (errorCode : String)
    (now : Nat) (createId : Nat → String) :
    Ensures (fun tables => tables = base)
      (terminateRun options childRunId termination errorCode now createId)
      (fun _ reached => Spared base reached) :=
  ensures_spared (terminateRun_keeps (heard_rules _) _ _ _ _ _) (terminateRun_spares _ _ _ _ _)

theorem waitForDelegation_spared {toolCallId : String} :
    Ensures (fun tables => tables = base)
      (waitForDelegation options runId delegationId toolCallId now createId)
      (fun _ reached => Spared base reached) :=
  ensures_spared (waitForDelegation_keeps (heard_rules _) trivial _ _ _ _ _)
    (waitForDelegation_spares _ _ _ _ _)

theorem recoverIncompleteRuns_spared (now : Nat) (createId : Nat → String) :
    Ensures (fun tables => tables = base) (recoverIncompleteRuns options now createId)
      (fun _ reached => Spared base reached) :=
  ensures_spared (recoverIncompleteRuns_keeps (heard_rules _) trivial _ _)
    (recoverIncompleteRuns_spares _ _)

theorem failKernel_spared (tables : RunTables) {usage : Usage} (failure : RunFailure)
    (call : Call) :
    Spared tables (failKernel options runId usage failure call tables) := by
  unfold failKernel
  split
  next => exact spared_refl tables
  next run _ =>
    split
    next => exact spared_refl tables
    next =>
      apply spared_of_heard
      · apply reportThenTransition_keeps (heard_rules options.completionRule) trivial
        · exact Or.inr (show some "run.failed" ≠ some checkpointType by decide)
        · exact heard_refl
      · exact performThen_keeps (updateExecutionUsage_withstood same_rules _ _ _ _)
          (fun _ => onLedger_spares _) rfl

theorem suspendRun_spared (tables : RunTables) (suspension : Suspension) (usage : Usage)
    (call : Call) :
    Spared tables (suspendRun options suspension usage call tables) := by
  unfold suspendRun
  split
  next failure _ => exact failKernel_spared tables failure call
  next value reported done =>
    have reporting : Spared tables reported :=
      @updateExecutionUsage_spared options _ _ _ _ _ tables value reported rfl done
    split
    next failure _ => exact spared_trans reporting (failKernel_spared _ failure call)
    next run reached waited =>
      exact spared_trans reporting (waitForDelegation_spared reported run reached rfl waited)

end OpenRill.Runs.CallEntries
