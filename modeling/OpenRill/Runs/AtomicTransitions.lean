import OpenRill.Runs.Projections
import OpenRill.Runs.Sequences
import OpenRill.Runs.TerminalRuns
import OpenRill.Runs.UsageReport

/-!
# When an ending or parking transition is atomic

The usage report commits before the run is moved, whatever the status of the run is.
When the move is then refused, the report stays. So the operation is atomic exactly
when there is no current attempt to report on, when the move is accepted, or when the
report says what is recorded already.
-/

namespace OpenRill.Runs.AtomicTransitions

open Lib Lib.Text Lib.Transaction State Ledger Delegations Lifecycle Operations Projections
open Sequences TerminalRuns UsageReport

variable {runId : String} {run : RunRow} {attempt : AttemptRow} {options : RunOptions}
variable {tables : RunTables} {now : Nat} {host : HostTables} {call : Call} {usage : Usage}
variable {outcome : Outcome}

def runStatusOf : Outcome → RunStatus
  | .completed _ _ => .completed
  | .failed _ _ => .failed
  | .waitingApproval _ => .waitingApproval
  | .waitingDelegation _ _ => .created

/-- A run that waits for a delegation gives its attempt up. -/
def attemptEndOf : Outcome → AttemptStatus
  | .completed _ _ => .completed
  | .failed _ _ => .failed
  | .waitingApproval _ => .waitingApproval
  | .waitingDelegation _ _ => .aborted

def eventTypeOf : Outcome → String
  | .completed _ _ => "run.completed"
  | .failed _ _ => "run.failed"
  | .waitingApproval _ => "approval.requested"
  | .waitingDelegation _ _ => "delegation.waiting"

/-- The event is new, or the one that stood under its key. -/
def EventStands (before after : List EventRow) (event : EventRow) : Prop :=
  after = before ++ [event] ∨ (after = before ∧ event ∈ before ∧ event.idempotencyKey.isSome = true)

structure Performed (before after : HostTables) (run : RunRow) (attempt : AttemptRow)
    (usage : Usage) (outcome : Outcome) : Prop where
  moved : (after.tables.ledger.runs.find run.runId).map RunRow.status = some (runStatusOf outcome)
  ended : (after.tables.ledger.attempts.find attempt.attemptId).map
      (fun row => (row.status, row.used, row.terminalReason)) =
    some (attemptEndOf outcome, attemptShare before.tables.ledger run attempt usage,
      some outcome.reason)
  charged : (after.tables.delegations.envelopes.find run.runId).map EnvelopeRow.used =
    (before.tables.delegations.envelopes.find run.runId).map (fun _ => usage)
  told : ∃ event, EventStands before.tables.ledger.events after.tables.ledger.events event ∧
    event.runId = run.runId ∧ event.attemptId = some attempt.attemptId ∧
      event.eventType = eventTypeOf outcome
  projected : ∃ now, after.projections.find run.conversationId =
    some (projectionOf after.tables.ledger run.conversationId now)

/-- Usage, terminal reasons, envelopes, statuses, events and projections are what they
were. -/
structure SameRecord (before after : HostTables) : Prop where
  runs : after.tables.ledger.runs = before.tables.ledger.runs
  attempts : ∀ attemptId, (after.tables.ledger.attempts.find attemptId).map
      (fun row => (row.status, row.used, row.terminalReason)) =
    (before.tables.ledger.attempts.find attemptId).map
      (fun row => (row.status, row.used, row.terminalReason))
  envelopes : ∀ runId, (after.tables.delegations.envelopes.find runId).map EnvelopeRow.used =
    (before.tables.delegations.envelopes.find runId).map EnvelopeRow.used
  events : after.tables.ledger.events = before.tables.ledger.events
  projections : after.projections = before.projections

/-- The operation performs the whole change, or throws and leaves all of it. -/
def Atomic (options : RunOptions) (host : HostTables) (runId : String) (usage : Usage)
    (outcome : Outcome) (call : Call) : Prop :=
  Ends host (endExecution options runId usage outcome call)
    (fun _ after => ∃ run attempt, HasAttempt host.tables.ledger runId run attempt ∧
      Performed host after run attempt usage outcome)
    (fun after => SameRecord host after)

/-- The background task of the run takes the projection of a run that ends. -/
def TaskReady (store : RunStore) (runId : String) (status : RunStatus) : Prop :=
  ∃ task, getTaskByRun store runId = some task ∧
    (status.terminal = true → task.status.terminal = false → task.notifyPolicy ≠ .silent →
      (store.flowLinks.find task.taskId).isSome = true)

/-- The delivery that the run is to wait for. -/
def DeliveryPending (store : DelegationStore) (run : RunRow) (attempt : AttemptRow)
    (delegationId toolCallId : String) : Prop :=
  ∃ wait, store.resultDeliveries.find delegationId = some wait ∧
    wait.parentRunId = run.runId ∧ wait.parentAttemptId = attempt.attemptId ∧
      wait.parentToolCallId = toolCallId ∧ wait.state = .pending

def waitingEvent (runId attemptId delegationId toolCallId : String) (now : Nat) : EventInput :=
  lifecycleEvent runId (some attemptId) "delegation.waiting"
    (.object [("delegationId", .text delegationId), ("toolCallId", .text toolCallId)])
    (some ("delegation-wait:" ++ delegationId)) now

/-- The key of the wait can be used: it passes its check, and what stands under it is
the event of this wait. -/
def WaitKeyFree (store : RunStore) (run : RunRow) (attempt : AttemptRow)
    (delegationId toolCallId : String) : Prop :=
  passes ("delegation-wait:" ++ delegationId) 128 matchesKeyPattern ∧
    ∀ event,
      getEventByIdempotency store run.runId ("delegation-wait:" ++ delegationId) = some event →
        (waitingEvent run.runId attempt.attemptId delegationId toolCallId 0).repeats event

def Accepts (tables : RunTables) (run : RunRow) (attempt : AttemptRow) : Outcome → Prop
  | .waitingDelegation delegationId toolCallId =>
    run.status = .running ∧
      DeliveryPending tables.delegations run attempt delegationId toolCallId ∧
      TaskReady tables.ledger run.runId .created ∧
      WaitKeyFree tables.ledger run attempt delegationId toolCallId
  | outcome =>
    runStatusOf outcome ∈ transitions run.status ∧
      TaskReady tables.ledger run.runId (runStatusOf outcome)

/-- Attempt and envelope hold the report already. -/
def AlreadyReported (tables : RunTables) (run : RunRow) (attempt : AttemptRow) (usage : Usage)
    (outcome : Outcome) : Prop :=
  attempt.used = attemptShare tables.ledger run attempt usage ∧
    attempt.terminalReason = some outcome.reason ∧
    ∀ envelope, tables.delegations.envelopes.find run.runId = some envelope → envelope.used = usage

variable {store : RunStore} {key delegationId toolCallId : String} {input : TransitionInput}

theorem projectedStatus_live (task : TaskRow) (input : RunUpdate) (visible : input.lost = none)
    (live : input.status.terminal = false) :
    (projectedStatus store task input).terminal = false := by
  unfold projectedStatus
  rw [visible]
  cases status : input.status with
  | created =>
    simp only [Option.isSome_none, Bool.false_eq_true, if_false]
    split <;> rfl
  | running => rfl
  | waitingApproval => rfl
  | _ => simp [status, RunStatus.terminal] at live

theorem deliverable_iff (task : TaskRow) (input : RunUpdate) (visible : input.lost = none) :
    willDeliver task (projectedStatus store task input) = true ↔
      input.status.terminal = true ∧ task.notifyPolicy ≠ .silent := by
  unfold willDeliver
  cases live : input.status.terminal with
  | true =>
    rw [projectedStatus_terminal store task input live]
    simp
  | false =>
    rw [projectedStatus_live task input visible live]
    simp

theorem syncRunLifecycle_completes (rule : CompletionRule) (input : RunUpdate)
    (visible : input.lost = none) (ready : TaskReady store input.runId input.status) :
    Completes store (syncRunLifecycle rule input)
      (fun _ reached => ∃ tasks, reached = { store with tasks := tasks }) := by
  obtain ⟨task, found, linked⟩ := ready
  apply completes_read
  apply completes_expect found
  cases ended : task.status.terminal with
  | true =>
    exact completes_return () ⟨store.tasks, rfl⟩
  | false =>
    by_cases same : sameProjection task (task.projected rule store input)
    · rw [if_pos same]
      exact completes_return () ⟨store.tasks, rfl⟩
    rw [if_neg same]
    apply completes_write
    unfold demand
    have delivered : willDeliver task (projectedStatus store task input) = true →
        (store.flowLinks.find task.taskId).isSome = true := by
      intro deliver
      obtain ⟨terminal, loud⟩ := (deliverable_iff task input visible).mp deliver
      exact linked terminal ended loud
    rw [if_pos delivered]
    exact completes_return () ⟨_, rfl⟩

theorem syncRunLifecycle_needs (rule : CompletionRule) (input : RunUpdate)
    (visible : input.lost = none) :
    Ensures (fun known => known = store) (syncRunLifecycle rule input)
      (fun _ _ => TaskReady store input.runId input.status) := by
  apply ensures_read
  apply ensures_expect_then
  intro task found
  apply ensures_ite
  · intro ended
    exact ensures_return () ⟨task, found, fun _ live => by rw [ended] at live; cases live⟩
  intro _
  apply ensures_ite
  · intro same
    apply ensures_return
    refine ⟨task, found, fun terminal live _ => ?_⟩
    have isStatus : task.status = projectedStatus store task input := same.1
    rw [isStatus, projectedStatus_terminal store task input terminal] at live
    cases live
  · intro _
    apply ensures_write
    unfold demand
    split
    next linked =>
      apply ensures_return
      refine ⟨task, found, fun terminal _ loud => ?_⟩
      exact linked ((deliverable_iff task input visible).mpr ⟨terminal, loud⟩)
    next => exact ensures_fail _

theorem updateRun_completes (rule : CompletionRule) (input : RunUpdate)
    (found : store.runs.find input.runId = some run) (visible : input.lost = none)
    (ready : TaskReady store input.runId input.status) :
    Completes store (updateRun rule input)
      (fun _ reached => ∃ tasks, reached =
        { store with runs := store.runs.update (run.updatedBy input), tasks := tasks }) := by
  apply completes_inspect
  apply completes_expect found
  apply completes_write
  exact syncRunLifecycle_completes rule input visible ready

theorem updateRun_needs (rule : CompletionRule) (input : RunUpdate)
    (visible : input.lost = none) :
    Ensures (fun known => known = store) (updateRun rule input)
      (fun _ _ => TaskReady store input.runId input.status) := by
  apply ensures_inspect_then
  intro known isStore
  apply ensures_expect_then
  intro row _
  apply ensures_write
  exact ensures_result (syncRunLifecycle_needs rule input visible) fun _ _ ready => ready

theorem updateRun_takes {rule : CompletionRule} {input : RunUpdate}
    (found : store.runs.find input.runId = some run) (visible : input.lost = none) :
    Ensures (fun known => known = store) (updateRun rule input)
      (fun _ reached => TaskReady store input.runId input.status ∧
        ∃ tasks, reached =
          { store with runs := store.runs.update (run.updatedBy input), tasks := tasks }) := by
  intro known value reached isStore done
  have ready := updateRun_needs rule input visible known value reached isStore done
  have completes := updateRun_completes rule input found visible ready
  exact ⟨ready, ensures_of_completes completes known value reached isStore done⟩

def KeyUsable (store : RunStore) (input : EventInput) : Prop :=
  ∀ key, input.idempotencyKey = some key → key ≠ "" ∧ passes key 128 matchesKeyPattern ∧
    ∀ event, getEventByIdempotency store input.runId key = some event → input.repeats event

structure Told (before : RunStore) (run : RunRow) (input : EventInput) (after : RunStore) :
    Prop where
  sameRun : ∃ row, after.runs.find run.runId = some row ∧ row.status = run.status ∧
    row.conversationId = run.conversationId
  attempts : after.attempts = before.attempts
  event : ∃ event, EventStands before.events after.events event ∧ event.runId = input.runId ∧
    event.attemptId = input.attemptId ∧ event.eventType = input.eventType

def withEvent (store : RunStore) (run : RunRow) (row : EventRow) : RunStore :=
  { store with
    runs := store.runs.update (run.withEventSequence row.sequence row.emittedAt)
    events := store.events ++ [row] }

theorem allocateEvent_enters (input : EventInput) (eventId : String)
    (found : store.runs.find input.runId = some run)
    (ordered : ∀ expected ∈ input.expectedSequence, expected = run.lastEventSequence + 1)
    (free : ∀ key ∈ input.idempotencyKey, getEventByIdempotency store input.runId key = none) :
    Completes store (allocateEvent run input eventId)
      (fun _ reached => ∃ sequence,
        reached = withEvent store run (input.toRow sequence eventId)) := by
  have key : run.runId = input.runId := store.runs.key_of_find found
  have own : store.runs.find run.runId = some run := by
    rw [key]
    exact found
  have counted : Completes store (nextEventSequence run.runId input.emittedAt)
      (fun sequence reached => reached =
        { store with
          runs := store.runs.update (run.withEventSequence sequence input.emittedAt) }) := by
      apply completes_inspect
      apply completes_expect own
      apply completes_write
      exact completes_return _ rfl
  apply completes_demand ordered
  apply completes_called counted
  intro sequence middle isMiddle
  rw [isMiddle]
  have inserted : Completes
      { store with runs := store.runs.update (run.withEventSequence sequence input.emittedAt) }
      (insertEvent (input.toRow sequence eventId))
      (fun _ reached => reached = withEvent store run (input.toRow sequence eventId)) := by
    apply completes_read
    apply completes_demand free
    exact completes_change _ rfl
  apply completes_called inserted
  intro _ reached isReached
  rw [isReached]
  exact completes_return _ ⟨sequence, rfl⟩

theorem withEvent_run (found : store.runs.find run.runId = some run) (row : EventRow) :
    (withEvent store run row).runs.find run.runId =
      some (run.withEventSequence row.sequence row.emittedAt) :=
  (store.runs.find_update (run.withEventSequence row.sequence row.emittedAt) found run.runId).trans
    (if_pos rfl)

theorem allocateEvent_completes (input : EventInput) (eventId : String)
    (found : store.runs.find input.runId = some run) (unordered : input.expectedSequence = none)
    (free : ∀ key ∈ input.idempotencyKey, getEventByIdempotency store input.runId key = none) :
    Completes store (allocateEvent run input eventId) (fun _ => Told store run input) := by
  have key : run.runId = input.runId := store.runs.key_of_find found
  have own : store.runs.find run.runId = some run := by
    rw [key]
    exact found
  have ordered : ∀ expected ∈ input.expectedSequence, expected = run.lastEventSequence + 1 := by
    rw [unordered]
    intro expected absent
    cases absent
  apply completes_result (allocateEvent_enters input eventId found ordered free)
  intro _ reached entered
  obtain ⟨sequence, isReached⟩ := entered
  rw [isReached]
  refine ⟨⟨run.withEventSequence sequence input.emittedAt, withEvent_run own _, rfl, rfl⟩, rfl, ?_⟩
  exact ⟨input.toRow sequence eventId, Or.inl rfl, rfl, rfl, rfl⟩

theorem getEventByIdempotency_facts {event : EventRow}
    (found : getEventByIdempotency store runId key = some event) :
    event ∈ store.events ∧ event.runId = runId ∧ event.idempotencyKey = some key := by
  have matched := List.find?_some found
  exact ⟨List.mem_of_find?_eq_some found, of_decide_eq_true matched⟩

theorem appendEvent_enters (input : EventInput) (eventId : String)
    (found : store.runs.find input.runId = some run)
    (ordered : ∀ expected ∈ input.expectedSequence, expected = run.lastEventSequence + 1)
    (named : passes input.eventType 128 matchesEventPattern)
    (keyed : input.idempotencyKey = some key) (nonempty : key ≠ "")
    (checked : passes key 128 matchesKeyPattern)
    (free : getEventByIdempotency store input.runId key = none) :
    Completes store (appendEventWithRepositories input eventId)
      (fun _ reached => ∃ sequence,
        reached = withEvent store run (input.toRow sequence eventId)) := by
  have isRun : run.runId = input.runId := store.runs.key_of_find found
  apply completes_demand named
  apply completes_read
  apply completes_expect found
  have looked : input.idempotencyKey.filter (fun other => decide (other ≠ "")) = some key := by
    rw [keyed]
    simp [nonempty]
  rw [looked]
  apply completes_demand checked
  have unused : getEventByIdempotency store run.runId key = none := by
    rw [isRun]
    exact free
  rw [unused]
  apply allocateEvent_enters input eventId found ordered
  rw [keyed]
  intro other isOwn
  have sameKey : key = other := Option.some.inj isOwn
  rw [← sameKey]
  exact free

theorem appendEvent_tells (input : EventInput) (eventId : String)
    {found : store.runs.find input.runId = some run} (unordered : input.expectedSequence = none)
    (named : passes input.eventType 128 matchesEventPattern) (usable : KeyUsable store input) :
    Completes store (appendEventWithRepositories input eventId)
      (fun _ => Told store run input) := by
  have key : run.runId = input.runId := store.runs.key_of_find found
  apply completes_demand named
  apply completes_read
  apply completes_expect found
  cases keyed : input.idempotencyKey with
  | none =>
    apply allocateEvent_completes input eventId found unordered
    rw [keyed]
    intro other absent
    cases absent
  | some own =>
    obtain ⟨nonempty, checked, repeats⟩ := usable own keyed
    have looked : (some own).filter (fun other => decide (other ≠ "")) = some own := by
      simp [nonempty]
    rw [looked]
    apply completes_demand checked
    cases lookup : getEventByIdempotency store run.runId own with
    | none =>
      apply allocateEvent_completes input eventId found unordered
      rw [keyed]
      intro other isOwn
      have sameKey : own = other := Option.some.inj isOwn
      rw [← sameKey, ← key]
      exact lookup
    | some event =>
      rw [key] at lookup
      have same := repeats event lookup
      obtain ⟨eventIn, inRun, underKey⟩ := getEventByIdempotency_facts lookup
      apply completes_demand same
      apply completes_return
      refine ⟨⟨run, ?_, rfl, rfl⟩, rfl, ?_⟩
      · rw [key]
        exact found
      · refine ⟨event, Or.inr ⟨rfl, eventIn, ?_⟩, inRun, same.2.1, same.1⟩
        rw [underKey]
        rfl

theorem appendEvent_needs {input : EventInput} {eventId : String}
    (keyed : input.idempotencyKey = some key) (nonempty : key ≠ "") :
    Ensures (fun known => known = store) (appendEventWithRepositories input eventId)
      (fun _ _ => KeyUsable store input) := by
  apply ensures_demand_then
  intro _
  apply ensures_read
  apply ensures_expect_then
  intro row found
  have isRun : row.runId = input.runId := store.runs.key_of_find found
  have looked : input.idempotencyKey.filter (fun other => decide (other ≠ "")) = some key := by
    rw [keyed]
    simp [nonempty]
  rw [looked]
  apply ensures_demand_then
  intro checked
  cases lookup : getEventByIdempotency store row.runId key with
  | none =>
    have usable : KeyUsable store input := by
      intro other isKey
      have sameKey : key = other := Option.some.inj (keyed.symm.trans isKey)
      rw [← sameKey]
      refine ⟨nonempty, checked, fun event stored => ?_⟩
      rw [← isRun] at stored
      rw [lookup] at stored
      cases stored
    exact fun _ _ _ _ _ => usable
  | some event =>
    apply ensures_demand_then
    intro same
    apply ensures_return
    intro other isKey
    have sameKey : key = other := Option.some.inj (keyed.symm.trans isKey)
    rw [← sameKey]
    refine ⟨nonempty, checked, fun stored isStored => ?_⟩
    rw [← isRun] at isStored
    have sameEvent : event = stored := Option.some.inj (lookup.symm.trans isStored)
    rw [← sameEvent]
    exact same

structure Moved (before : RunStore) (run : RunRow) (attempt : AttemptRow) (status : RunStatus)
    (ending : AttemptStatus) (eventType : String) (row : RunRow) (after : RunStore) : Prop where
  stored : after.runs.find run.runId = some row
  status : row.status = status
  sameConversation : row.conversationId = run.conversationId
  ended : ∃ last, after.attempts.find attempt.attemptId = some last ∧ last.status = ending ∧
    last.used = attempt.used ∧ last.terminalReason = attempt.terminalReason
  event : ∃ event, EventStands before.events after.events event ∧ event.runId = run.runId ∧
    event.attemptId = some attempt.attemptId ∧ event.eventType = eventType

theorem completes_reread {Value : Type} {input : EventInput} {body : LedgerTransaction Value}
    {after : RunRow → RunStore → Prop} (failure : RunFailure)
    (told : Completes store body (fun _ => Told store run input))
    (holds : ∀ row reached, Told store run input reached →
      reached.runs.find run.runId = some row → after row reached) :
    Completes store
      (body >>= fun _ => inspect id >>= fun reached =>
        expect (reached.runs.find run.runId) failure) after := by
  apply completes_called told
  intro _ reached facts
  obtain ⟨row, found, -, -⟩ := facts.sameRun
  apply completes_read
  rw [found]
  exact completes_return row (holds row reached facts found)

structure Written (before : RunStore) (run : RunRow) (attempt : AttemptRow) (status : RunStatus)
    (ending : AttemptStatus) (middle : RunStore) : Prop where
  stored : ∃ row, middle.runs.find run.runId = some row ∧ row.status = status ∧
    row.conversationId = run.conversationId
  ended : ∃ last, middle.attempts.find attempt.attemptId = some last ∧ last.status = ending ∧
    last.used = attempt.used ∧ last.terminalReason = attempt.terminalReason
  events : middle.events = before.events

theorem moved_of_written {middle : RunStore} {status : RunStatus} {ending : AttemptStatus}
    (written : Written store run attempt status ending middle) {input : EventInput}
    (sameRun : input.runId = run.runId) (sameAttempt : input.attemptId = some attempt.attemptId)
    (unordered : input.expectedSequence = none)
    (named : passes input.eventType 128 matchesEventPattern) (usable : KeyUsable middle input)
    (eventId : String) (failure : RunFailure) :
    Completes middle
      (appendEventWithRepositories input eventId >>= fun _ => inspect id >>= fun reached =>
        expect (reached.runs.find run.runId) failure)
      (Moved store run attempt status ending input.eventType) := by
  obtain ⟨row, found, isStatus, isConversation⟩ := written.stored
  have key : row.runId = run.runId := middle.runs.key_of_find found
  have told : Completes middle (appendEventWithRepositories input eventId)
      (fun _ => Told middle row input) := by
    apply appendEvent_tells input eventId unordered named usable
    rw [sameRun]
    exact found
  rw [← key]
  apply completes_reread failure told
  intro result reached facts isResult
  obtain ⟨again, foundAgain, sameStatus, sameConversation⟩ := facts.sameRun
  have isAgain : again = result := Option.some.inj (foundAgain.symm.trans isResult)
  rw [isAgain] at sameStatus sameConversation
  obtain ⟨event, stands, ofRun, ofAttempt, ofType⟩ := facts.event
  rw [written.events] at stands
  refine
    { stored := ?_
      status := sameStatus.trans isStatus
      sameConversation := sameConversation.trans isConversation
      ended := ?_
      event := ⟨event, stands, ofRun.trans sameRun, ofAttempt.trans sameAttempt, ofType⟩ }
  · rw [← key]
    exact isResult
  · rw [facts.attempts]
    exact written.ended

theorem find_updatedRun (found : store.runs.find runId = some run) {input : RunUpdate} :
    (store.runs.update (run.updatedBy input)).find runId = some (run.updatedBy input) := by
  have key : run.runId = runId := store.runs.key_of_find found
  have present : store.runs.find (run.updatedBy input).runId = some run :=
    store.runs.find_self found
  have written := store.runs.find_update (run.updatedBy input) present runId
  exact written.trans (if_pos key)

theorem transitionRun_moves (has : HasAttempt store input.runId run attempt)
    (allowed : input.status ∈ transitions run.status) (parks : input.status ≠ .running)
    (ready : TaskReady store input.runId input.status)
    (named : passes (input.eventType.getD (defaultEventType input.status)) 128
      matchesEventPattern) (now : Nat) (createId : Nat → String) :
    Completes store (transitionRun options input now createId)
      (Moved store run attempt input.status (attemptStatusOf input.status)
        (input.eventType.getD (defaultEventType input.status))) := by
  have key : run.runId = input.runId := store.runs.key_of_find has.found
  have stays : (decide (input.status = .running) &&
      (run.currentAttemptId.bind store.attempts.find).all
        fun row => decide (row.status = .aborted)) = false := by
    simp [parks]
  have found : store.runs.find run.runId = some run := by
    rw [key]
    exact has.found
  rw [← key] at ready
  apply completes_read
  apply completes_expect has.found
  apply completes_demand allowed
  dsimp only [id]
  rw [stays, has.current]
  have skipped : Completes store
      (whenever (false = true) (insertAttempt
        (emptyAttempt (createId 0) run.runId (nextAttemptNumber store run.runId) now)))
      (fun _ reached => reached = store) := by
    apply completes_whenever
    · intro impossible
      cases impossible
    · intro _
      rfl
  apply completes_called skipped
  intro _ middle isStore
  rw [isStore]
  apply completes_called (updateRun_completes _ _ found rfl ready)
  intro _ middle updated
  obtain ⟨tasks, isUpdated⟩ := updated
  have stored : middle.attempts.find attempt.attemptId = some attempt := by
    rw [isUpdated]
    exact has.stored
  apply completes_called (rewriteAttempt_completes stored _ _)
  intro _ written isWritten
  rw [isWritten, isUpdated]
  apply moved_of_written
  · exact
      { stored := ⟨_, find_updatedRun found, rfl, rfl⟩
        ended := ⟨_, find_rewrittenAttempt has.stored rfl, rfl, rfl, rfl⟩
        events := rfl }
  · rfl
  · rfl
  · rfl
  · exact named
  · intro other absent
    cases absent

theorem transitionRun_needs (found : store.runs.find input.runId = some run)
    (parks : input.status ≠ .running) (now : Nat) (createId : Nat → String) :
    Ensures (fun known => known = store) (transitionRun options input now createId)
      (fun _ _ => input.status ∈ transitions run.status ∧
        TaskReady store input.runId input.status) := by
  have key : run.runId = input.runId := store.runs.key_of_find found
  have stays : (decide (input.status = .running) &&
      (run.currentAttemptId.bind store.attempts.find).all
        fun row => decide (row.status = .aborted)) = false := by
    simp [parks]
  apply ensures_read
  apply ensures_expect_then
  intro other foundOther
  have isRun : other = run := Option.some.inj (foundOther.symm.trans found)
  rw [isRun]
  apply ensures_demand_then
  intro allowed
  dsimp only [id]
  rw [stays]
  have skipped : Ensures (fun known => known = store)
      (whenever (false = true) (insertAttempt
        (emptyAttempt (createId 0) run.runId (nextAttemptNumber store run.runId) now)))
      (fun _ reached => reached = store) := by
    apply ensures_whenever
    · intro impossible
      cases impossible
    · intro _ known isStore
      exact isStore
  refine ensures_bind skipped fun _ => ?_
  refine ensures_bind (ensures_result (updateRun_needs _ _ rfl) fun _ _ ready => ?_)
    fun _ _ _ _ known _ => known
  rw [key] at ready
  exact ⟨allowed, ready⟩

theorem waitingType_passes : passes "delegation.waiting" 128 matchesEventPattern := by
  decide

theorem nonempty_of_passes {value : String} {max : Nat} {pattern : String → Bool}
    (checked : passes value max pattern) : value ≠ "" := by
  intro empty
  have long : 1 ≤ utf16Length value := checked.1
  have short : utf16Length "" = 0 := by decide
  rw [empty, short] at long
  omega

theorem waitKeyFree_iff (delegationId toolCallId : String) (now : Nat) :
    WaitKeyFree store run attempt delegationId toolCallId ↔
      KeyUsable store (waitingEvent run.runId attempt.attemptId delegationId toolCallId now) := by
  constructor
  · intro free key isKey
    have sameKey : "delegation-wait:" ++ delegationId = key := Option.some.inj isKey
    rw [← sameKey]
    exact ⟨nonempty_of_passes free.1, free.1, free.2⟩
  · intro usable
    obtain ⟨-, checked, repeats⟩ := usable _ rfl
    exact ⟨checked, repeats⟩

def parkRun (options : RunOptions) (run : RunRow) (attempt : AttemptRow)
    (delegationId toolCallId : String) (now : Nat) (createId : Nat → String) :
    LedgerTransaction RunRow := do
  updateAttempt attempt.attemptId .aborted none (some now) (some "DELEGATION_WAIT") now
  updateRun options.completionRule
    (RunUpdate.plain run.runId .created .resumable (some attempt.attemptId) run.startedAt none now)
  let _ ← appendEventWithRepositories
    (waitingEvent run.runId attempt.attemptId delegationId toolCallId now) (createId 0)
  let reached ← inspect id
  expect (reached.runs.find run.runId) runNotFound

theorem updateAttempt_completes {attemptId : String}
    (stored : store.attempts.find attemptId = some attempt) {status : AttemptStatus}
    {startedAt endedAt : Option Nat} {recoveryReason : Option String} :
    Completes store (updateAttempt attemptId status startedAt endedAt recoveryReason now)
      (fun _ reached => reached =
        { store with
          attempts := store.attempts.update
            { attempt with
              status := status
              startedAt := attempt.startedAt <|> startedAt
              endedAt := endedAt
              recoveryReason := recoveryReason
              updatedAt := now } }) :=
  rewriteAttempt_completes stored _ _

section

variable (found : store.runs.find run.runId = some run)
  (stored : store.attempts.find attempt.attemptId = some attempt)
include found stored

theorem parkRun_moves (ready : TaskReady store run.runId .created)
    (free : WaitKeyFree store run attempt delegationId toolCallId) (now : Nat)
    (createId : Nat → String) :
    Completes store (parkRun options run attempt delegationId toolCallId now createId)
      (Moved store run attempt .created .aborted "delegation.waiting") := by
  apply completes_called (updateAttempt_completes stored)
  intro _ aborted isAborted
  subst isAborted
  apply completes_called (updateRun_completes _ _ found rfl ready)
  intro _ written isWritten
  obtain ⟨tasks, isWritten⟩ := isWritten
  rw [isWritten]
  apply moved_of_written
  · exact
      { stored := ⟨_, find_updatedRun found, rfl, rfl⟩
        ended := ⟨_, find_rewrittenAttempt stored rfl, rfl, rfl, rfl⟩
        events := rfl }
  · rfl
  · rfl
  · rfl
  · exact waitingType_passes
  · exact (waitKeyFree_iff delegationId toolCallId now).mp free

theorem parkRun_needs (now : Nat) (createId : Nat → String) :
    Ensures (fun known => known = store)
      (parkRun options run attempt delegationId toolCallId now createId)
      (fun _ _ => TaskReady store run.runId .created ∧
        WaitKeyFree store run attempt delegationId toolCallId) := by
  refine ensures_called (ensures_of_completes (updateAttempt_completes stored)) ?_
  intro _ aborted isAborted
  subst isAborted
  refine ensures_called (updateRun_takes found rfl) ?_
  intro _ written taken
  obtain ⟨ready, tasks, isWritten⟩ := taken
  subst isWritten
  have nonempty : "delegation-wait:" ++ delegationId ≠ "" := by
    intro empty
    have lengths := congrArg String.length empty
    rw [String.length_append] at lengths
    have long : "delegation-wait:".length = 16 := by decide
    have short : "".length = 0 := by decide
    omega
  refine ensures_bind (ensures_result (appendEvent_needs rfl nonempty)
    fun _ _ usable => ?_) fun _ _ _ _ known _ => known
  exact ⟨ready, (waitKeyFree_iff delegationId toolCallId now).mpr usable⟩

end

theorem waitForDelegation_moves (has : HasAttempt tables.ledger runId run attempt)
    (accepts : Accepts tables run attempt (.waitingDelegation delegationId toolCallId)) (now : Nat)
    (createId : Nat → String) :
    Completes tables (waitForDelegation options runId delegationId toolCallId now createId)
      (fun row reached =>
        Moved tables.ledger run attempt .created .aborted "delegation.waiting" row
          reached.ledger ∧ reached.delegations = tables.delegations) := by
  have key : run.runId = runId := tables.ledger.runs.key_of_find has.found
  have found : tables.ledger.runs.find run.runId = some run := by
    rw [key]
    exact has.found
  obtain ⟨running, pending, ready, free⟩ := accepts
  obtain ⟨wait, present, matching⟩ := pending
  apply completes_read
  apply completes_expect has.found
  apply completes_expect has.current
  apply completes_demand running
  apply completes_expect present
  apply completes_demand matching
  apply completes_focus (parkRun_moves found has.stored ready free now createId)
  intro row reached moved
  exact ⟨moved, rfl⟩

theorem waitForDelegation_needs (has : HasAttempt tables.ledger runId run attempt) (now : Nat)
    (createId : Nat → String) :
    Ensures (fun known => known = tables)
      (waitForDelegation options runId delegationId toolCallId now createId)
      (fun _ _ => Accepts tables run attempt (.waitingDelegation delegationId toolCallId)) := by
  have key : run.runId = runId := tables.ledger.runs.key_of_find has.found
  have found : tables.ledger.runs.find run.runId = some run := by
    rw [key]
    exact has.found
  apply ensures_read
  apply ensures_expect_then
  intro other foundOther
  have isRun : other = run := Option.some.inj (foundOther.symm.trans has.found)
  rw [isRun]
  apply ensures_expect_then
  intro attemptId isCurrent
  have isAttempt : attemptId = attempt.attemptId :=
    Option.some.inj (isCurrent.symm.trans has.current)
  rw [isAttempt]
  apply ensures_demand_then
  intro running
  apply ensures_expect_then
  intro wait present
  apply ensures_demand_then
  intro matching
  apply ensures_focus
  intro whole value reached isTables done
  rw [isTables] at done
  obtain ⟨ready, free⟩ :=
    parkRun_needs found has.stored now createId tables.ledger value reached rfl done
  exact ⟨running, ⟨wait, present, matching⟩, ready, free⟩

theorem transitionOutcome_moves (input : TransitionInput)
    (has : HasAttempt tables.ledger input.runId run attempt) (parks : input.status ≠ .running)
    (allowed : input.status ∈ transitions run.status)
    (ready : TaskReady tables.ledger run.runId input.status)
    (named : passes (input.eventType.getD (defaultEventType input.status)) 128
      matchesEventPattern) (call : Call) :
    Completes tables (onLedger (transitionRun options input call.now call.createId))
      (fun row reached =>
        Moved tables.ledger run attempt input.status (attemptStatusOf input.status)
          (input.eventType.getD (defaultEventType input.status)) row reached.ledger ∧
        reached.delegations = tables.delegations) := by
  have key : run.runId = input.runId := tables.ledger.runs.key_of_find has.found
  rw [key] at ready
  apply completes_focus (transitionRun_moves has allowed parks ready named call.now call.createId)
  intro row ledger moved
  exact ⟨moved, rfl⟩

theorem transitionOutcome_needs {input : TransitionInput}
    (found : tables.ledger.runs.find input.runId = some run) (parks : input.status ≠ .running)
    (call : Call) :
    Ensures (fun known => known = tables)
      (onLedger (transitionRun options input call.now call.createId))
      (fun _ _ => input.status ∈ transitions run.status ∧
        TaskReady tables.ledger run.runId input.status) := by
  have key : run.runId = input.runId := tables.ledger.runs.key_of_find found
  apply ensures_focus
  intro whole value reached isTables done
  rw [isTables] at done
  rw [key]
  exact transitionRun_needs found parks call.now call.createId tables.ledger value reached rfl done

theorem moveRun_moves (options : RunOptions) (outcome : Outcome)
    (has : HasAttempt tables.ledger runId run attempt)
    (accepts : Accepts tables run attempt outcome) (usage : Usage) (call : Call) :
    Completes tables (moveRun options runId usage call outcome)
      (fun row reached =>
        Moved tables.ledger run attempt (runStatusOf outcome) (attemptEndOf outcome)
          (eventTypeOf outcome) row reached.ledger ∧
        reached.delegations = tables.delegations) := by
  cases outcome with
  | completed reason completionText =>
    have parks : RunStatus.completed ≠ .running := by decide
    have named : passes "run.completed" 128 matchesEventPattern := by decide
    exact transitionOutcome_moves (completion runId usage reason completionText) has parks
      accepts.1 accepts.2 named call
  | failed errorCode message =>
    have parks : RunStatus.failed ≠ .running := by decide
    have named : passes "run.failed" 128 matchesEventPattern := by decide
    exact transitionOutcome_moves (failureOf runId errorCode message) has parks accepts.1
      accepts.2 named call
  | waitingApproval requestId =>
    have parks : RunStatus.waitingApproval ≠ .running := by decide
    have named : passes "approval.requested" 128 matchesEventPattern := by decide
    exact transitionOutcome_moves (approvalWait runId requestId) has parks accepts.1 accepts.2
      named call
  | waitingDelegation delegationId toolCallId =>
    exact waitForDelegation_moves has accepts call.now call.createId

theorem moveRun_needs (outcome : Outcome) (has : HasAttempt tables.ledger runId run attempt)
    (usage : Usage) (call : Call) :
    Ensures (fun known => known = tables) (moveRun options runId usage call outcome)
      (fun _ _ => Accepts tables run attempt outcome) := by
  cases outcome with
  | completed reason completionText =>
    have parks : RunStatus.completed ≠ .running := by decide
    exact transitionOutcome_needs has.found parks call
  | failed errorCode message =>
    have parks : RunStatus.failed ≠ .running := by decide
    exact transitionOutcome_needs has.found parks call
  | waitingApproval requestId =>
    have parks : RunStatus.waitingApproval ≠ .running := by decide
    exact transitionOutcome_needs has.found parks call
  | waitingDelegation delegationId toolCallId =>
    exact waitForDelegation_needs has call.now call.createId

variable {reason : Option String}

theorem accepts_reported :
    Accepts (reported tables run attempt usage reason now) run
        (reportedAttempt attempt (attemptShare tables.ledger run attempt usage) reason now)
        outcome ↔
      Accepts tables run attempt outcome := by
  cases outcome with
  | waitingDelegation delegationId toolCallId =>
    have same : DeliveryPending (reported tables run attempt usage reason now).delegations run
        (reportedAttempt attempt (attemptShare tables.ledger run attempt usage) reason now)
        delegationId toolCallId ↔
        DeliveryPending tables.delegations run attempt delegationId toolCallId := by
      unfold DeliveryPending reported
      rw [resultDeliveries_reported]
      rfl
    exact and_congr Iff.rfl (and_congr same Iff.rfl)
  | _ => rfl

def reportedHost (host : HostTables) (run : RunRow) (attempt : AttemptRow) (usage : Usage)
    (outcome : Outcome) (now : Nat) : HostTables :=
  host.withTables (reported host.tables run attempt usage (some outcome.reason) now)

theorem sameRecord_iff
    (stored : host.tables.ledger.attempts.find attempt.attemptId = some attempt) :
    SameRecord host
        (reportedHost host run attempt usage outcome now) ↔
      AlreadyReported host.tables run attempt usage outcome := by
  constructor
  · intro same
    have attempts := same.attempts attempt.attemptId
    have envelopes := same.envelopes run.runId
    change ((reported host.tables run attempt usage (some outcome.reason) now).ledger.attempts.find
      attempt.attemptId).map _ = _ at attempts
    rw [find_reportedAttempt stored, if_pos rfl, stored] at attempts
    change ((reportedEnvelopes host.tables.delegations run.runId usage now).envelopes.find
      run.runId).map _ = _ at envelopes
    rw [find_reportedEnvelope, if_pos rfl] at envelopes
    simp only [Option.map_some, Option.some.injEq, Prod.mk.injEq] at attempts
    refine ⟨attempts.2.1.symm, attempts.2.2.symm, fun envelope found => ?_⟩
    rw [found] at envelopes
    simp only [Option.map_some, Option.some.injEq] at envelopes
    exact envelopes.symm
  · intro already
    obtain ⟨sameUsed, sameReason, sameEnvelope⟩ := already
    refine
      { runs := rfl
        attempts := fun attemptId => ?_
        envelopes := fun runId => ?_
        events := rfl
        projections := rfl }
    · change ((reported host.tables run attempt usage (some outcome.reason)
        now).ledger.attempts.find attemptId).map _ = _
      rw [find_reportedAttempt stored]
      by_cases own : attempt.attemptId = attemptId
      · rw [if_pos own, ← own, stored]
        simp [reportedAttempt, ← sameUsed, ← sameReason]
      · rw [if_neg own]
    · change ((reportedEnvelopes host.tables.delegations run.runId usage now).envelopes.find
        runId).map _ = _
      rw [find_reportedEnvelope]
      by_cases own : runId = run.runId
      · rw [if_pos own, own]
        cases found : host.tables.delegations.envelopes.find run.runId with
        | none => rfl
        | some envelope =>
          rw [Option.map_some, Option.map_some, sameEnvelope envelope found]
      · rw [if_neg own]

theorem find_saveProjection (projections : Table ProjectionRow.conversationId)
    (row : ProjectionRow) :
    (saveProjection projections row).find row.conversationId = some row := by
  unfold saveProjection
  cases inserted : projections.insert row with
  | some after =>
    rw [Option.getD_some, projections.find_insert _ _ row.conversationId inserted, if_pos rfl]
  | none =>
    cases found : projections.find row.conversationId with
    | some old => exact (projections.find_update row found row.conversationId).trans (if_pos rfl)
    | none =>
      obtain ⟨after, isInserted⟩ := projections.insert_of_fresh row found
      rw [inserted] at isInserted
      cases isInserted

theorem performed_of_moved {row : RunRow} {reached : RunTables}
    (moved : Moved (reported host.tables run attempt usage (some outcome.reason) now).ledger run
      (reportedAttempt attempt (attemptShare host.tables.ledger run attempt usage)
        (some outcome.reason) now)
      (runStatusOf outcome) (attemptEndOf outcome) (eventTypeOf outcome) row reached.ledger)
    (sameDelegations : reached.delegations =
      (reported host.tables run attempt usage (some outcome.reason) now).delegations) :
    Performed host
      { tables := reached
        projections := saveProjection host.projections
          (projectionOf reached.ledger row.conversationId call.now) }
      run attempt usage outcome where
  moved := by
    rw [moved.stored, Option.map_some, moved.status]
  ended := by
    obtain ⟨last, found, isStatus, isUsed, isReason⟩ := moved.ended
    have foundLast : reached.ledger.attempts.find attempt.attemptId = some last := found
    rw [foundLast, Option.map_some, isStatus, isUsed, isReason]
    rfl
  charged := by
    rw [sameDelegations]
    exact (find_reportedEnvelope host.tables.delegations run.runId usage now run.runId).trans
      (if_pos rfl)
  told := moved.event
  projected := by
    refine ⟨call.now, ?_⟩
    have saved := find_saveProjection host.projections
      (projectionOf reached.ledger row.conversationId call.now)
    rw [← moved.sameConversation]
    exact saved

theorem ends_endExecution {returned : RunRow → HostTables → Prop} {threw : HostTables → Prop}
    (has : HasAttempt host.tables.ledger runId run attempt) :
    Ends host (endExecution options runId usage outcome call) returned threw ↔
      Ends (reportedHost host run attempt usage outcome call.now)
        (commit (moveProjected options runId usage outcome call)) returned threw := by
  have reports : Completes host
      (onTables (updateExecutionUsage runId usage (some outcome.reason) call.now))
      (fun _ after => after = reportedHost host run attempt usage outcome call.now) := by
    apply completes_focus (updateExecutionUsage_reports has usage (some outcome.reason) call.now)
    intro _ tables isReported
    rw [isReported]
    rfl
  have same : (endExecution options runId usage outcome call).run.run host =
      (commit (moveProjected options runId usage outcome call)).run.run
        (reportedHost host run attempt usage outcome call.now) := by
    apply run_of_completes reports
    intro _ after isReported
    rw [isReported]
  unfold Ends
  rw [same]

theorem sameRecord_refl (host : HostTables) : SameRecord host host where
  runs := rfl
  attempts _ := rfl
  envelopes _ := rfl
  events := rfl
  projections := rfl

theorem atomic_without_attempt
    (without : ¬ ∃ run attempt, HasAttempt host.tables.ledger runId run attempt) :
    Atomic options host runId usage outcome call := by
  have impossible : Ensures (fun known => known = host)
      (onTables (updateExecutionUsage runId usage (some outcome.reason) call.now))
      (fun _ _ => False) := by
    apply ensures_focus
    intro whole value reached isHost done
    rw [isHost] at done
    exact without (updateExecutionUsage_needs usage _ call.now host.tables value reached rfl done)
  obtain ⟨failure, thrown⟩ := throws_of_ensures impossible
  have stopped : (endExecution options runId usage outcome call).run.run host =
      (.error failure, host) :=
    run_of_throws thrown
  unfold Atomic Ends
  rw [stopped]
  exact sameRecord_refl host

theorem atomic_of_accepts (has : HasAttempt host.tables.ledger runId run attempt)
    (accepts : Accepts host.tables run attempt outcome) :
    Atomic options host runId usage outcome call := by
  unfold Atomic
  rw [ends_endExecution has]
  obtain ⟨row, reached, ran, moved, sameDelegations⟩ :=
    moveRun_moves options outcome (hasAttempt_reported has usage (some outcome.reason) call.now)
      (accepts_reported.mpr accepts) usage
      call
  have ranProjected := run_moveProjected options runId usage outcome call
    (reportedHost host run attempt usage outcome call.now)
  rw [show (reportedHost host run attempt usage outcome call.now).tables =
      reported host.tables run attempt usage (some outcome.reason) call.now from rfl, ran]
    at ranProjected
  apply ends_completed
  exact ⟨row, _, ranProjected, run, attempt, has, performed_of_moved moved sameDelegations⟩

theorem atomic_of_refused (has : HasAttempt host.tables.ledger runId run attempt)
    (refused : ¬ Accepts host.tables run attempt outcome) :
    Atomic options host runId usage outcome call ↔
      SameRecord host (reportedHost host run attempt usage outcome call.now) := by
  have impossible : Ensures
      (fun known => known = reported host.tables run attempt usage (some outcome.reason) call.now)
      (moveRun options runId usage call outcome) (fun _ _ => False) :=
    ensures_result
      (moveRun_needs outcome (hasAttempt_reported has usage (some outcome.reason) call.now) usage call)
      fun _ _ accepts => refused (accepts_reported.mp accepts)
  obtain ⟨failure, thrown⟩ := throws_of_ensures impossible
  have ranProjected := run_moveProjected options runId usage outcome call
    (reportedHost host run attempt usage outcome call.now)
  rw [show (reportedHost host run attempt usage outcome call.now).tables =
      reported host.tables run attempt usage (some outcome.reason) call.now from rfl, thrown]
    at ranProjected
  unfold Atomic
  rw [ends_endExecution has]
  unfold Ends
  rw [run_commit, ranProjected]
  rfl

/-- The operation performs the whole change, or throws and leaves everything, exactly
when there is no attempt to report on, the run is accepted, or the report repeats what
is recorded. -/
theorem ending_atomic_iff (options : RunOptions) (host : HostTables) (runId : String)
    (usage : Usage) (outcome : Outcome) (call : Call) :
    Atomic options host runId usage outcome call ↔
      ∀ run attempt, HasAttempt host.tables.ledger runId run attempt →
        Accepts host.tables run attempt outcome ∨
          AlreadyReported host.tables run attempt usage outcome := by
  constructor
  · intro atomic run attempt has
    by_cases accepts : Accepts host.tables run attempt outcome
    · exact Or.inl accepts
    · right
      have same := (atomic_of_refused has accepts).mp atomic
      exact (sameRecord_iff has.stored).mp same
  · intro harmless
    by_cases present : ∃ run attempt, HasAttempt host.tables.ledger runId run attempt
    · obtain ⟨run, attempt, has⟩ := present
      by_cases accepts : Accepts host.tables run attempt outcome
      · exact atomic_of_accepts has accepts
      · have already := (harmless run attempt has).resolve_left accepts
        exact (atomic_of_refused has accepts).mpr ((sameRecord_iff has.stored).mpr already)
    · exact atomic_without_attempt present

def oneTurn : Usage where
  turns := 1
  inputTokens := 20
  outputTokens := 10
  modelCalls := 1
  toolCalls := 0

def completedOps : List RunOp :=
  [ .createConversation
      { conversationId := "c1"
        workspaceId := "main" },
    .send
      { workspaceId := "main", conversationId := "c1", submissionKey := "s1", text := "go" }
      (callAt 1 ["m1", "r1", "a1", "e1"]),
    .startExecution
      { runId := "r1", providerId := "p", modelId := "m", budget := smallBudget.execution }
      (callAt 2 ["", "e2"]),
    .completeExecution "r1" oneTurn "end_turn" (some "done") (callAt 3 ["", "e3"]) ]

def completedHost : HostTables where
  tables := reach mainHost completedOps
  projections := saveProjection Table.empty
    (projectionOf (reach mainHost completedOps).ledger "c1" 3)

/-- The failure that the coordinator reports when a preparation throws. -/
def preparationFailed : Outcome :=
  .failed "SKILL_PREPARATION_FAILED" "run is not preparable: COMPLETED"

/-- A late failure of the completed run throws and clears its usage. -/
theorem late_failure_clears_usage :
    ¬ Atomic mainHost completedHost "r1" 0 preparationFailed (callAt 4 ["", "e4"]) := by
  have foundRun : (completedHost.tables.ledger.runs.find "r1").map
      (fun run => (run.status, run.currentAttemptId)) = some (.completed, some "a1") := by
    decide +kernel
  have foundAttempt : (completedHost.tables.ledger.attempts.find "a1").map AttemptRow.used =
      some oneTurn := by
    decide +kernel
  obtain ⟨run, found, runFacts⟩ := Option.map_eq_some_iff.mp foundRun
  obtain ⟨attempt, stored, isUsed⟩ := Option.map_eq_some_iff.mp foundAttempt
  obtain ⟨isCompleted, isCurrent⟩ := Prod.mk.inj runFacts
  have key : attempt.attemptId = "a1" := completedHost.tables.ledger.attempts.key_of_find stored
  rw [← key] at isCurrent stored
  have has : HasAttempt completedHost.tables.ledger "r1" run attempt :=
    ⟨found, isCurrent, stored⟩
  have refused : ¬ Accepts completedHost.tables run attempt preparationFailed := by
    intro accepts
    have allowed : RunStatus.failed ∈ transitions run.status := accepts.1
    rw [isCompleted] at allowed
    cases allowed
  intro atomic
  have same := (atomic_of_refused has refused).mp atomic
  obtain ⟨sameUsed, -, -⟩ := (sameRecord_iff stored).mp same
  have turns := congrArg Usage.turns sameUsed
  rw [isUsed] at turns
  simp [attemptShare, usageBeyond, oneTurn] at turns

end OpenRill.Runs.AtomicTransitions
