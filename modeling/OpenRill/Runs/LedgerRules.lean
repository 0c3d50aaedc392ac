import OpenRill.Runs.Operations

/-!
# Invariants of the ledger under every operation

Which operations keep an invariant of the conversation and task tables depends
on a few kinds of write only: a write that leaves runs and tasks alone, the
stamp of an event sequence, a new run, a classification, and the update of a run
that had not ended when it was read. An invariant that those writes keep is kept
by every operation of the two services; only `failChildBeforeStart` updates a
run whose status it did not look at. An invariant may also speak of messages and
events. The lifecycle records neither the answer of a tool call nor a checkpoint,
so such an invariant need not withstand these.
-/

namespace OpenRill.Runs.LedgerRules

open Lib.Text Lib.Transaction State Ledger Delegations Lifecycle DelegationService Operations

variable {now : Nat} {createId : Nat → String} {runId errorCode : String} {Value Store : Type}
variable {rule : CompletionRule} {invariant before after : RunStore → Prop}
variable {property : Store → Prop} {closing executing : Prop}

/-- The writes that an invariant of runs and tasks has to withstand. -/
structure WriteRules (rule : CompletionRule) (invariant : RunStore → Prop) : Prop where
  unrelated : ∀ store changed, changed.runs = store.runs → changed.tasks = store.tasks →
    invariant store → invariant changed
  stamped : ∀ runId now, Keeps invariant (nextEventSequence runId now)
  inserted : ∀ row, row.status.terminal = false → Keeps invariant (insertRun row)
  classified : ∀ runId input now, Keeps invariant (classifyRun runId input now)
  updated : ∀ store run input, invariant store → store.runs.find input.runId = some run →
    run.status.terminal = false → Keeps invariant (updateRun rule input)

def checkpointType : String := "run.checkpoint"

def enterEvent (row : EventRow) : LedgerTransaction Unit := do
  let sequence ← nextEventSequence row.runId row.emittedAt
  insertEvent { row with sequence := sequence }

/-- The writes that an invariant of conversations, runs, tasks, messages and events has
to withstand, with answers and checkpoints only when it withstands them too, and with the
statuses that the execution of a run sets only when it withstands those. -/
structure EntryRules (rule : CompletionRule) (closing executing : Prop)
    (invariant : RunStore → Prop) : Prop where
  unrelated : ∀ store changed, changed.conversations = store.conversations →
    changed.runs = store.runs → changed.tasks = store.tasks →
    changed.messages = store.messages → changed.events = store.events →
    invariant store → invariant changed
  opened : ∀ input, Keeps invariant (createConversation input)
  spoken : ∀ input, closing ∨ input.role ≠ .tool → Keeps invariant (insertMessage input)
  entered : ∀ row, closing ∨ row.eventType ≠ checkpointType → Keeps invariant (enterEvent row)
  inserted : ∀ row, row.status = .created → row.lastEventSequence = 0 →
    Keeps invariant (insertRun row)
  classified : ∀ runId input now, Keeps invariant (classifyRun runId input now)
  updated : ∀ store run input, invariant store → store.runs.find input.runId = some run →
    run.status.terminal = false →
    executing ∨ input.status = .failed ∨ input.status = .cancelled →
    Keeps invariant (updateRun rule input)

/-- The writes that leave runs and attempts, but for the counter of a run. -/
structure EventRules (closing : Prop) (invariant : RunStore → Prop) : Prop where
  unrelated : ∀ store changed, changed.conversations = store.conversations →
    changed.runs = store.runs → changed.attempts = store.attempts →
    changed.tasks = store.tasks → changed.messages = store.messages →
    changed.events = store.events → invariant store → invariant changed
  opened : ∀ input, Keeps invariant (createConversation input)
  spoken : ∀ input, closing ∨ input.role ≠ .tool → Keeps invariant (insertMessage input)
  entered : ∀ row, closing ∨ row.eventType ≠ checkpointType → Keeps invariant (enterEvent row)
  classified : ∀ runId input now, Keeps invariant (classifyRun runId input now)

theorem EntryRules.events (rules : EntryRules rule closing executing invariant) :
    EventRules closing invariant where
  unrelated store changed conversations runs _ tasks messages events kept :=
    rules.unrelated store changed conversations runs tasks messages events kept
  opened := rules.opened
  spoken := rules.spoken
  entered := rules.entered
  classified := rules.classified

theorem insertEvent_keeps_of
    (unread : ∀ store events, invariant store → invariant { store with events := events })
    {row : EventRow} : Keeps invariant (insertEvent row) :=
  keeps_inspect fun _ _ => keeps_demand fun _ => keeps_change fun store kept =>
    unread store _ kept

theorem enterEvent_keeps_of (stamped : ∀ runId now, Keeps invariant (nextEventSequence runId now))
    (unread : ∀ store events, invariant store → invariant { store with events := events })
    (row : EventRow) : Keeps invariant (enterEvent row) :=
  keeps_bind (stamped row.runId row.emittedAt) fun _ => insertEvent_keeps_of unread

theorem createConversation_keeps_of
    (unread : ∀ store conversations, invariant store →
      invariant { store with conversations := conversations }) (input : ConversationInput) :
    Keeps invariant (createConversation input) := by
  apply keeps_tryMap
  intro store conversations kept _
  exact unread store conversations kept

theorem nextMessageSequence_keeps_of
    (unread : ∀ store conversations, invariant store →
      invariant { store with conversations := conversations }) (conversationId : String) :
    Keeps invariant (nextMessageSequence conversationId) := by
  refine keeps_inspect fun _ _ => keeps_expect fun row _ => ?_
  exact keeps_bind (keeps_change fun store kept => unread store _ kept) fun _ => keeps_pure _

theorem insertMessage_keeps_of
    (unread : ∀ store conversations messages, invariant store →
      invariant { store with conversations := conversations, messages := messages })
    (input : MessageInput) : Keeps invariant (insertMessage input) := by
  refine keeps_bind (nextMessageSequence_keeps_of (fun store conversations kept =>
    unread store conversations store.messages kept) input.conversationId) fun sequence => ?_
  refine keeps_inspect fun _ _ => keeps_demand fun _ => keeps_change ?_
  exact fun store kept => unread store store.conversations _ kept

theorem entryRules_of_writeRules (rules : WriteRules rule invariant) :
    EntryRules rule True True invariant where
  unrelated store changed _ runs tasks _ _ kept := rules.unrelated store changed runs tasks kept
  opened := createConversation_keeps_of (fun store _ kept => rules.unrelated store _ rfl rfl kept)
  spoken input _ :=
    insertMessage_keeps_of (fun store _ _ kept => rules.unrelated store _ rfl rfl kept) input
  entered row _ :=
    enterEvent_keeps_of rules.stamped (fun store _ kept => rules.unrelated store _ rfl rfl kept) row
  inserted row created _ := rules.inserted row (created ▸ rfl)
  classified := rules.classified
  updated store run input kept found live _ := rules.updated store run input kept found live

variable {options : RunOptions}

section Rows

variable {property : RunStore → Prop} {input : RunUpdate}

theorem nextEventSequence_ensures {reached : Nat → RunStore → Prop}
    (stamped : ∀ store row, before store → row.runId = runId →
      store.runs.find row.runId = some row → reached (row.lastEventSequence + 1)
        { store with
          runs := store.runs.update (row.withEventSequence (row.lastEventSequence + 1) now) }) :
    Ensures before (nextEventSequence runId now) reached := by
  refine ensures_inspect_at fun store initially => ensures_expect_then fun row found => ?_
  have key : row.runId = runId := store.runs.key_of_find found
  rw [← key] at found
  apply ensures_write
  exact ensures_return _ (stamped store row initially key found)

section

variable (kept : ∀ store tasks, property store → property { store with tasks := tasks })
include kept

theorem classifyRun_tasks {input : Classification} : Keeps property (classifyRun runId input now) :=
  keeps_inspect fun _ _ => keeps_expect fun _ _ =>
    keeps_ite (fun _ => keeps_pure ()) fun _ => keeps_change fun store => kept store _

theorem syncRunLifecycle_tasks : Keeps property (syncRunLifecycle rule input) := by
  refine keeps_inspect fun _ _ => keeps_expect fun task _ => ?_
  refine keeps_ite (fun _ => keeps_pure ()) fun _ => keeps_ite (fun _ => keeps_pure ()) ?_
  exact fun _ => keeps_bind (keeps_change fun store => kept store _) fun _ => keeps_demand_last _ _

end

theorem updateRun_ensures
    (updated : ∀ store row, before store → row.runId = input.runId →
      store.runs.find row.runId = some row →
      after { store with runs := store.runs.update (row.updatedBy input) })
    (kept : ∀ store tasks, after store → after { store with tasks := tasks }) :
    Ensures before (updateRun rule input) (fun _ => after) := by
  refine ensures_inspect_at fun store initially => ensures_expect_then fun row found => ?_
  have key : row.runId = input.runId := store.runs.key_of_find found
  rw [← key] at found
  apply ensures_write
  refine ensures_from after (syncRunLifecycle_tasks kept) ?_
  rintro state rfl
  exact updated store row initially key found

end Rows

section Writes

variable (rules : EntryRules options.completionRule closing executing invariant)

include rules

theorem insertAttempt_keeps (row : AttemptRow) : Keeps invariant (insertAttempt row) := by
  apply keeps_tryMap
  intro store attempts kept _
  exact rules.unrelated store _ rfl rfl rfl rfl rfl kept

theorem rewriteAttempt_keeps (attemptId : String) (rewrite : AttemptRow → AttemptRow)
    {missing : String} : Keeps invariant (rewriteAttempt attemptId rewrite missing) := by
  refine keeps_inspect fun _ _ => keeps_expect fun row _ => keeps_change ?_
  intro store kept
  exact rules.unrelated store _ rfl rfl rfl rfl rfl kept

theorem setAttempt_keeps (attemptId : Option String) {status : AttemptStatus}
    {startedAt endedAt : Option Nat} {reason : Option String} :
    Keeps invariant (setAttempt attemptId status startedAt endedAt reason now) := by
  cases attemptId with
  | none => exact keeps_pure ()
  | some attemptId => exact rewriteAttempt_keeps rules attemptId _

end Writes

theorem insertRun_ensures (middle : RunStore → Prop) (row : RunRow)
    (stored : ∀ store runs, before store → store.runs.insert row = some runs →
      middle { store with runs := runs })
    (tasked : ∀ store task tasks, middle store → store.tasks.insert task = some tasks →
      after { store with tasks := tasks }) : Ensures before (insertRun row) (fun _ => after) := by
  have inserted : Ensures before
      (tryChange
        (fun store => (store.runs.insert row).map fun runs => { store with runs := runs })
        (.constraint "agent_runs.run_id") : LedgerTransaction Unit) (fun _ => middle) := by
    apply ensures_tryMap
    intro store runs initially isRuns
    exact stored store runs initially isRuns
  refine ensures_bind inserted fun _ => ensures_inspect_then fun _ _ => ?_
  refine ensures_expect_then fun conversation _ => ensures_demand_then fun _ => ?_
  refine ensures_demand_then fun _ => ensures_tryMap ?_
  intro store tasks holds isTasks
  exact tasked store _ tasks holds isTasks

theorem reread_keeps (found : Store → Option Value) (failure : RunFailure) :
    Keeps property (inspect id >>= fun store => expect (found store) failure) :=
  keeps_inspect fun _ _ => keeps_expect_last _ _

theorem bounded_keeps (value label : String) (max : Nat) (pattern : String → Bool) :
    Keeps property (bounded value label max pattern) :=
  keeps_demand_last _ _

theorem authorize_keeps (workspaceId : String) : Keeps property (authorize options workspaceId) :=
  keeps_bind (bounded_keeps _ _ _ _) fun _ => keeps_demand_last _ _

section Events

variable (rules : EventRules closing invariant) {next : EventRow → LedgerTransaction Value}

include rules

theorem insertSubmission_keeps (row : SubmissionRow) :
    Keeps invariant (insertSubmission row) := by
  apply keeps_tryMap
  intro store submissions kept _
  exact rules.unrelated store _ rfl rfl rfl rfl rfl rfl kept

theorem recordArtifact_keeps (row : ArtifactRow) : Keeps invariant (recordArtifact row) :=
  keeps_change fun store kept => rules.unrelated store _ rfl rfl rfl rfl rfl rfl kept

theorem linkTask_keeps (row : FlowLinkRow) : Keeps invariant (linkTask row) := by
  apply keeps_tryMap
  intro store flowLinks kept _
  exact rules.unrelated store _ rfl rfl rfl rfl rfl rfl kept

omit rules in
theorem appendEvent_keeps_of (input : EventInput) (eventId : String)
    (entered : ∀ row, row.runId = input.runId → row.eventType = input.eventType →
      Keeps invariant (enterEvent row)) :
    Keeps invariant (appendEventWithRepositories input eventId) := by
  refine keeps_bind (bounded_keeps _ _ _ _) fun _ => ?_
  refine keeps_inspect fun store _ => keeps_expect fun run found => ?_
  have own : run.runId = input.runId := store.runs.key_of_find found
  have allocated : Keeps invariant (allocateEvent run input eventId) := by
    refine keeps_demand fun _ => ?_
    rw [own]
    exact keeps_pair (entered (input.toRow 0 eventId) rfl rfl) fun _ _ => keeps_pure _
  split
  next => exact allocated
  next key _ =>
    refine keeps_bind (bounded_keeps _ _ _ _) fun _ => ?_
    split
    next existing _ => exact keeps_demand fun _ => keeps_pure existing
    next => exact allocated

theorem appendEvent_keeps (input : EventInput) (eventId : String)
    (quiet : closing ∨ input.eventType ≠ checkpointType) :
    Keeps invariant (appendEventWithRepositories input eventId) := by
  apply appendEvent_keeps_of
  intro row _ isType
  apply rules.entered
  rw [isType]
  exact quiet

theorem appendEvent_then_keeps (input : EventInput) (eventId : String)
    (quiet : closing ∨ input.eventType ≠ checkpointType)
    (rest : ∀ row, Keeps invariant (next row)) :
    Keeps invariant (appendEventWithRepositories input eventId >>= next) :=
  keeps_bind (appendEvent_keeps rules input eventId quiet) rest

theorem lifecycleEvent_then_keeps {attemptId : Option String} {eventType : String}
    {payload : Payload} {key : Option String} {eventId : String}
    (quiet : eventType ≠ checkpointType) (rest : ∀ row, Keeps invariant (next row)) :
    Keeps invariant
      (appendEventWithRepositories (lifecycleEvent runId attemptId eventType payload key now)
        eventId >>= next) :=
  appendEvent_then_keeps rules _ _ (Or.inr quiet) rest

end Events

section Lifecycle

variable (rules : EntryRules options.completionRule closing executing invariant)

include rules

omit rules in
theorem validateSendInput_keeps (input : SendInput) :
    Keeps invariant (validateSendInput options input) := by
  refine keeps_bind (authorize_keeps _) fun _ => ?_
  refine keeps_bind (bounded_keeps _ _ _ _) fun _ => ?_
  refine keeps_bind (bounded_keeps _ _ _ _) fun _ => ?_
  exact bounded_keeps _ _ _ _

theorem sendWithRepositories_keeps (input : SendInput) {role : MessageRole}
    (inputHash : String) (now : Nat) (createId : Nat → String) (noAnswer : role ≠ .tool) :
    Keeps invariant (sendWithRepositories input role inputHash now createId) := by
  refine keeps_inspect fun store _ => keeps_expect fun conversation _ => ?_
  refine keeps_demand fun _ => ?_
  split
  next existing _ => exact keeps_demand fun _ => keeps_expect_last _ _
  next =>
    refine keeps_bind (rules.spoken _ (Or.inr noAnswer)) fun _ => ?_
    refine keeps_bind (rules.inserted _ rfl rfl) fun _ => ?_
    refine keeps_bind (insertAttempt_keeps rules _) fun _ => ?_
    refine appendEvent_then_keeps rules.events _ _
      (Or.inr (show "run.created" ≠ checkpointType by decide)) fun _ => ?_
    refine keeps_bind (insertSubmission_keeps rules.events _) fun _ => ?_
    exact reread_keeps _ _

theorem send_keeps (input : SendInput) (now : Nat) (createId : Nat → String) :
    Keeps invariant (send options input now createId) :=
  keeps_bind (validateSendInput_keeps input) fun _ =>
    sendWithRepositories_keeps rules input _ now createId MessageRole.noConfusion

theorem prepareExecutionAttempt_keeps (executes : executing) (runId : String) :
    Keeps invariant (prepareExecutionAttempt options runId now createId) := by
  refine keeps_inspect fun store kept => keeps_expect fun run found => ?_
  refine keeps_demand fun preparable => keeps_expect fun _ _ => ?_
  refine keeps_expect fun previousId _ => keeps_expect fun previous _ => ?_
  have unfinished : run.status.terminal = false := by
    rcases preparable with created | waiting
    · rw [created]
      rfl
    · rw [waiting]
      rfl
  refine keeps_ite (fun _ => ?_) fun _ => keeps_demand fun _ => keeps_pure previous
  refine keeps_bind (insertAttempt_keeps rules _) fun _ => ?_
  have own := store.runs.find_self found
  refine keeps_bind (rules.updated store run _ kept own unfinished (Or.inl executes)) fun _ => ?_
  exact lifecycleEvent_then_keeps rules.events (by decide) fun _ =>
    keeps_inspect fun _ _ => keeps_expect_last _ _

omit rules in
theorem transitionEvent_quiet {input : TransitionInput}
    (quiet : input.eventType ≠ some checkpointType) :
    input.eventType.getD (defaultEventType input.status) ≠ checkpointType := by
  cases given : input.eventType with
  | some eventType =>
    intro same
    rw [given] at quiet
    exact quiet (congrArg some same)
  | none => cases input.status <;> decide

theorem transitionRun_keeps (executes : executing) (input : TransitionInput) (now : Nat)
    (createId : Nat → String) (quiet : closing ∨ input.eventType ≠ some checkpointType) :
    Keeps invariant (transitionRun options input now createId) := by
  refine keeps_inspect fun store kept => keeps_expect fun run found => ?_
  refine keeps_demand fun allowed => ?_
  have unfinished : run.status.terminal = false := by
    cases status : run.status <;> simp [status, transitions, RunStatus.terminal] at allowed ⊢
  have own := store.runs.find_self found
  refine keeps_bind (keeps_whenever fun _ => insertAttempt_keeps rules _) fun _ => ?_
  refine keeps_bind (rules.updated store run _ kept own unfinished (Or.inl executes)) fun _ => ?_
  refine keeps_bind (setAttempt_keeps rules _) fun _ => ?_
  refine appendEvent_then_keeps rules.events _ _ ?_ fun _ => reread_keeps _ _
  rcases quiet with all | noCheckpoint
  · exact Or.inl all
  · exact Or.inr (transitionEvent_quiet noCheckpoint)

theorem resumeExecution_keeps (executes : executing) (runId : String) :
    Keeps invariant (resumeExecution options runId now createId) := by
  refine keeps_inspect fun store kept => keeps_expect fun run found => ?_
  refine keeps_demand fun waiting => keeps_expect fun attemptId _ => ?_
  refine keeps_expect fun attempt _ => keeps_demand fun _ => ?_
  have unfinished : run.status.terminal = false := congrArg RunStatus.terminal waiting
  refine keeps_bind (rules.updated store run _ kept found unfinished (Or.inl executes)) fun _ => ?_
  refine keeps_bind (rewriteAttempt_keeps rules _ _) fun _ => ?_
  exact lifecycleEvent_then_keeps rules.events (by decide) fun _ => reread_keeps _ _

theorem cancel_keeps (input : CancelInput) (now : Nat) (createId : Nat → String) :
    Keeps invariant (cancel options input now createId) := by
  refine keeps_bind (authorize_keeps _) fun _ => ?_
  refine keeps_inspect fun store kept => keeps_expect fun conversation _ => ?_
  refine keeps_demand fun _ => keeps_expect fun run found => keeps_demand fun _ => ?_
  refine keeps_ite (fun _ => keeps_pure _) fun live => ?_
  have unfinished : run.status.terminal = false := by simpa using live
  have own := store.runs.find_self found
  refine keeps_bind (rules.updated store run _ kept own unfinished (Or.inr (Or.inr rfl)))
    fun _ => ?_
  refine keeps_bind (setAttempt_keeps rules _) fun _ => ?_
  refine lifecycleEvent_then_keeps rules.events (by decide) fun _ => ?_
  exact keeps_inspect fun _ _ => keeps_expect fun _ _ => keeps_pure _

theorem loseAttempt_keeps (attempt : Option AttemptRow) :
    Keeps invariant (loseAttempt attempt errorCode now) := by
  cases attempt with
  | none => exact keeps_pure ()
  | some attempt =>
    refine keeps_bind (keeps_whenever fun _ => rewriteAttempt_keeps rules _ _) ?_
    exact fun _ => rewriteAttempt_keeps rules _ _

theorem markExecutionLost_keeps (runId : String) :
    Keeps invariant (markExecutionLost options runId errorCode now createId) := by
  refine keeps_bind (bounded_keeps _ _ _ _) fun _ => ?_
  refine keeps_inspect fun store kept => keeps_expect fun run found => ?_
  refine keeps_ite (fun _ => keeps_pure _) fun live => keeps_demand fun _ => ?_
  have unfinished : run.status.terminal = false := by simpa using live
  have own := store.runs.find_self found
  refine keeps_bind (loseAttempt_keeps rules _) fun _ => ?_
  refine keeps_bind (rules.updated store run _ kept own unfinished (Or.inr (Or.inl rfl)))
    fun _ => ?_
  exact lifecycleEvent_then_keeps rules.events (by decide) fun _ => keeps_pure _

theorem interruptExecution_keeps (executes : executing) (runId : String) {reason : String} :
    Keeps invariant (interruptExecution options runId reason now createId) := by
  refine keeps_inspect fun store kept => keeps_expect fun run found => ?_
  refine keeps_ite (fun _ => keeps_pure _) fun notIdle => ?_
  have running : run.status = .running := not_not.mp notIdle
  have unfinished : run.status.terminal = false := congrArg RunStatus.terminal running
  have own := store.runs.find_self found
  refine keeps_bind (setAttempt_keeps rules _) fun _ => ?_
  refine keeps_bind (rules.updated store run _ kept own unfinished (Or.inl executes)) fun _ => ?_
  exact lifecycleEvent_then_keeps rules.events (by decide) fun _ => keeps_pure _

end Lifecycle

def OnLedger (invariant : RunStore → Prop) (tables : RunTables) : Prop :=
  invariant tables.ledger

theorem onLedger_keeps {body : LedgerTransaction Value} (kept : Keeps invariant body) :
    Keeps (OnLedger invariant) (onLedger body) :=
  keeps_focus kept fun _ _ => rfl

theorem onDelegations_keeps {Value : Type} (body : DelegationTransaction Value) :
    Keeps (OnLedger invariant) (onDelegations body) :=
  keeps_focus_other body fun _ _ kept => kept

theorem openEnvelope_keeps (existing : Option EnvelopeRow) (row : EnvelopeRow) :
    Keeps (OnLedger invariant) (openEnvelope existing row) := by
  cases existing with
  | none => exact onDelegations_keeps _
  | some existing => exact keeps_demand_last _ _

theorem normalizeBudget_keeps (input : DelegationBudget) :
    Keeps property (normalizeBudget input) := by
  refine keeps_bind (keeps_demand_last _ _) fun _ => ?_
  refine keeps_bind (keeps_demand_last _ _) fun _ => ?_
  refine keeps_bind (keeps_demand_last _ _) fun _ => ?_
  refine keeps_bind (keeps_demand_last _ _) fun _ => ?_
  refine keeps_bind (keeps_demand_last _ _) fun _ => ?_
  split
  next safe => exact keeps_demand fun _ => keeps_demand fun _ => keeps_pure _
  next => exact keeps_fail _

theorem normalizedSet_keeps (values : List String) (label : String) (pattern : String → Bool) :
    Keeps property (normalizedSet values label pattern) :=
  keeps_demand fun _ => keeps_demand fun _ => keeps_demand fun _ => keeps_pure _

theorem normalizeScope_keeps (scope : DelegationScope) : Keeps property (normalizeScope scope) :=
  keeps_bind (normalizedSet_keeps _ _ _) fun _ =>
    keeps_bind (normalizedSet_keeps _ _ _) fun _ =>
      keeps_bind (normalizedSet_keeps _ _ _) fun _ => keeps_pure _

theorem normalizeRequest_keeps {property : RunTables → Prop}
    (input : CreateDelegatedRunInput) : Keeps property (normalizeRequest options input) := by
  have toolCall : Keeps property (checkToolCallId input.parentToolCallId) := by
    cases input.parentToolCallId with
    | none => exact keeps_pure ()
    | some toolCallId =>
      simp only [checkToolCallId]
      exact bounded_keeps _ _ _ _
  refine keeps_bind (bounded_keeps _ _ _ _) fun _ => ?_
  refine keeps_bind (bounded_keeps _ _ _ _) fun _ => ?_
  refine keeps_bind (bounded_keeps _ _ _ _) fun _ => ?_
  refine keeps_bind toolCall fun _ => ?_
  refine keeps_bind (normalizeBudget_keeps _) fun _ => ?_
  refine keeps_bind (normalizeScope_keeps _) fun _ => ?_
  exact keeps_demand fun _ => keeps_pure _

theorem admitChild_keeps {property : RunTables → Prop} (parent : EnvelopeRow)
    (requested : DelegationBudget) (reserved : ReservationSummary) (now : Nat) :
    Keeps property (admitChild parent requested reserved now) :=
  keeps_demand fun _ => keeps_demand fun _ => keeps_demand fun _ =>
    keeps_demand fun _ => keeps_demand fun _ => keeps_demand_last _ _

theorem createDelegatedRun_ensures {before after : RunTables → Prop}
    {input : CreateDelegatedRunInput} (replayed : ∀ tables, before tables → after tables)
    (created : ∀ tables parent requested scope
      (shallow : parent.depth + 1 ≤ parent.budget.maxDelegationDepth), before tables →
      tables.delegations.envelopes.find parent.runId = some parent →
      scopeWithin scope parent.scope → Ensures (fun current => current = tables)
        (admitChild parent requested.val (reservationSummary tables.delegations parent.runId) now
          >>= fun _ => insertChild options input requested scope (ChildIds.from createId) parent
            now shallow)
        (fun _ => after)) :
    Ensures before (createDelegatedRun options input now createId) (fun _ => after) := by
  refine ensures_bind (normalizeRequest_keeps input) fun normal => ?_
  obtain ⟨requested, scope⟩ := normal
  refine ensures_at fun tables initially => ensures_read ?_
  refine ensures_expect_then fun parentRun _ => ensures_demand_then fun _ => ?_
  refine ensures_demand_then fun _ => ensures_expect_then fun attempt _ => ?_
  refine ensures_demand_then fun _ => ensures_expect_then fun parent found => ?_
  have parentKey : parent.runId = parentRun.runId :=
    tables.delegations.envelopes.key_of_find found
  rw [← parentKey] at found ⊢
  split
  next existing _ =>
    refine ensures_expect_then fun child _ => ensures_demand_then fun _ => ?_
    exact ensures_return _ (replayed tables initially)
  next =>
    refine ensures_demand_then fun within => ?_
    split
    next shallow => exact created tables parent requested scope shallow initially found within
    next => exact ensures_fail _

theorem configureRootBudget_keeps (input : RootBudgetInput) (now : Nat) :
    Keeps (OnLedger invariant) (configureRootBudget options input now) := by
  refine keeps_bind (normalizeBudget_keeps _) fun budget => ?_
  refine keeps_bind (normalizeScope_keeps _) fun scope => ?_
  refine keeps_inspect fun tables _ => keeps_expect fun run _ => ?_
  refine keeps_expect fun conversation _ => keeps_demand fun _ => ?_
  split
  next existing _ => exact keeps_demand fun _ => keeps_pure existing
  next => exact keeps_bind (onDelegations_keeps _) fun _ => keeps_pure _

section Results

variable (rules : EventRules closing invariant)

include rules

omit rules in
theorem appendRunEvent_keeps_of (runId : String) (attemptId : Option String)
    (eventType : String) (payload : Payload) (key : String) (now : Nat) (eventId : String)
    (entered : ∀ row, row.eventType = eventType → Keeps invariant (enterEvent row)) :
    Keeps invariant (appendRunEvent runId attemptId eventType payload key now eventId) := by
  refine keeps_inspect fun store _ => ?_
  split
  next => exact keeps_demand_last _ _
  next =>
    exact entered
      ((lifecycleEvent runId attemptId eventType payload (some key) now).toRow 0 eventId) rfl

theorem appendRunEvent_keeps (runId : String) (attemptId : Option String)
    (eventType : String) (payload : Payload) (key : String) (now : Nat) (eventId : String)
    (quiet : closing ∨ eventType ≠ checkpointType) :
    Keeps invariant (appendRunEvent runId attemptId eventType payload key now eventId) := by
  apply appendRunEvent_keeps_of
  intro row isType
  apply rules.entered
  rw [isType]
  exact quiet

omit rules in
theorem terminalResult_keeps (delegation : DelegationRow) (outcome : DelegationOutcome) :
    Keeps invariant (terminalResult delegation outcome) :=
  keeps_inspect fun _ _ => keeps_expect fun _ _ => keeps_demand fun _ => keeps_pure _

theorem deliverResult_keeps (all : closing) (current : DelegationRow) {delivery : ResultDeliveryRow}
    {outcome : DelegationOutcome} {result : TerminalResult} {parentRun : RunRow} :
    Keeps invariant (deliverResult current delivery outcome result parentRun now createId) := by
  have stored : Keeps invariant (storeResult delivery result parentRun now (createId 0)) := by
    refine keeps_inspect fun store _ => ?_
    split
    next => exact keeps_demand_last _ _
    next => exact rules.spoken _ (Or.inl all)
  refine keeps_bind stored fun _ => ?_
  refine keeps_bind (appendRunEvent_keeps rules _ _ _ _ _ _ _ (Or.inl all)) fun _ => ?_
  refine keeps_bind (appendRunEvent_keeps rules _ _ _ _ _ _ _ (Or.inl all)) fun _ => ?_
  exact appendRunEvent_keeps rules _ _ _ _ _ _ _ (Or.inl all)

theorem completeChild_keeps (all : closing) (childRunId : String) (now : Nat)
    (createId : Nat → String) :
    Keeps (OnLedger invariant) (completeChild options childRunId now createId) := by
  refine keeps_inspect fun tables _ => ?_
  split
  next => exact keeps_pure none
  next current _ =>
    split
    next => exact keeps_pure none
    next childRun _ =>
      refine keeps_ite (fun _ => keeps_bind ?_ fun _ => keeps_pure _) fun _ => keeps_pure none
      refine keeps_bind (onLedger_keeps (terminalResult_keeps _ _)) fun result => ?_
      refine keeps_bind (onDelegations_keeps _) fun _ => ?_
      refine keeps_bind (onDelegations_keeps _) fun updated => ?_
      refine keeps_inspect fun settled _ => ?_
      split
      next => exact keeps_pure _
      next delivery _ =>
        split
        next => exact keeps_demand fun _ => keeps_pure _
        next =>
          refine keeps_expect fun parentRun _ => ?_
          refine keeps_bind (onLedger_keeps (deliverResult_keeps rules all _)) fun _ => ?_
          exact keeps_bind (onDelegations_keeps _) fun _ => keeps_pure _

end Results

section Services

variable (rules : EntryRules options.completionRule closing executing invariant)

include rules

theorem startExecution_keeps (executes : executing) (input : StartInput) :
    Keeps (OnLedger invariant) (startExecution options input now createId) := by
  refine keeps_inspect fun tables kept => keeps_expect fun run found => ?_
  refine keeps_demand fun created => ?_
  have unfinished : run.status.terminal = false := congrArg RunStatus.terminal created
  have own := tables.ledger.runs.find_self found
  refine keeps_bind
    (onLedger_keeps (keeps_whenever fun _ => insertAttempt_keeps rules _)) fun _ => ?_
  refine keeps_expect fun conversation _ => ?_
  refine keeps_bind (openEnvelope_keeps _ _) fun _ => onLedger_keeps ?_
  refine keeps_bind (rewriteAttempt_keeps rules _ _) fun _ => ?_
  refine keeps_bind (rewriteAttempt_keeps rules _ _) fun _ => ?_
  refine keeps_bind (rules.updated tables.ledger run _ kept own unfinished (Or.inl executes))
    fun _ => ?_
  exact lifecycleEvent_then_keeps rules.events (by decide) fun _ => reread_keeps _ _

theorem updateExecutionUsage_keeps (runId : String) (usage : Usage) (reason : Option String)
    (now : Nat) :
    Keeps (OnLedger invariant) (updateExecutionUsage runId usage reason now) := by
  refine keeps_inspect fun tables _ => keeps_expect fun run _ => ?_
  refine keeps_expect fun attemptId _ => ?_
  refine keeps_bind (onLedger_keeps (rewriteAttempt_keeps rules _ _)) fun _ => ?_
  exact onDelegations_keeps _

theorem waitForDelegation_keeps (executes : executing) (runId delegationId toolCallId : String)
    (now : Nat) (createId : Nat → String) :
    Keeps (OnLedger invariant)
      (waitForDelegation options runId delegationId toolCallId now createId) := by
  refine keeps_inspect fun tables kept => keeps_expect fun run found => ?_
  refine keeps_expect fun attemptId _ => keeps_demand fun running => ?_
  have unfinished : run.status.terminal = false := congrArg RunStatus.terminal running
  have own := tables.ledger.runs.find_self found
  refine keeps_expect fun wait _ => keeps_demand fun _ => onLedger_keeps ?_
  refine keeps_bind (rewriteAttempt_keeps rules _ _) fun _ => ?_
  refine keeps_bind (rules.updated tables.ledger run _ kept own unfinished (Or.inl executes))
    fun _ => ?_
  exact lifecycleEvent_then_keeps rules.events (by decide) fun _ => reread_keeps _ _

omit rules in
theorem listed_unfinished {store : RunStore} {run : RunRow}
    (listed : run ∈ listIncompleteRuns store) :
    store.runs.find run.runId = some run ∧ run.status.terminal = false := by
  unfold listIncompleteRuns at listed
  rw [List.mem_insertionSort, List.mem_filter] at listed
  obtain ⟨runIn, incomplete⟩ := listed
  refine ⟨store.runs.find_of_mem runIn, ?_⟩
  rcases of_decide_eq_true incomplete with running | waiting
  · rw [running]
    rfl
  · rw [waiting]
    rfl

theorem recoverIncompleteRuns_keeps (executes : executing) (now : Nat) (createId : Nat → String) :
    Keeps (OnLedger invariant) (recoverIncompleteRuns options now createId) := by
  refine keeps_inspect fun tables kept => keeps_forEach _ _ _ ?_
  intro output run listed
  obtain ⟨own, unfinished⟩ := listed_unfinished listed
  refine keeps_inspect fun _ _ => ?_
  refine keeps_bind (onLedger_keeps ?_) fun _ => keeps_pure _
  refine keeps_bind (keeps_whenever fun _ => setAttempt_keeps rules _) fun _ => ?_
  refine keeps_bind (rules.updated tables.ledger run _ kept own unfinished (Or.inl executes))
    fun _ => ?_
  exact lifecycleEvent_then_keeps rules.events (by decide) fun _ => keeps_pure _

def childCreated (input : CreateDelegatedRunInput) (ids : ChildIds) (now : Nat) : EventRow where
  runId := ids.runId
  sequence := 0
  eventId := ids.eventId
  attemptId := some ids.attemptId
  eventType := "run.created"
  payload := .object
    [("delegatedFromRunId", .text input.parentRunId),
      ("delegationId", .text ids.delegationId),
      ("triggerMessageId", .text ids.messageId)]
  idempotencyKey := some ("delegation:" ++ ids.delegationId)
  emittedAt := now

theorem insertChild_keeps (input : CreateDelegatedRunInput) {requested : NormalBudget}
    {scope : DelegationScope} {ids : ChildIds} {parent : EnvelopeRow}
    {shallow : parent.depth + 1 ≤ parent.budget.maxDelegationDepth} :
    Keeps (OnLedger invariant)
      (insertChild options input requested scope ids parent now shallow) := by
  have runRows : Keeps invariant (insertChildRun options input ids now) := by
    refine keeps_bind (rules.opened _) fun _ => ?_
    refine keeps_bind (rules.spoken _ (Or.inr MessageRole.noConfusion)) fun _ => ?_
    refine keeps_bind (rules.inserted _ rfl rfl) fun _ => ?_
    refine keeps_bind (insertAttempt_keeps rules _) fun _ => ?_
    have created := rules.entered (childCreated input ids now)
      (Or.inr (show "run.created" ≠ checkpointType by decide))
    exact keeps_pair created fun _ _ => insertSubmission_keeps rules.events _
  refine keeps_bind (onLedger_keeps runRows) fun _ => ?_
  refine keeps_bind (onDelegations_keeps _) fun _ => ?_
  refine keeps_bind (onLedger_keeps (rules.classified _ _ _)) fun _ => ?_
  exact keeps_bind (onDelegations_keeps _) fun _ => keeps_pure _

theorem createDelegatedRun_keeps (input : CreateDelegatedRunInput) :
    Keeps (OnLedger invariant) (createDelegatedRun options input now createId) := by
  apply createDelegatedRun_ensures fun _ kept => kept
  intro tables parent requested scope shallow kept _ _
  refine ensures_from (OnLedger invariant) ?_ fun _ isTables => isTables ▸ kept
  exact keeps_bind (admitChild_keeps _ _ _ _) fun _ => insertChild_keeps rules _

omit rules in
theorem markWaiting_keeps (parentRunId delegationId : String)
    (identity : Option ToolWaitIdentity) (now : Nat) :
    Keeps (OnLedger invariant) (markWaiting parentRunId delegationId identity now) := by
  refine keeps_inspect fun tables _ => keeps_expect fun delegation _ => ?_
  refine keeps_demand fun _ => keeps_demand fun _ => keeps_expect fun parentRun _ => ?_
  refine keeps_demand fun _ => keeps_bind ?_ fun _ => onDelegations_keeps _
  cases identity with
  | none => exact keeps_pure ()
  | some identity =>
    refine keeps_bind (bounded_keeps _ _ _ _) fun _ => ?_
    refine keeps_bind (bounded_keeps _ _ _ _) fun _ => ?_
    exact keeps_demand fun _ => keeps_demand_last _ _

theorem terminateAttempt_keeps (attempt : Option AttemptRow) {termination : Termination} :
    Keeps invariant (terminateAttempt attempt termination errorCode now) := by
  cases attempt with
  | none => exact keeps_pure ()
  | some attempt =>
    exact keeps_bind (rewriteAttempt_keeps rules _ _) fun _ =>
      rewriteAttempt_keeps rules _ _

/-- `failChildBeforeStart` keeps the invariant when the update of the child's run
does, whatever is known of the tables it starts from. -/
theorem failChildBeforeStart_ensures {before : RunTables → Prop}
    (known : ∀ tables, before tables → OnLedger invariant tables)
    (delegationId errorCode : String) (now : Nat) (createId : Nat → String)
    (updated : ∀ tables delegation run input, before tables →
      tables.delegations.delegations.find delegationId = some delegation →
      delegation.status.active = true →
      tables.ledger.runs.find delegation.childRunId = some run → input.runId = run.runId →
      input.status = .failed → Keeps invariant (updateRun options.completionRule input)) :
    Ensures before (failChildBeforeStart options delegationId errorCode now createId)
      (fun _ => OnLedger invariant) := by
  have weaken : ∀ {Value : Type} {body : RunTransaction Value},
      Keeps (OnLedger invariant) body → Ensures before body (fun _ => OnLedger invariant) :=
    fun kept => ensures_mono kept known fun _ _ holds => holds
  have wellFormed : Keeps before
      (bounded errorCode "delegation scheduler errorCode" 128 matchesErrorPattern) :=
    bounded_keeps _ _ _ _
  refine ensures_bind wellFormed fun _ => ?_
  refine ensures_inspect_then fun tables initially => weaken ?_
  refine keeps_expect fun delegation found => keeps_ite (fun _ => keeps_pure _) fun live => ?_
  refine keeps_expect fun childRun foundRun => keeps_expect fun attemptId _ => ?_
  have active : delegation.status.active = true := by simpa using live
  have failed : Keeps invariant
      (failUnstartedRun options delegation childRun attemptId errorCode now createId) := by
    refine keeps_bind (rewriteAttempt_keeps rules _ _) fun _ => ?_
    refine keeps_bind (rewriteAttempt_keeps rules _ _) fun _ => ?_
    refine keeps_bind (updated tables delegation childRun _ initially found active foundRun rfl rfl)
      fun _ => ?_
    exact appendRunEvent_keeps rules.events _ _ _ _ _ _ _ (Or.inr (by decide))
  refine keeps_bind (onLedger_keeps failed) fun _ => ?_
  refine keeps_bind (onLedger_keeps (terminalResult_keeps _ _)) fun _ => ?_
  exact onDelegations_keeps _

theorem terminateRun_keeps (childRunId : String) (termination : Termination)
    (errorCode : String) (now : Nat) (createId : Nat → String) :
    Keeps (OnLedger invariant)
      (terminateRun options childRunId termination errorCode now createId) := by
  refine keeps_bind (bounded_keeps _ _ _ _) fun _ => keeps_inspect fun tables kept => ?_
  split
  next => exact keeps_pure false
  next delegation _ =>
    refine keeps_expect fun childRun found => ?_
    refine keeps_ite (fun _ => keeps_pure true) fun live => ?_
    have unfinished : childRun.status.terminal = false := by simpa using live
    have own := tables.ledger.runs.find_self found
    have ended : termination.runStatus = .failed ∨ termination.runStatus = .cancelled := by
      cases termination with
      | cancelled => exact Or.inr rfl
      | timedOut => exact Or.inl rfl
    refine keeps_bind (onLedger_keeps ?_) fun _ => keeps_pure true
    refine keeps_bind (terminateAttempt_keeps rules _) fun _ => ?_
    refine keeps_bind (rules.updated tables.ledger childRun _ kept own unfinished (Or.inr ended)) ?_
    intro _
    apply appendRunEvent_keeps rules.events
    right
    cases termination <;> decide

theorem reportThenTransition_keeps (executes : executing) (usage : Usage) (reason : String)
    (input : TransitionInput) (call : Call)
    (quiet : closing ∨ input.eventType ≠ some checkpointType) (tables : RunTables)
    (kept : OnLedger invariant tables) :
    OnLedger invariant (reportThenTransition options usage reason input call tables) :=
  performThen_keeps (updateExecutionUsage_keeps rules _ _ _ _)
    (fun _ => onLedger_keeps (transitionRun_keeps rules executes _ _ _ quiet)) kept

/-- The operations that only the execution of a run makes, or a start of the host. -/
def Executes : RunOp → Prop
  | .prepareExecutionAttempt _ _ => True
  | .startExecution _ _ => True
  | .transitionRun _ _ => True
  | .waitForApproval _ _ _ _ => True
  | .waitForDelegation _ _ _ _ _ => True
  | .completeExecution _ _ _ _ _ => True
  | .failExecution _ _ _ _ _ => True
  | .resumeExecution _ _ => True
  | .interruptExecution _ _ _ => True
  | .recoverIncompleteRuns _ => True
  | _ => False

instance (op : RunOp) : Decidable (Executes op) := by
  cases op <;> unfold Executes <;> infer_instance

/-- Operations that may answer a tool call or record a checkpoint, and the one that
fails an unscheduled child. -/
def Apart : RunOp → Prop
  | .appendMessage row => row.role = .tool
  | .appendEvent input _ => input.eventType = checkpointType
  | .transitionRun input _ => input.eventType = some checkpointType
  | .completeChild _ _ => True
  | .terminateChild _ _ _ _ => True
  | .failChildBeforeStart _ _ _ => True
  | _ => False

theorem step_keeps_apart (tables : RunTables) (op : RunOp)
    (executes : Executes op → executing)
    (apart : Apart op → OnLedger invariant (step options tables op))
    (kept : OnLedger invariant tables) : OnLedger invariant (step options tables op) := by
  cases op with
  | createConversation row =>
    exact perform_keeps (onLedger_keeps (rules.opened row)) kept
  | appendMessage row =>
    by_cases answers : row.role = .tool
    · exact apart answers
    · exact perform_keeps (onLedger_keeps (rules.spoken row (Or.inr answers))) kept
  | recordArtifact row =>
    exact perform_keeps (onLedger_keeps (recordArtifact_keeps rules.events row)) kept
  | classifyRun runId input call =>
    exact perform_keeps (onLedger_keeps (rules.classified runId input call.now)) kept
  | linkTask row => exact perform_keeps (onLedger_keeps (linkTask_keeps rules.events row)) kept
  | appendEvent input call =>
    by_cases closes : input.eventType = checkpointType
    · exact apart closes
    · exact perform_keeps (onLedger_keeps (appendEvent_keeps rules.events _ _ (Or.inr closes))) kept
  | send input call => exact perform_keeps (onLedger_keeps (send_keeps rules _ _ _)) kept
  | prepareExecutionAttempt runId call =>
    exact perform_keeps
      (onLedger_keeps (prepareExecutionAttempt_keeps rules (executes trivial) _)) kept
  | startExecution input call =>
    exact perform_keeps (startExecution_keeps rules (executes trivial) _) kept
  | updateExecutionUsage runId usage reason call =>
    exact perform_keeps (updateExecutionUsage_keeps rules _ _ _ _) kept
  | transitionRun input call =>
    by_cases closes : input.eventType = some checkpointType
    · exact apart closes
    · exact perform_keeps (onLedger_keeps
        (transitionRun_keeps rules (executes trivial) _ _ _ (Or.inr closes))) kept
  | waitForApproval runId requestId usage call =>
    exact reportThenTransition_keeps rules (executes trivial) _ _ _ _
      (Or.inr (show some "approval.requested" ≠ some checkpointType by decide)) _ kept
  | waitForDelegation runId delegationId toolCallId usage call =>
    exact performThen_keeps (updateExecutionUsage_keeps rules _ _ _ _)
      (fun _ => waitForDelegation_keeps rules (executes trivial) _ _ _ _ _) kept
  | completeExecution runId usage reason completionText call =>
    exact reportThenTransition_keeps rules (executes trivial) _ _ _ _
      (Or.inr (show some "run.completed" ≠ some checkpointType by decide)) _ kept
  | failExecution runId usage errorCode message call =>
    exact reportThenTransition_keeps rules (executes trivial) _ _ _ _
      (Or.inr (show some "run.failed" ≠ some checkpointType by decide)) _ kept
  | resumeExecution runId call =>
    exact perform_keeps (onLedger_keeps (resumeExecution_keeps rules (executes trivial) _)) kept
  | cancel input call => exact perform_keeps (onLedger_keeps (cancel_keeps rules _ _ _)) kept
  | markExecutionLost runId errorCode call =>
    exact perform_keeps (onLedger_keeps (markExecutionLost_keeps rules _)) kept
  | interruptExecution runId reason call =>
    exact perform_keeps (onLedger_keeps (interruptExecution_keeps rules (executes trivial) _)) kept
  | recoverIncompleteRuns call =>
    exact perform_keeps (recoverIncompleteRuns_keeps rules (executes trivial) _ _) kept
  | configureRootBudget input call => exact perform_keeps (configureRootBudget_keeps _ _) kept
  | createDelegatedRun input call =>
    exact perform_keeps (createDelegatedRun_keeps rules _) kept
  | markWaiting parentRunId delegationId identity call =>
    exact perform_keeps (markWaiting_keeps _ _ _ _) kept
  | clearWait parentRunId delegationId => exact perform_keeps (onDelegations_keeps _) kept
  | transitionDelegation delegationId status resultSummary call =>
    exact perform_keeps (onDelegations_keeps _) kept
  | completeChild childRunId call =>
    exact apart trivial
  | failChildBeforeStart delegationId errorCode call =>
    exact apart trivial
  | terminateChild childRunId termination errorCode call =>
    exact apart trivial

end Services

/-- An invariant that withstands answers and checkpoints too is kept by every operation,
with the one that fails an unscheduled child left to its caller. -/
theorem step_keeps_entries (entries : EntryRules options.completionRule True executing invariant)
    (tables : RunTables) (op : RunOp) (executes : Executes op → executing)
    (unscheduled : ∀ delegationId errorCode call,
      op = .failChildBeforeStart delegationId errorCode call →
        OnLedger invariant (step options tables op))
    (kept : OnLedger invariant tables) : OnLedger invariant (step options tables op) := by
  refine step_keeps_apart entries tables op executes (fun apart => ?_) kept
  cases op with
  | appendMessage row =>
    exact perform_keeps (onLedger_keeps (entries.spoken row (Or.inl trivial))) kept
  | appendEvent input call =>
    exact perform_keeps
      (onLedger_keeps (appendEvent_keeps entries.events _ _ (Or.inl trivial))) kept
  | transitionRun input call =>
    exact perform_keeps
      (onLedger_keeps (transitionRun_keeps entries (executes trivial) _ _ _ (Or.inl trivial))) kept
  | completeChild childRunId call =>
    exact perform_keeps (completeChild_keeps entries.events trivial _ _ _) kept
  | failChildBeforeStart delegationId errorCode call =>
    exact unscheduled delegationId errorCode call rfl
  | terminateChild childRunId termination errorCode call =>
    exact performThen_keeps (terminateRun_keeps entries _ _ _ _ _)
      (fun _ => keeps_ite (fun _ => completeChild_keeps entries.events trivial _ _ _)
        fun _ => keeps_pure none) kept
  | _ => exact apart.elim

/-- An invariant of runs and tasks is kept by every operation, with the one that
fails an unscheduled child left to its caller. -/
theorem step_keeps (rules : WriteRules options.completionRule invariant) (tables : RunTables)
    (op : RunOp)
    (unscheduled : ∀ delegationId errorCode call,
      op = .failChildBeforeStart delegationId errorCode call →
        OnLedger invariant (step options tables op))
    (kept : OnLedger invariant tables) : OnLedger invariant (step options tables op) :=
  step_keeps_entries (entryRules_of_writeRules rules) tables op (fun _ => trivial) unscheduled kept

end OpenRill.Runs.LedgerRules
