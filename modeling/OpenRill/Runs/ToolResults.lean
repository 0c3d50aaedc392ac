import OpenRill.Runs.AtomicTransitions
import OpenRill.Runs.LedgerAppends

/-!
# The tool results of a conversation

A run that ended stays so, and a tool call that the conversation of its run has a result of
keeps it, under every operation of the ledger. The answer to an approval is stored when
nothing in the way of it is stored already.
-/

namespace OpenRill.Runs.ToolResults

open Lib Lib.Text Lib.Transaction Ledger Delegations Lifecycle DelegationService Operations
open LedgerRules LedgerAppends AtomicTransitions Sequences TerminalRuns

variable {runId toolCallId : String}

def runEnded (store : RunStore) (runId : String) : Bool :=
  (store.runs.find runId).any (fun run => run.status.terminal)

def hasResult (conversationId toolCallId : String) (messages : List MessageRow) : Bool :=
  (findToolResult (messages.filter (fun row => decide (row.conversationId = conversationId)))
    toolCallId).isSome

def heard (store : RunStore) (runId toolCallId : String) : Bool :=
  (store.runs.find runId).any (fun run => hasResult run.conversationId toolCallId store.messages)

variable {rule : CompletionRule} {property : RunRow → Prop}

def RunHas (runId : String) (property : RunRow → Prop) (store : RunStore) : Prop :=
  ∃ run, store.runs.find runId = some run ∧ property run

theorem runEnded_iff (store : RunStore) (runId : String) :
    runEnded store runId = true ↔ RunHas runId (fun run => run.status.terminal = true) store := by
  unfold runEnded RunHas
  rw [Option.any_eq_true]

theorem heard_iff (store : RunStore) (runId toolCallId : String) :
    heard store runId toolCallId = true ↔ ∃ conversationId,
      RunHas runId (fun run => run.conversationId = conversationId) store ∧
        hasResult conversationId toolCallId store.messages = true := by
  unfold heard RunHas
  rw [Option.any_eq_true]
  constructor
  · intro stored
    obtain ⟨run, found, isStored⟩ := stored
    exact ⟨run.conversationId, ⟨run, found, rfl⟩, isStored⟩
  · intro stored
    obtain ⟨conversationId, ⟨run, found, isConversation⟩, isStored⟩ := stored
    rw [← isConversation] at isStored
    exact ⟨run, found, isStored⟩

theorem updateRun_keeps_runHas (input : RunUpdate)
    (kept : ∀ run, input.runId = runId → property run → property (run.updatedBy input)) :
    Keeps (RunHas runId property) (updateRun rule input) := by
  apply keeps_of_known (updateRun_updates rule input)
  intro store _ reached has updated
  obtain ⟨run, found, holds⟩ := has
  by_cases own : runId = input.runId
  · obtain ⟨row, foundRow, written⟩ := updated.ownRun
    rw [← own] at foundRow written
    have isRow : row = run := Option.some.inj (foundRow.symm.trans found)
    rw [isRow] at written
    exact ⟨run.updatedBy input, written, kept run own.symm holds⟩
  · refine ⟨run, ?_, holds⟩
    rw [updated.otherRuns runId own]
    exact found

theorem nextEventSequence_keeps_runHas
    (stamped : ∀ run sequence now, property run → property (run.withEventSequence sequence now))
    (counted : String) (now : Nat) :
    Keeps (RunHas runId property) (nextEventSequence counted now) := by
  apply nextEventSequence_ensures
  rintro store row ⟨run, found, holds⟩ _ own
  have written := store.runs.find_update
    (row.withEventSequence (row.lastEventSequence + 1) now) own runId
  by_cases same : row.runId = runId
  · have isRow : row = run := by
      rw [same, found] at own
      exact (Option.some.inj own).symm
    refine ⟨_, written.trans (if_pos same), ?_⟩
    rw [isRow]
    exact stamped run _ now holds
  · exact ⟨run, written.trans ((if_neg same).trans found), holds⟩

theorem runHas_rules
    (stamped : ∀ run sequence now, property run → property (run.withEventSequence sequence now))
    (stays : (∀ run input, property run → property (run.updatedBy input)) ∨
      ∀ run, property run → run.status.terminal = true) :
    WriteRules rule (RunHas runId property) where
  unrelated store changed runs _ has := by
    unfold RunHas
    rw [runs]
    exact has
  stamped := nextEventSequence_keeps_runHas stamped
  inserted row _ := by
    apply keeps_of_known (insertRun_inserts row)
    intro store _ reached has inserts
    obtain ⟨run, found, holds⟩ := has
    obtain ⟨runs, fresh, -⟩ := inserts
    have different : row.runId ≠ runId := by
      intro same
      rw [same, found] at fresh
      cases fresh
    exact ⟨run, (runs runId).trans ((if_neg different).trans found), holds⟩
  classified classified input now := by
    apply keeps_of_known (classifyRun_keeps_status classified input now)
    intro store _ reached has kept
    unfold RunHas
    rw [kept.1]
    exact has
  updated store row input kept found live := by
    apply updateRun_keeps_runHas
    intro run own holds
    rcases stays with always | ended
    · exact always run input holds
    · obtain ⟨stored, foundStored, storedHolds⟩ := kept
      rw [own, foundStored] at found
      have isRow : stored = row := Option.some.inj found
      rw [← isRow, ended stored storedHolds] at live
      cases live

theorem runEnded_rules (runId : String) :
    EntryRules rule True True (RunHas runId (fun run => run.status.terminal = true)) :=
  entryRules_of_writeRules (runHas_rules (fun _ _ _ ended => ended) (Or.inr fun _ ended => ended))

theorem conversation_rules (runId conversationId : String) :
    EntryRules rule True True (RunHas runId (fun run => run.conversationId = conversationId)) :=
  entryRules_of_writeRules (runHas_rules (fun _ _ _ same => same) (Or.inl fun _ _ same => same))

theorem updateRun_keeps_messages (property : List MessageRow → Prop) (input : RunUpdate) :
    Keeps (fun store => property store.messages) (updateRun rule input) := by
  exact updateRun_ensures (fun _ _ holds _ _ => holds) fun _ _ holds => holds

theorem messages_rules (property : List MessageRow → Prop)
    (grows : ∀ messages row, property messages → property (messages ++ [row])) :
    EntryRules rule True True (fun store => property store.messages) where
  unrelated store changed _ _ _ messages _ holds := by
    rw [messages]
    exact holds
  opened := createConversation_keeps_of fun _ _ holds => holds
  spoken input _ := by
    apply keeps_of_known (insertMessage_stores input)
    intro store _ reached holds stored
    obtain ⟨row, -, isReached⟩ := stored
    rw [isReached]
    exact grows store.messages _ holds
  entered row _ := by
    apply keeps_of_known (enterEvent_stores row)
    intro store _ reached holds stored
    obtain ⟨run, -, -, isReached⟩ := stored
    rw [isReached]
    exact holds
  inserted row _ _ :=
    insertRun_ensures (fun store => property store.messages) row (fun _ _ holds _ => holds)
      fun _ _ _ holds _ => holds
  classified _ _ _ := classifyRun_tasks fun _ _ holds => holds
  updated _ _ input _ _ _ _ := updateRun_keeps_messages property input

theorem hasResult_rules (conversationId toolCallId : String) :
    EntryRules rule True True
      (fun store => hasResult conversationId toolCallId store.messages = true) := by
  apply messages_rules fun messages => hasResult conversationId toolCallId messages = true
  intro messages row isStored
  unfold hasResult findToolResult at isStored ⊢
  rw [List.filter_append, List.find?_append, Option.isSome_or, isStored]
  rfl

variable {options : RunOptions}

/-- What a transaction of the ledger leaves of the runs and their tool results. -/
structure LedgerKept (before after : RunTables) : Prop where
  ended : ∀ runId, runEnded before.ledger runId = true → runEnded after.ledger runId = true
  heard : ∀ runId toolCallId, heard before.ledger runId toolCallId = true →
    heard after.ledger runId toolCallId = true

theorem ledgerKept_of_rules {before after : RunTables}
    (keeps : ∀ invariant, EntryRules options.completionRule True True invariant →
      (∀ input, input.status = .failed → Keeps invariant (updateRun options.completionRule input)) →
        OnLedger invariant before → OnLedger invariant after) : LedgerKept before after where
  ended runId := by
    rw [runEnded_iff, runEnded_iff]
    apply keeps _ (runEnded_rules runId)
    intro input isFailed
    apply updateRun_keeps_runHas
    intro run _ _
    change input.status.terminal = true
    rw [isFailed]
    rfl
  heard runId toolCallId := by
    rw [heard_iff, heard_iff]
    intro stored
    obtain ⟨conversationId, has, isStored⟩ := stored
    refine ⟨conversationId, ?_, ?_⟩
    · apply keeps _ (conversation_rules runId conversationId) _ has
      intro input _
      apply updateRun_keeps_runHas
      intro run _ same
      exact same
    · apply keeps _ (hasResult_rules conversationId toolCallId) _ isStored
      intro input _
      exact updateRun_keeps_messages
        (fun messages => hasResult conversationId toolCallId messages = true) input

theorem step_ledgerKept (tables : RunTables) (op : LedgerOp) :
    LedgerKept tables (LedgerAppends.step options tables op) := by
  apply ledgerKept_of_rules
  intro invariant rules failing kept
  exact ledger_keeps rules failing tables op kept

theorem ledgerKept_of_keeps {Value : Type} {body : RunTransaction Value} {value : Value}
    {before after : RunTables}
    (keeps : ∀ invariant, EntryRules options.completionRule True True invariant →
      Keeps (OnLedger invariant) body)
    (done : body.run before = .ok (value, after)) : LedgerKept before after := by
  refine @ledgerKept_of_rules options before after ?_
  intro invariant rules _ kept
  exact keeps invariant rules before value after kept done

variable {store : RunStore} {run : RunRow}

def keyFree (store : RunStore) (runId key : String) : Bool :=
  decide (passes key 128 matchesKeyPattern) && (getEventByIdempotency store runId key).isNone

/-- Nothing stored is in the way of the answer: a result of its tool call that differs, or
one of the two keys of its events. -/
def enterable (store : RunStore) (input : ApprovalAnswer) (messageId : String) : Bool :=
  (store.runs.find input.runId).any (fun run =>
    run.currentAttemptId.isSome &&
      match findToolResult (listMessages store run.conversationId) input.toolCallId with
      | some existing => decide (existing.content = input.content)
      | none =>
        (store.conversations.find run.conversationId).isSome &&
          store.messages.all (fun other => decide (other.messageId ≠ messageId)) &&
          keyFree store run.runId ("approval-result:" ++ input.requestId) &&
          keyFree store run.runId ("tool-complete:" ++ input.toolCallId))

theorem answer_keys_differ {requestId : String} :
    "approval-result:" ++ requestId ≠ "tool-complete:" ++ toolCallId := by
  intro same
  have heads := congrArg (fun text => text.toList.head?) same
  simp at heads

theorem keyFree_iff (store : RunStore) (runId key : String) :
    keyFree store runId key = true ↔
      passes key 128 matchesKeyPattern ∧ getEventByIdempotency store runId key = none := by
  unfold keyFree
  simp

theorem free_after_event {row : EventRow} {key other : String}
    (free : getEventByIdempotency store runId key = none) (keyed : row.idempotencyKey = some other)
    (different : other ≠ key) :
    getEventByIdempotency (withEvent store run row) runId key = none := by
  unfold getEventByIdempotency withEvent at *
  rw [List.find?_append, free]
  simp [keyed, different]

def withMessage (store : RunStore) (conversations : Table ConversationRow.conversationId)
    (row : MessageRow) : RunStore :=
  { store with conversations := conversations, messages := store.messages ++ [row] }

theorem insertMessage_enters (input : MessageInput) {conversation : ConversationRow}
    (found : store.conversations.find input.conversationId = some conversation)
    (fresh : ∀ other ∈ store.messages, other.messageId ≠ input.messageId) :
    Completes store (insertMessage input) (fun _ reached => ∃ conversations sequence,
      reached = withMessage store conversations (input.toRow sequence)) := by
  have counted : Completes store (nextMessageSequence input.conversationId)
      (fun _ reached => ∃ conversations, reached =
        { store with conversations := conversations }) := by
    apply completes_inspect
    apply completes_expect found
    apply completes_write
    exact completes_return _ ⟨_, rfl⟩
  apply completes_called counted
  intro sequence middle isMiddle
  obtain ⟨conversations, isMiddle⟩ := isMiddle
  rw [isMiddle]
  apply completes_read
  apply completes_demand fresh
  exact completes_change _ ⟨conversations, sequence, rfl⟩

theorem hasResult_said (store : RunStore) (conversations : Table ConversationRow.conversationId)
    (input : MessageInput) (sequence : Nat) {name : String} {output : ToolOutput} {isError : Bool}
    (isTool : input.role = .tool)
    (isResult : input.content = .toolResult toolCallId name output isError) :
    hasResult input.conversationId toolCallId
      (withMessage store conversations (input.toRow sequence)).messages = true := by
  unfold hasResult findToolResult withMessage MessageInput.toRow
  simp [isTool, isResult]

theorem heard_of_row {row : RunRow} (found : store.runs.find run.runId = some row)
    (same : row.conversationId = run.conversationId)
    (stored : hasResult run.conversationId toolCallId store.messages = true) :
    heard store run.runId toolCallId = true := by
  unfold heard
  rw [found]
  change hasResult row.conversationId toolCallId store.messages = true
  rw [same]
  exact stored

theorem resolvedType_passes : passes "approval.resolved" 128 matchesEventPattern := by
  decide

theorem completedType_passes : passes "tool.completed" 128 matchesEventPattern := by
  decide

def answerMessage (run : RunRow) (input : ApprovalAnswer) (now : Nat) (messageId : String) :
    MessageInput where
  messageId := messageId
  conversationId := run.conversationId
  role := .tool
  content := input.content
  createdAt := now

def resolvedEvent (run : RunRow) (attemptId : String) (input : ApprovalAnswer) (now : Nat) :
    EventInput :=
  lifecycleEvent run.runId (some attemptId) "approval.resolved"
    (.object
      [("isError", .flag input.isError), ("name", .text input.name),
        ("requestId", .text input.requestId), ("toolCallId", .text input.toolCallId)])
    (some ("approval-result:" ++ input.requestId)) now

def completedEvent (run : RunRow) (attemptId : String) (input : ApprovalAnswer) (now : Nat) :
    EventInput :=
  lifecycleEvent run.runId (some attemptId) "tool.completed"
    (.object
      [("isError", .flag input.isError), ("name", .text input.name),
        ("resumedFromApproval", .flag true), ("toolCallId", .text input.toolCallId)])
    (some ("tool-complete:" ++ input.toolCallId)) now

theorem append_enters {input : ApprovalAnswer} {now : Nat} {createId : Nat → String}
    (free : enterable store input (createId 0) = true) (live : runEnded store input.runId = false) :
    Completes store (appendApprovalToolResult input now createId)
      (fun _ reached => heard reached input.runId input.toolCallId = true) := by
  obtain ⟨run, found, answerable⟩ := (Option.any_eq_true _ _).mp free
  have isRun : run.runId = input.runId := store.runs.key_of_find found
  have own : store.runs.find run.runId = some run := by
    rw [isRun]
    exact found
  have unfinished : run.status.terminal = false := by
    unfold runEnded at live
    rw [found] at live
    exact live
  rw [Bool.and_eq_true] at answerable
  obtain ⟨attempted, answerable⟩ := answerable
  obtain ⟨attemptId, isAttempt⟩ := Option.isSome_iff_exists.mp attempted
  apply completes_read
  apply completes_expect found
  apply completes_demand unfinished
  apply completes_expect isAttempt
  cases isStored : findToolResult (listMessages store run.conversationId) input.toolCallId with
  | some existing =>
    rw [isStored] at answerable
    have same : existing.content = input.content := of_decide_eq_true answerable
    refine ⟨(), store, ?_, ?_⟩
    · dsimp only
      unfold demand
      rw [if_pos same]
      rfl
    · rw [← isRun]
      apply heard_of_row own rfl
      have present := congrArg Option.isSome isStored
      exact present
  | none =>
    rw [isStored] at answerable
    simp only [Bool.and_eq_true, keyFree_iff, List.all_eq_true, decide_eq_true_eq] at answerable
    obtain ⟨⟨⟨known, fresh⟩, ⟨firstPasses, firstFree⟩⟩, ⟨secondPasses, secondFree⟩⟩ := answerable
    obtain ⟨conversation, isConversation⟩ := Option.isSome_iff_exists.mp known
    refine completes_called (insertMessage_enters (answerMessage run input now (createId 0))
      isConversation fresh) ?_
    intro _ spoken isSpoken
    obtain ⟨conversations, sequence, isSpoken⟩ := isSpoken
    have spokenRun : spoken.runs.find run.runId = some run := by
      rw [isSpoken]
      exact own
    have said : hasResult run.conversationId input.toolCallId spoken.messages = true := by
      rw [isSpoken]
      exact hasResult_said store conversations (answerMessage run input now (createId 0))
        sequence rfl rfl
    have firstUnused : getEventByIdempotency spoken run.runId
        ("approval-result:" ++ input.requestId) = none := by
      rw [isSpoken]
      exact firstFree
    have secondUnused : getEventByIdempotency spoken run.runId
        ("tool-complete:" ++ input.toolCallId) = none := by
      rw [isSpoken]
      exact secondFree
    refine completes_called (appendEvent_enters (resolvedEvent run attemptId input now) _
      spokenRun (fun _ absent => by cases absent) resolvedType_passes rfl
      (nonempty_of_passes firstPasses) firstPasses firstUnused) ?_
    intro _ resolved isResolved
    obtain ⟨resolvedSequence, isResolved⟩ := isResolved
    let stamped := run.withEventSequence resolvedSequence now
    have resolvedRun : resolved.runs.find stamped.runId = some stamped := by
      rw [isResolved]
      exact withEvent_run spokenRun _
    have stillFree : getEventByIdempotency resolved run.runId
        ("tool-complete:" ++ input.toolCallId) = none := by
      rw [isResolved]
      exact free_after_event secondUnused rfl answer_keys_differ
    refine completes_called (appendEvent_enters (completedEvent run attemptId input now) _
      resolvedRun (fun _ absent => by cases absent) completedType_passes rfl
      (nonempty_of_passes secondPasses) secondPasses stillFree) ?_
    intro _ completed isCompleted
    obtain ⟨completedSequence, isCompleted⟩ := isCompleted
    have completedRun : completed.runs.find run.runId =
        some (stamped.withEventSequence completedSequence now) := by
      rw [isCompleted]
      exact withEvent_run resolvedRun _
    apply completes_return
    rw [← isRun]
    apply heard_of_row completedRun rfl
    rw [isCompleted, isResolved]
    exact said

end OpenRill.Runs.ToolResults
