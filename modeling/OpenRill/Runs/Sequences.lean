import OpenRill.Lib.NumberedLog
import OpenRill.Runs.LedgerAppends

/-!
# Sequence numbers and idempotency keys of the ledger

Messages are numbered within their conversation and events within their run, and an
event is stored at most once under a key. Every writer allocates a number and inserts
under it in one transaction, so no operation leaves a gap. An append that repeats a
stored event is answered with that event when its key passes the check of keys and
its payload has the text of the document that is stored of it; an undefined member
has no place in a document but has one in the text, and an empty key is looked up as
no key but stored as one.
-/

namespace OpenRill.Runs.Sequences

open Lib Lib.NumberedLog Lib.Text Lib.Transaction Ledger Delegations Lifecycle DelegationService
open Operations LedgerRules LedgerAppends

variable {store changed : RunStore} {run : RunRow} {runId : String} {row : ConversationRow}

def messageCounter (store : RunStore) (conversationId : String) : Nat :=
  ((store.conversations.find conversationId).map ConversationRow.lastMessageSequence).getD 0

def eventCounter (store : RunStore) (runId : String) : Nat :=
  ((store.runs.find runId).map RunRow.lastEventSequence).getD 0

def distinctKeys (first second : EventRow) : Prop :=
  first.runId = second.runId → ∀ key, first.idempotencyKey = some key →
    second.idempotencyKey ≠ some key

structure Numbered (store : RunStore) : Prop where
  messages : GapFree MessageRow.conversationId MessageRow.sequence (messageCounter store)
    store.messages
  events : GapFree EventRow.runId EventRow.sequence (eventCounter store) store.events
  keys : store.events.Pairwise distinctKeys

theorem numbered_empty : Numbered RunStore.empty where
  messages := gapFree_nil (fun _ => rfl)
  events := gapFree_nil (fun _ => rfl)
  keys := List.Pairwise.nil

theorem numbered_of_counters (numbered : Numbered store)
    (sameMessages : changed.messages = store.messages) (sameEvents : changed.events = store.events)
    (spoken : ∀ conversationId,
      messageCounter changed conversationId = messageCounter store conversationId)
    (happened : ∀ runId, eventCounter changed runId = eventCounter store runId) :
    Numbered changed where
  messages := by
    rw [sameMessages]
    exact gapFree_of_counter spoken numbered.messages
  events := by
    rw [sameEvents]
    exact gapFree_of_counter happened numbered.events
  keys := by
    rw [sameEvents]
    exact numbered.keys

theorem messageCounter_of_same (same : changed.conversations = store.conversations)
    (conversationId : String) :
    messageCounter changed conversationId = messageCounter store conversationId := by
  unfold messageCounter
  rw [same]

theorem eventCounter_of_same (same : changed.runs = store.runs) (runId : String) :
    eventCounter changed runId = eventCounter store runId := by
  unfold eventCounter
  rw [same]

theorem createConversation_numbered (input : ConversationInput) :
    Keeps Numbered (createConversation input) := by
  apply keeps_tryMap
  intro store conversations numbered inserted
  refine numbered_of_counters numbered rfl rfl ?_ fun _ => rfl
  intro conversationId
  have fresh := ((store.conversations.insert_some_iff _ _).mp inserted).1
  unfold messageCounter
  rw [store.conversations.find_insert _ _ conversationId inserted]
  by_cases own : input.conversationId = conversationId
  · have unknown : store.conversations.find conversationId = none := by
      rw [store.conversations.find_none_iff, ← own]
      exact fresh
    rw [if_pos own, unknown]
    rfl
  · rw [if_neg own]

theorem nextMessageSequence_counts (conversationId : String) (store : RunStore) :
    Ensures (fun known => known = store) (nextMessageSequence conversationId)
      (fun sequence reached => ∃ row, store.conversations.find conversationId = some row ∧
        sequence = row.lastMessageSequence + 1 ∧
        reached =
          { store with
            conversations := store.conversations.update (row.withMessageSequence sequence) }) := by
  apply ensures_inspect_then
  intro known isStore
  apply ensures_expect_then
  intro row found
  rw [isStore] at found
  apply ensures_write
  exact ensures_return _ ⟨row, found, rfl, rfl⟩

theorem insertMessage_stores (input : MessageInput) (store : RunStore) :
    Ensures (fun known => known = store) (insertMessage input)
      (fun _ reached => ∃ row, store.conversations.find input.conversationId = some row ∧
        reached =
          { store with
            conversations := store.conversations.update
              (row.withMessageSequence (row.lastMessageSequence + 1))
            messages := store.messages ++ [input.toRow (row.lastMessageSequence + 1)] }) := by
  refine ensures_bind (nextMessageSequence_counts input.conversationId store) fun sequence => ?_
  apply ensures_inspect_then
  intro _ _
  apply ensures_demand_then
  intro _
  apply ensures_change
  intro counted counts
  obtain ⟨row, found, isNext, isCounted⟩ := counts
  refine ⟨row, found, ?_⟩
  rw [isCounted, isNext]

theorem messageCounter_update (found : store.conversations.find row.conversationId = some row)
    (sequence : Nat) (messages : List MessageRow) (conversationId : String) :
    messageCounter
        { store with
          conversations := store.conversations.update (row.withMessageSequence sequence)
          messages := messages } conversationId =
      if row.conversationId = conversationId then sequence
      else messageCounter store conversationId := by
  have lookup : (store.conversations.update (row.withMessageSequence sequence)).find
      conversationId = if row.conversationId = conversationId then
        some (row.withMessageSequence sequence) else store.conversations.find conversationId :=
    store.conversations.find_update (row.withMessageSequence sequence) found conversationId
  unfold messageCounter
  rw [lookup]
  by_cases own : row.conversationId = conversationId
  · rw [if_pos own, if_pos own]
    rfl
  · rw [if_neg own, if_neg own]

theorem messageCounter_found {conversationId : String}
    (found : store.conversations.find conversationId = some row) :
    messageCounter store conversationId = row.lastMessageSequence := by
  unfold messageCounter
  rw [found]
  rfl

theorem insertMessage_numbered (input : MessageInput) :
    Keeps Numbered (insertMessage input) := by
  apply keeps_of_known (insertMessage_stores input)
  intro store _ reached numbered stored
  obtain ⟨row, found, written⟩ := stored
  have key : row.conversationId = input.conversationId := store.conversations.key_of_find found
  have own : store.conversations.find row.conversationId = some row := by
    rw [key]
    exact found
  have moved := messageCounter_update own (row.lastMessageSequence + 1)
    (store.messages ++ [input.toRow (row.lastMessageSequence + 1)])
  rw [written]
  refine
    { messages := gapFree_append ?_ ?_ ?_ numbered.messages
      events := numbered.events
      keys := numbered.keys }
  · exact congrArg (· + 1) (messageCounter_found found).symm
  · rw [moved]
    have here : row.conversationId =
        (input.toRow (row.lastMessageSequence + 1)).conversationId := key
    rw [if_pos here]
    exact congrArg (· + 1) (messageCounter_found found).symm
  · intro wanted other
    rw [moved]
    exact if_neg fun same => other (same.symm.trans key)

theorem nextEventSequence_counts (runId : String) (now : Nat) (store : RunStore) :
    Ensures (fun known => known = store) (nextEventSequence runId now)
      (fun sequence reached => ∃ row, store.runs.find runId = some row ∧
        sequence = row.lastEventSequence + 1 ∧
        reached = { store with runs := store.runs.update (row.withEventSequence sequence now) }) := by
  apply nextEventSequence_ensures
  rintro _ row rfl key found
  rw [key] at found
  exact ⟨row, found, rfl, rfl⟩

def freeKey (store : RunStore) (row : EventRow) : Prop :=
  ∀ key, row.idempotencyKey = some key → getEventByIdempotency store row.runId key = none

theorem enterEvent_stores (row : EventRow) (store : RunStore) :
    Ensures (fun known => known = store) (enterEvent row)
      (fun _ reached => ∃ run, store.runs.find row.runId = some run ∧ freeKey store row ∧
        reached =
          { store with
            runs := store.runs.update
              (run.withEventSequence (run.lastEventSequence + 1) row.emittedAt)
            events := store.events ++ [{ row with sequence := run.lastEventSequence + 1 }] }) := by
  refine ensures_bind (nextEventSequence_counts row.runId row.emittedAt store) fun sequence => ?_
  apply ensures_inspect_then
  intro counted counts
  obtain ⟨run, found, isNext, isCounted⟩ := counts
  apply ensures_demand_then
  intro free
  apply ensures_change
  intro state counts
  obtain ⟨again, foundAgain, isNextAgain, isState⟩ := counts
  have sameRun : again = run := Option.some.inj (foundAgain.symm.trans found)
  refine ⟨run, found, ?_, ?_⟩
  · intro key isKey
    have unused := free key isKey
    rw [isCounted] at unused
    exact unused
  · rw [isState, sameRun, isNext]

theorem eventCounter_found (found : store.runs.find runId = some run) :
    eventCounter store runId = run.lastEventSequence := by
  unfold eventCounter
  rw [found]
  rfl

theorem eventCounter_update {old : RunRow} (found : store.runs.find run.runId = some old)
    (events : List EventRow) (runId : String) :
    eventCounter { store with runs := store.runs.update run, events := events } runId =
      if run.runId = runId then run.lastEventSequence else eventCounter store runId := by
  unfold eventCounter
  rw [store.runs.find_update run found runId]
  by_cases own : run.runId = runId
  · rw [if_pos own, if_pos own]
    rfl
  · rw [if_neg own, if_neg own]

theorem distinctKeys_append {row : EventRow} (free : freeKey store row)
    (keys : store.events.Pairwise distinctKeys) {sequence : Nat} :
    (store.events ++ [{ row with sequence := sequence }]).Pairwise distinctKeys := by
  rw [List.pairwise_append]
  refine ⟨keys, List.pairwise_singleton _ _, ?_⟩
  intro first firstIn second secondIn sameRun key isKey same
  rw [List.mem_singleton.mp secondIn] at sameRun same
  have unused := List.find?_eq_none.mp (free key same) first firstIn
  exact unused (decide_eq_true ⟨sameRun, isKey⟩)

theorem enterEvent_numbered (row : EventRow) : Keeps Numbered (enterEvent row) := by
  apply keeps_of_known (enterEvent_stores row)
  intro store _ reached numbered stored
  obtain ⟨run, found, free, written⟩ := stored
  have key : run.runId = row.runId := store.runs.key_of_find found
  have own : store.runs.find
      (run.withEventSequence (run.lastEventSequence + 1) row.emittedAt).runId = some run :=
    store.runs.find_self found
  have moved := eventCounter_update own
    (store.events ++ [{ row with sequence := run.lastEventSequence + 1 }])
  rw [written]
  refine
    { messages := numbered.messages
      events := gapFree_append ?_ ?_ ?_ numbered.events
      keys := distinctKeys_append free numbered.keys }
  · exact congrArg (· + 1) (eventCounter_found found).symm
  · rw [moved]
    have here : (run.withEventSequence (run.lastEventSequence + 1) row.emittedAt).runId =
        ({ row with sequence := run.lastEventSequence + 1 } : EventRow).runId := key
    rw [if_pos here]
    exact congrArg (· + 1) (eventCounter_found found).symm
  · intro wanted other
    rw [moved]
    exact if_neg fun same => other (same.symm.trans key)

theorem insertRun_numbered (row : RunRow) (unused : row.lastEventSequence = 0) :
    Keeps Numbered (insertRun row) := by
  apply insertRun_ensures Numbered row
  · intro store runs numbered inserted
    refine numbered_of_counters numbered rfl rfl (fun _ => rfl) ?_
    intro runId
    have fresh := ((store.runs.insert_some_iff _ _).mp inserted).1
    unfold eventCounter
    rw [store.runs.find_insert _ _ runId inserted]
    by_cases own : row.runId = runId
    · have unknown : store.runs.find runId = none := by
        rw [store.runs.find_none_iff, ← own]
        exact fresh
      rw [if_pos own, unknown]
      exact unused
    · rw [if_neg own]
  · intro store _ tasks numbered _
    exact numbered_of_counters numbered rfl rfl (fun _ => rfl) fun _ => rfl

theorem updateRun_numbered (rule : CompletionRule) (input : RunUpdate) :
    Keeps Numbered (updateRun rule input) := by
  refine updateRun_ensures ?_ fun _ _ numbered =>
    numbered_of_counters numbered rfl rfl (fun _ => rfl) fun _ => rfl
  intro store row numbered _ own
  refine numbered_of_counters numbered rfl rfl (fun _ => rfl) ?_
  intro runId
  have present : store.runs.find (row.updatedBy input).runId = some row := own
  rw [eventCounter_update present store.events runId]
  by_cases same : (row.updatedBy input).runId = runId
  · rw [if_pos same, ← same, eventCounter_found present]
    rfl
  · rw [if_neg same]

theorem numbered_rules (rule : CompletionRule) : EntryRules rule True True Numbered where
  unrelated _ _ conversations runs _ messages events numbered :=
    numbered_of_counters numbered messages events (messageCounter_of_same conversations)
      (eventCounter_of_same runs)
  opened := createConversation_numbered
  spoken input _ := insertMessage_numbered input
  entered row _ := enterEvent_numbered row
  inserted row _ unused := insertRun_numbered row unused
  classified _ _ _ := classifyRun_tasks fun _ _ numbered =>
    numbered_of_counters numbered rfl rfl (fun _ => rfl) fun _ => rfl
  updated _ _ input _ _ _ _ := updateRun_numbered rule input

variable {options : RunOptions}

theorem step_numbered (tables : RunTables) (op : LedgerOp) (numbered : Numbered tables.ledger) :
    Numbered (LedgerAppends.step options tables op).ledger :=
  ledger_keeps (numbered_rules options.completionRule)
    (fun input _ => updateRun_numbered options.completionRule input) tables op numbered

theorem reach_numbered (ops : List LedgerOp) : Numbered (LedgerAppends.reach options ops).ledger :=
  Lib.Runs.run_invariant (LedgerAppends.step options) (fun tables => Numbered tables.ledger)
    step_numbered RunTables.empty ops numbered_empty

variable {key : String} {row : EventRow} {input : AppendInput}

def StoredUnder (store : RunStore) (runId key : String) (row : EventRow) : Prop :=
  row ∈ store.events ∧ row.runId = runId ∧ row.idempotencyKey = some key

/-- The append says what the event says: its type, its attempt and the document that
would be stored of its payload. -/
def SameEvent (input : AppendInput) (row : EventRow) : Prop :=
  row.eventType = input.eventType ∧ row.attemptId = input.attemptId ∧
    input.payload.json.map Json.sorted = some row.payload.sorted

instance (input : AppendInput) (row : EventRow) : Decidable (SameEvent input row) := by
  unfold SameEvent
  infer_instance

/-- An append under a stored key: the same event is answered with the stored one, a
differing one throws, and neither changes anything. -/
def Idempotent (store : RunStore) (input : AppendInput) (eventId : String) : Prop :=
  ∀ key row, input.idempotencyKey = some key → StoredUnder store input.runId key row →
    (SameEvent input row → (LedgerAppends.appendEvent input eventId).run store = .ok (row, store)) ∧
    (¬ SameEvent input row →
      ∃ failure, (LedgerAppends.appendEvent input eventId).run store = .error failure)

/-- `bounded` lets the value pass. -/
def passes (value : String) (max : Nat) (pattern : String → Bool) : Prop :=
  1 ≤ utf16Length value ∧ utf16Length value ≤ max ∧ pattern value = true

instance (value : String) (max : Nat) (pattern : String → Bool) :
    Decidable (passes value max pattern) := by
  unfold passes
  infer_instance

/-- The key is looked up, and it and the type pass their checks. -/
def Checked (input : AppendInput) (key : String) : Prop :=
  key ≠ "" ∧ passes key 128 matchesKeyPattern ∧ passes input.eventType 128 matchesEventPattern

/-- Under a stored key, the same event has a key that is looked up and a payload with
the text of its document, and a payload of another document does not have the text of
the stored one. -/
def Fits (store : RunStore) (input : AppendInput) : Prop :=
  ∀ key row, input.idempotencyKey = some key → StoredUnder store input.runId key row →
    (SameEvent input row → Checked input key ∧ input.payload.Survives) ∧
    (¬ SameEvent input row → Checked input key → ¬ input.repeats row)

theorem run_bounded_then {Value : Type} {value label : String} {max : Nat}
    {pattern : String → Bool} {state : RunStore} {next : Unit → LedgerTransaction Value}
    (holds : passes value max pattern) :
    (bounded value label max pattern >>= next).run state = (next ()).run state :=
  run_demand_then holds

theorem find_of_distinct {events : List EventRow} {runId key : String} {row : EventRow}
    (keys : events.Pairwise distinctKeys) (rowIn : row ∈ events) (inRun : row.runId = runId)
    (under : row.idempotencyKey = some key) :
    events.find? (fun other => decide (other.runId = runId ∧ other.idempotencyKey = some key)) =
      some row := by
  induction events with
  | nil => cases rowIn
  | cons first rest ih =>
    rw [List.pairwise_cons] at keys
    cases rowIn with
    | head => exact List.find?_cons_of_pos (by simp [inRun, under])
    | tail _ later =>
      have different : ¬ (first.runId = runId ∧ first.idempotencyKey = some key) := by
        intro same
        exact keys.1 row later (same.1.trans inRun.symm) key same.2 under
      rw [List.find?_cons, decide_eq_false different]
      exact ih keys.2 later

section

variable (numbered : Numbered store)
include numbered

theorem lookup_of_stored (stored : StoredUnder store runId key row) :
    getEventByIdempotency store runId key = some row :=
  find_of_distinct numbered.keys stored.1 stored.2.1 stored.2.2

theorem run_of_stored (stored : StoredUnder store runId key row) :
    ∃ run, store.runs.find runId = some run := by
  have counted := length_entriesOf numbered.events runId
  have rowIn : row ∈ entriesOf EventRow.runId store.events runId :=
    List.mem_filter.mpr ⟨stored.1, decide_eq_true stored.2.1⟩
  have positive := List.length_pos_of_mem rowIn
  unfold eventCounter at counted
  cases found : store.runs.find runId with
  | some run => exact ⟨run, rfl⟩
  | none =>
    rw [found] at counted
    simp only [Option.map_none, Option.getD_none] at counted
    omega

section

variable (keyed : input.idempotencyKey = some key) (stored : StoredUnder store input.runId key row)
include keyed stored

theorem allocateAppended_refused (eventId : String) :
    Ensures (fun known => known = store) (allocateAppended run input eventId)
      (fun _ _ => False) := by
  apply ensures_demand_then
  intro _
  refine ensures_bind (nextEventSequence_counts run.runId input.emittedAt store) fun sequence => ?_
  apply ensures_expect_then
  intro document _
  have refused : Ensures
      (fun reached => ∃ row, store.runs.find run.runId = some row ∧
        sequence = row.lastEventSequence + 1 ∧
        reached =
          { store with
            runs := store.runs.update (row.withEventSequence sequence input.emittedAt) })
      (insertEvent (input.toRow document sequence eventId)) (fun _ _ => False) := by
    apply ensures_inspect_then
    intro counted counts
    obtain ⟨row, -, -, isCounted⟩ := counts
    apply ensures_demand_then
    intro free
    have unused := free key keyed
    rw [isCounted] at unused
    have found : getEventByIdempotency store input.runId key = none := unused
    rw [lookup_of_stored numbered stored] at found
    cases found
  exact ensures_bind refused fun _ => ensures_pure _ fun _ impossible => impossible

theorem appendEvent_returns (checked : Checked input key) (repeated : input.repeats row)
    (eventId : String) :
    (LedgerAppends.appendEvent input eventId).run store = .ok (row, store) := by
  obtain ⟨run, found⟩ := run_of_stored numbered stored
  have isRun : run.runId = input.runId := store.runs.key_of_find found
  have looked : input.idempotencyKey.filter (fun key => decide (key ≠ "")) = some key := by
    rw [keyed]
    simp [checked.1]
  have lookup : getEventByIdempotency store run.runId key = some row := by
    rw [isRun]
    exact lookup_of_stored numbered stored
  unfold LedgerAppends.appendEvent
  rw [run_bounded_then checked.2.2, run_inspect_then]
  dsimp only [id]
  rw [run_expect_then found, looked]
  rw [run_bounded_then checked.2.1, lookup]
  rw [run_demand_then repeated]
  rfl

theorem appendEvent_refuses (differs : Checked input key → ¬ input.repeats row) (eventId : String) :
    ∃ failure, (LedgerAppends.appendEvent input eventId).run store = .error failure := by
  apply throws_of_ensures
  apply ensures_demand_then
  intro typeChecked
  apply ensures_inspect_at
  intro known isStore
  rw [isStore]
  apply ensures_expect_then
  intro run found
  have isRun : run.runId = input.runId := store.runs.key_of_find found
  split
  next => exact allocateAppended_refused numbered keyed stored eventId
  next looked isLooked =>
    rw [keyed, Option.filter_eq_some_iff] at isLooked
    have isKey : key = looked := Option.some.inj isLooked.1
    rw [← isKey]
    apply ensures_demand_then
    intro keyChecked
    have nonempty : key ≠ "" := by
      rw [isKey]
      exact of_decide_eq_true isLooked.2
    have lookup : getEventByIdempotency (id store) run.runId key = some row := by
      rw [isRun]
      exact lookup_of_stored numbered stored
    rw [lookup]
    apply ensures_demand_then
    intro repeated
    exact absurd repeated (differs ⟨nonempty, keyChecked, typeChecked⟩)

end

end

theorem repeats_iff_survives (same : SameEvent input row) :
    input.repeats row ↔ input.payload.Survives := by
  obtain ⟨sameType, sameAttempt, sameDocument⟩ := same
  obtain ⟨document, written, sorted⟩ := Option.map_eq_some_iff.mp sameDocument
  have sameText : document.value.canonical = row.payload.value.canonical :=
    (same_text_iff document row.payload).mpr sorted
  constructor
  · intro repeated
    exact ⟨document, written, repeated.2.2.symm.trans sameText.symm⟩
  · intro survives
    obtain ⟨other, otherWritten, text⟩ := survives
    have sameOther : other = document := Option.some.inj (otherWritten.symm.trans written)
    rw [sameOther] at text
    exact ⟨sameType, sameAttempt, (text.trans sameText).symm⟩

theorem idempotent_iff (numbered : Numbered store) (input : AppendInput) (eventId : String) :
    Idempotent store input eventId ↔ Fits store input := by
  constructor
  · intro idempotent key row keyed stored
    obtain ⟨returns, throws⟩ := idempotent key row keyed stored
    constructor
    · intro same
      by_contra unfit
      have refused := appendEvent_refuses numbered keyed stored
        (fun checked repeated => unfit ⟨checked, (repeats_iff_survives same).mp repeated⟩) eventId
      obtain ⟨failure, thrown⟩ := refused
      rw [returns same] at thrown
      cases thrown
    · intro differs checked repeated
      obtain ⟨failure, thrown⟩ := throws differs
      rw [appendEvent_returns numbered keyed stored checked repeated eventId] at thrown
      cases thrown
  · intro fits key row keyed stored
    obtain ⟨sameFits, otherFits⟩ := fits key row keyed stored
    constructor
    · intro same
      obtain ⟨checked, survives⟩ := sameFits same
      exact appendEvent_returns numbered keyed stored checked
        ((repeats_iff_survives same).mpr survives) eventId
    · intro differs
      exact appendEvent_refuses numbered keyed stored (otherFits differs) eventId

def DelegatedIdempotent (store : RunStore) : Prop :=
  ∀ runId attemptId eventType payload key now eventId row,
    StoredUnder store runId key row →
      ((lifecycleEvent runId attemptId eventType payload (some key) now).repeats row →
        (appendRunEvent runId attemptId eventType payload key now eventId).run store =
          .ok ((), store)) ∧
      (¬ (lifecycleEvent runId attemptId eventType payload (some key) now).repeats row →
        ∃ failure, (appendRunEvent runId attemptId eventType payload key now eventId).run store =
          .error failure)

theorem delegated_idempotent (numbered : Numbered store) : DelegatedIdempotent store := by
  intro runId attemptId eventType payload key now eventId row stored
  unfold appendRunEvent
  rw [run_inspect_then]
  rw [lookup_of_stored numbered stored]
  dsimp only
  constructor
  · intro repeated
    unfold demand
    rw [if_pos repeated]
    rfl
  · intro differs
    exact ⟨_, throws_demand differs⟩

/-- Messages and events are numbered from one up to the counters of their conversations
and runs, and a run has at most one event under a key. -/
structure GapFreeLedger (store : RunStore) : Prop where
  messages : ∀ row ∈ store.conversations.rows,
    (listMessages store row.conversationId).map MessageRow.sequence =
      List.range' 1 row.lastMessageSequence
  events : ∀ row ∈ store.runs.rows,
    (listEvents store row.runId).map EventRow.sequence = List.range' 1 row.lastEventSequence
  keys : ∀ first ∈ store.events, ∀ second ∈ store.events, ∀ key,
    first.runId = second.runId → first.idempotencyKey = some key →
      second.idempotencyKey = some key → first = second

theorem gapFreeLedger_of_numbered (numbered : Numbered store) : GapFreeLedger store where
  messages row rowIn := by
    rw [← messageCounter_found (store.conversations.find_of_mem rowIn)]
    exact numbered.messages row.conversationId
  events row rowIn := by
    rw [← eventCounter_found (store.runs.find_of_mem rowIn)]
    exact numbered.events row.runId
  keys first firstIn second secondIn key sameRun firstKey secondKey := by
    have firstFound := lookup_of_stored numbered ⟨firstIn, sameRun, firstKey⟩
    have secondFound := lookup_of_stored numbered ⟨secondIn, rfl, secondKey⟩
    exact Option.some.inj (firstFound.symm.trans secondFound)

def AppendsIdempotent (tables : RunTables) : LedgerOp → Prop
  | .appendEvent input call => Idempotent tables.ledger input (call.createId 0)
  | _ => True

def FitsStored (tables : RunTables) : LedgerOp → Prop
  | .appendEvent input _ => Fits tables.ledger input
  | _ => True

/-- What a run leaves of the numbers and the keys of the ledger. -/
structure SequencesKept (options : RunOptions) (ops : List LedgerOp) : Prop where
  gapFree : ∀ earlier later, ops = earlier ++ later →
    GapFreeLedger (LedgerAppends.reach options earlier).ledger
  delegated : ∀ earlier later, ops = earlier ++ later →
    DelegatedIdempotent (LedgerAppends.reach options earlier).ledger
  appended : Lib.Runs.EveryStep (LedgerAppends.step options) AppendsIdempotent RunTables.empty ops

theorem ledger_sequences_kept (options : RunOptions) (ops : List LedgerOp) :
    SequencesKept options ops ↔
      Lib.Runs.EveryStep (LedgerAppends.step options) FitsStored RunTables.empty ops := by
  have agree : ∀ tables op, Numbered tables.ledger →
      (AppendsIdempotent tables op ↔ FitsStored tables op) := by
    intro tables op numbered
    cases op with
    | appendEvent input call => exact idempotent_iff numbered input (call.createId 0)
    | _ => exact Iff.rfl
  have sameRuns : Lib.Runs.EveryStep (LedgerAppends.step options) AppendsIdempotent
      RunTables.empty ops ↔
        Lib.Runs.EveryStep (LedgerAppends.step options) FitsStored RunTables.empty ops :=
    Lib.Runs.everyStep_iff (fun tables op numbered => step_numbered tables op numbered) agree ops
      numbered_empty
  constructor
  · intro kept
    exact sameRuns.mp kept.appended
  · intro fits
    exact
      { gapFree := fun earlier _ _ => gapFreeLedger_of_numbered (reach_numbered earlier)
        delegated := fun earlier _ _ => delegated_idempotent (reach_numbered earlier)
        appended := sameRuns.mpr fits }

def undefinedMember : AppendInput where
  runId := "r1"
  attemptId := some "a1"
  eventType := "tool.started"
  payload := .object [("detail", .undefined)]
  idempotencyKey := some "k1"
  expectedSequence := none
  emittedAt := 3

def appendedOnce : List LedgerOp :=
  [ .other (.createConversation
      { conversationId := "c1"
        workspaceId := "main" }),
    .other (.send
      { workspaceId := "main", conversationId := "c1", submissionKey := "s1", text := "go" }
      (callAt 1 ["m1", "r1", "a1", "e1"])),
    .appendEvent undefinedMember (callAt 3 ["e3"]) ]

def storedEvent : EventRow where
  runId := "r1"
  sequence := 2
  eventId := "e3"
  attemptId := some "a1"
  eventType := "tool.started"
  payload := .object []
  idempotencyKey := some "k1"
  emittedAt := 3

/-- The same append again throws. -/
theorem undefined_member_refused :
    ¬ SequencesKept mainHost
      (appendedOnce ++ [.appendEvent undefinedMember (callAt 4 ["e4"])]) := by
  intro kept
  have again := ((Lib.Runs.everyStep_append _ _ _ _ _).mp kept.appended).2.1
  have returned := (again "k1" storedEvent rfl ⟨by decide, rfl, rfl⟩).1 (by decide)
  have thrown : (LedgerAppends.appendEvent undefinedMember "e4").run
      (LedgerAppends.reach mainHost appendedOnce).ledger =
        .error (.service .eventIdempotencyConflict
          "event idempotency key reused with different event") := rfl
  have both := thrown.symm.trans returned
  cases both

end OpenRill.Runs.Sequences
