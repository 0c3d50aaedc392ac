import Mathlib.Data.List.TakeWhile
import OpenRill.Runs.AtomicTransitions
import OpenRill.Runs.LedgerAppends

/-!
# The admission of a submission

A submission passes the checks of its entrance and is then stored with its message, its
run, the first attempt of the run and the event of the run's creation. Two of its texts
meet a second bound on the way: the key, behind a prefix, as the key of the event, and the
text as the text of the task. `Admissible` is what both let through.
-/

namespace OpenRill.Runs.Admission

open Lib Lib.Text Lib.Transaction State Ledger Delegations Lifecycle LedgerAppends
open Operations Sequences AtomicTransitions

variable {input : SendInput} {store : RunStore} {text : String} {conversation : ConversationRow}
variable {createId : Nat → String} {options : RunOptions} {now : Nat} {role : MessageRole}
variable {row : RunRow}

def startsWithNull (text : String) : Bool :=
  match text.toList with
  | [] => false
  | char :: _ => decide (char.toNat = 0)

def Admissible (input : SendInput) : Prop :=
  utf16Length input.submissionKey ≤ 117 ∧ startsWithNull input.text = false

instance (input : SendInput) : Decidable (Admissible input) := by
  unfold Admissible
  infer_instance

theorem utf16Length_append (first second : String) :
    utf16Length (first ++ second) = utf16Length first + utf16Length second := by
  unfold utf16Length
  rw [String.toList_append, List.map_append, List.sum_append]

theorem length_le_utf16Length (text : String) : text.toList.length ≤ utf16Length text := by
  unfold utf16Length
  induction text.toList with
  | nil => exact Nat.le_refl 0
  | cons char rest shorter =>
    have counted : 1 ≤ codeUnits char := by
      unfold codeUnits
      split <;> omega
    rw [List.length_cons, List.map_cons, List.sum_cons]
    omega

theorem submissionPrefix_length : utf16Length "submission:" = 11 := by decide +kernel

theorem matchesKeyPattern_prefixed {key : String} (isKey : matchesKeyPattern key = true) :
    matchesKeyPattern ("submission:" ++ key) = true := by
  have isPrefix : matchesKeyPattern "submission:" = true := by decide +kernel
  unfold matchesKeyPattern matchesAll at isKey isPrefix ⊢
  rw [Bool.and_eq_true, decide_eq_true_eq] at isKey isPrefix ⊢
  rw [String.toList_append, List.all_append, isPrefix.2, isKey.2]
  exact ⟨List.append_ne_nil_of_left_ne_nil isPrefix.1 _, rfl⟩

def textOfTask (text : String) : String :=
  if trim text = "" then "Background agent run" else text

theorem trim_ne_empty (nullFirst : startsWithNull text = true) : trim text ≠ "" := by
  unfold startsWithNull at nullFirst
  split at nullFirst
  next => cases nullFirst
  next char rest isText =>
    have isNull : char.toNat = 0 := of_decide_eq_true nullFirst
    have stays : isTrimmed char = false := by
      unfold isTrimmed
      rw [isNull]
      rfl
    intro isEmpty
    have dropped := congrArg String.toList isEmpty
    unfold trim at dropped
    rw [String.toList_ofList, isText, List.dropWhile_cons_of_neg (by simp [stays])] at dropped
    have allTrimmed := List.dropWhile_eq_nil_iff.mp (List.reverse_eq_nil_iff.mp dropped)
    have trimmed := allTrimmed char (List.mem_reverse.mpr List.mem_cons_self)
    rw [stays] at trimmed
    cases trimmed

theorem storedLength_pos_iff (written : 1 ≤ utf16Length text) :
    1 ≤ storedLength text ↔ startsWithNull text = false := by
  unfold storedLength startsWithNull
  split
  next isText =>
    unfold utf16Length at written
    rw [isText] at written
    cases written
  next char rest isText =>
    rw [isText]
    by_cases isNull : char.toNat = 0
    · rw [List.takeWhile_cons_of_neg (by simp [isNull])]
      simp [isNull]
    · rw [List.takeWhile_cons_of_pos (by simp [isNull])]
      simp [isNull]

theorem textOfTask_fits_iff (written : 1 ≤ utf16Length text) (bounded : utf16Length text ≤ 65536) :
    (1 ≤ storedLength (textOfTask text) ∧ storedLength (textOfTask text) ≤ 65536) ↔
      startsWithNull text = false := by
  unfold textOfTask
  split
  next isBlank =>
    have placeholder : storedLength "Background agent run" = 20 := by decide +kernel
    have noNull : startsWithNull text = false := by
      cases nullFirst : startsWithNull text with
      | false => rfl
      | true => exact (trim_ne_empty nullFirst isBlank).elim
    rw [placeholder]
    exact ⟨fun _ => noNull, fun _ => by omega⟩
  next =>
    have shorter : storedLength text ≤ 65536 :=
      ((List.takeWhile_sublist _).length_le.trans (length_le_utf16Length text)).trans bounded
    rw [← storedLength_pos_iff written]
    exact ⟨fun fits => fits.1, fun positive => ⟨positive, shorter⟩⟩

structure Checked (input : SendInput) : Prop where
  key : matchesKeyPattern input.submissionKey = true
  written : 1 ≤ utf16Length input.text
  bounded : utf16Length input.text ≤ 65536

theorem validateSendInput_checks :
    Ensures (fun known => known = store) (validateSendInput options input)
      (fun _ _ => Checked input) := by
  have anything : Ensures (fun known => known = store) (authorize options input.workspaceId)
      (fun _ _ => True) := fun _ _ _ _ _ => trivial
  refine ensures_bind anything fun _ => ensures_demand_then fun _ => ?_
  refine ensures_demand_then fun keyed => ?_
  refine ensures_mono (ensures_demand _ _) (fun _ known => known) ?_
  rintro _ _ ⟨-, texted⟩
  exact ⟨keyed.2.2, texted.1, texted.2.1⟩

structure Fresh (store : RunStore) (createId : Nat → String) : Prop where
  messages : ∀ row ∈ store.messages, row.messageId ≠ createId 0
  runs : store.runs.find (createId 1) = none
  tasks : ∀ row ∈ store.tasks.rows, row.runId ≠ createId 1 ∧ row.taskId ≠ "task:" ++ createId 1
  attempts : store.attempts.find (createId 2) = none
  events : ∀ row ∈ store.events, row.runId ≠ createId 1

/-- The conversation is in the workspace and has not seen the key. -/
structure Unseen (store : RunStore) (input : SendInput) (conversation : ConversationRow)
    (createId : Nat → String) : Prop where
  known : store.conversations.find input.conversationId = some conversation
  own : conversation.workspaceId = input.workspaceId
  unused : store.submissions.find (input.conversationId, input.submissionKey) = none
  fresh : Fresh store createId

def messageOf (input : SendInput) (role : MessageRole) (createId : Nat → String) (now : Nat) :
    MessageInput where
  messageId := createId 0
  conversationId := input.conversationId
  role := role
  content := .text input.text
  createdAt := now

def runOf (input : SendInput) (createId : Nat → String) (now : Nat) : RunRow :=
  createdRun (createId 1) input.conversationId (createId 0) (createId 2) now

def eventOf (input : SendInput) (createId : Nat → String) (now : Nat) : EventInput where
  runId := createId 1
  attemptId := some (createId 2)
  eventType := "run.created"
  payload := .object [("triggerMessageId", .text (createId 0))]
  idempotencyKey := some ("submission:" ++ input.submissionKey)
  expectedSequence := some 1
  emittedAt := now

def submissionOf (input : SendInput) (inputHash : String) (createId : Nat → String) (now : Nat) :
    SubmissionRow where
  conversationId := input.conversationId
  submissionKey := input.submissionKey
  inputHash := inputHash
  messageId := createId 0
  runId := createId 1
  createdAt := now

def spoken (store : RunStore) (conversation : ConversationRow) (message : MessageInput) :
    RunStore :=
  { store with
    conversations := store.conversations.update
      (conversation.withMessageSequence (conversation.lastMessageSequence + 1))
    messages := store.messages ++ [message.toRow (conversation.lastMessageSequence + 1)] }

structure Admitted (input : SendInput) (role : MessageRole) (inputHash : String)
    (createId : Nat → String) (now : Nat) (reached : RunStore) : Prop where
  message : ∃ sequence, (messageOf input role createId now).toRow sequence ∈ reached.messages
  run : ∃ sequence, reached.runs.find (createId 1) =
    some ((runOf input createId now).withEventSequence sequence now)
  attempt : reached.attempts.find (createId 2) = some (emptyAttempt (createId 2) (createId 1) 1 now)
  event : ∃ sequence, (eventOf input createId now).toRow sequence (createId 3) ∈ reached.events
  submission : reached.submissions.find (input.conversationId, input.submissionKey) =
    some (submissionOf input inputHash createId now)

theorem insertMessage_completes {message : MessageInput}
    (found : store.conversations.find message.conversationId = some conversation)
    (fresh : ∀ row ∈ store.messages, row.messageId ≠ message.messageId) :
    Completes store (insertMessage message)
      (fun _ reached => reached = spoken store conversation message) := by
  have numbered : Completes store (nextMessageSequence message.conversationId)
      (fun sequence reached => sequence = conversation.lastMessageSequence + 1 ∧
        reached =
          { store with
            conversations := store.conversations.update
              (conversation.withMessageSequence (conversation.lastMessageSequence + 1)) }) := by
    apply completes_inspect
    apply completes_expect found
    apply completes_write
    exact completes_return _ ⟨rfl, rfl⟩
  apply completes_called numbered
  rintro _ _ ⟨rfl, rfl⟩
  apply completes_read
  apply completes_demand fresh
  exact completes_change _ rfl

theorem taskText_spoken (fresh : Fresh store createId) :
    taskText (spoken store conversation (messageOf input role createId now)) (some (createId 0)) =
      textOfTask input.text := by
  have missing : store.messages.find? (fun row => decide (row.messageId = createId 0)) = none := by
    rw [List.find?_eq_none]
    intro row rowIn same
    exact fresh.messages row rowIn (of_decide_eq_true same)
  have found : (spoken store conversation (messageOf input role createId now)).messages.find?
      (fun row => decide (row.messageId = createId 0)) =
        some ((messageOf input role createId now).toRow
          (conversation.lastMessageSequence + 1)) := by
    unfold spoken messageOf
    rw [List.find?_append, missing]
    simp [MessageInput.toRow]
  unfold taskText
  dsimp only
  rw [found]
  rfl

theorem insertRun_completes {opened : ConversationRow} (unknown : store.runs.find row.runId = none)
    (found : store.conversations.find row.conversationId = some opened)
    (fits : 1 ≤ storedLength (taskText store row.triggerMessageId) ∧
      storedLength (taskText store row.triggerMessageId) ≤ 65536) (free : ∀ task ∈ store.tasks.rows,
      task.runId ≠ row.runId ∧ task.taskId ≠ "task:" ++ row.runId) :
    Completes store (insertRun row)
      (fun _ reached => ∃ runs tasks, store.runs.insert row = some runs ∧
        reached = { store with runs := runs, tasks := tasks }) := by
  obtain ⟨runs, inserted⟩ := store.runs.insert_of_fresh row unknown
  have storesRun : Completes store
      (tryChange
        (fun store => (store.runs.insert row).map fun runs => { store with runs := runs })
        (.constraint "agent_runs.run_id") : LedgerTransaction Unit)
      (fun _ reached => reached = { store with runs := runs }) := by
    have written : Option.map (fun runs => { store with runs := runs }) (store.runs.insert row) =
        some { store with runs := runs } := by
      rw [inserted]
      rfl
    exact completes_tryChange written rfl
  apply completes_called storesRun
  rintro _ _ rfl
  apply completes_read
  apply completes_expect found
  apply completes_demand fits
  have noTask : getTaskByRun { store with runs := runs } row.runId = none := by
    unfold getTaskByRun
    rw [List.find?_eq_none]
    intro task taskIn same
    exact (free task taskIn).1 (of_decide_eq_true same)
  apply completes_demand noTask
  have newTask : store.tasks.find ("task:" ++ row.runId) = none := by
    rw [store.tasks.find_none_iff]
    intro task taskIn
    exact (free task taskIn).2
  obtain ⟨tasks, insertedTask⟩ := store.tasks.insert_of_fresh
    (taskForRun row opened.workspaceId (taskText store row.triggerMessageId)) newTask
  have written : Option.map (fun tasks => { store with runs := runs, tasks := tasks })
      (store.tasks.insert
        (taskForRun row opened.workspaceId (taskText store row.triggerMessageId))) =
      some { store with runs := runs, tasks := tasks } := by
    rw [insertedTask]
    rfl
  exact completes_tryChange written ⟨runs, tasks, inserted, rfl⟩

theorem insertRun_needs :
    Ensures (fun known => known = store) (insertRun row)
      (fun _ _ => 1 ≤ storedLength (taskText store row.triggerMessageId) ∧
        storedLength (taskText store row.triggerMessageId) ≤ 65536) := by
  refine ensures_try fun reached done => ?_
  obtain ⟨runs, -, rfl⟩ := Option.map_eq_some_iff.mp done
  apply ensures_read
  refine ensures_expect_then fun opened _ => ensures_demand_then fun fits => ?_
  intro _ _ _ _ _
  exact fits

variable {inputHash : String}

theorem created_passes : passes "run.created" 128 matchesEventPattern := by decide +kernel

theorem submissionKey_nonempty (key : String) : "submission:" ++ key ≠ "" := by
  intro isEmpty
  have counted := congrArg utf16Length isEmpty
  rw [utf16Length_append, submissionPrefix_length] at counted
  have none : utf16Length "" = 0 := rfl
  omega

theorem submissionKey_passes_iff (isKey : matchesKeyPattern input.submissionKey = true) :
    passes ("submission:" ++ input.submissionKey) 128 matchesKeyPattern ↔
      utf16Length input.submissionKey ≤ 117 := by
  unfold passes
  rw [utf16Length_append, submissionPrefix_length]
  constructor
  · rintro ⟨-, bounded, -⟩
    omega
  · intro short
    exact ⟨by omega, by omega, matchesKeyPattern_prefixed isKey⟩

theorem insertMessage_speaks
    (known : store.conversations.find input.conversationId = some conversation)
    (fresh : Fresh store createId) :
    Completes store (insertMessage (messageOf input role createId now))
      (fun _ reached => reached = spoken store conversation (messageOf input role createId now)) :=
  insertMessage_completes known fresh.messages

theorem createdEvent_enters {run : RunRow} (found : store.runs.find (createId 1) = some run)
    (first : run.lastEventSequence = 0) (silent : ∀ row ∈ store.events, row.runId ≠ createId 1)
    (checked : passes ("submission:" ++ input.submissionKey) 128 matchesKeyPattern) :
    Completes store (appendEventWithRepositories (eventOf input createId now) (createId 3))
      (fun _ reached => ∃ sequence, reached =
        withEvent store run ((eventOf input createId now).toRow sequence (createId 3))) := by
  refine appendEvent_enters (eventOf input createId now) (createId 3) found ?_ created_passes rfl
    (submissionKey_nonempty _) checked ?_
  · rintro expected ⟨⟩
    rw [first]
  · unfold getEventByIdempotency
    rw [List.find?_eq_none]
    intro row rowIn same
    exact silent row rowIn (of_decide_eq_true same).1

section

variable (unseen : Unseen store input conversation createId) (checked : Checked input)
include unseen checked

theorem sendWithRepositories_completes (admissible : Admissible input) :
    Completes store (sendWithRepositories input role inputHash now createId)
      (fun _ => Admitted input role inputHash createId now) := by
  obtain ⟨known, own, unused, fresh⟩ := unseen
  have isConversation : conversation.conversationId = input.conversationId :=
    store.conversations.key_of_find known
  obtain ⟨short, noNull⟩ := admissible
  apply completes_read
  apply completes_expect known
  apply completes_demand own
  rw [isConversation, unused]
  apply completes_called (insertMessage_speaks known fresh)
  rintro _ said rfl
  have opened : (spoken store conversation (messageOf input role createId now)).conversations.find
      input.conversationId =
        some (conversation.withMessageSequence (conversation.lastMessageSequence + 1)) := by
    have present : store.conversations.find conversation.conversationId = some conversation := by
      rw [isConversation]
      exact known
    refine (store.conversations.find_update (conversation.withMessageSequence
      (conversation.lastMessageSequence + 1)) present _).trans ?_
    exact if_pos isConversation
  have fits := (textOfTask_fits_iff checked.written checked.bounded).mpr noNull
  rw [← @taskText_spoken input store conversation createId now role fresh] at fits
  have created : Completes (spoken store conversation (messageOf input role createId now))
      (insertRun (runOf input createId now)) _ :=
    insertRun_completes fresh.runs opened fits fresh.tasks
  apply completes_called created
  rintro _ _ ⟨runs, tasks, inserted, rfl⟩
  obtain ⟨attempts, insertedAttempt⟩ := store.attempts.insert_of_fresh
    (emptyAttempt (createId 2) (createId 1) 1 now) fresh.attempts
  let ready : RunStore :=
    { spoken store conversation (messageOf input role createId now) with
      runs := runs
      tasks := tasks
      attempts := attempts }
  have storesAttempt : Completes { ready with attempts := store.attempts }
      (insertAttempt (emptyAttempt (createId 2) (createId 1) 1 now))
      (fun _ reached => reached = ready) := by
    refine completes_tryChange ?_ rfl
    exact congrArg (Option.map _) insertedAttempt
  apply completes_called storesAttempt
  rintro _ _ rfl
  have foundRun : ready.runs.find (createId 1) = some (runOf input createId now) :=
    (store.runs.find_insert runs (runOf input createId now) (createId 1) inserted).trans
      (if_pos rfl)
  have entered : Completes ready
      (appendEventWithRepositories (eventOf input createId now) (createId 3)) _ :=
    createdEvent_enters foundRun rfl fresh.events ((submissionKey_passes_iff checked.key).mpr short)
  apply completes_called entered
  rintro _ _ ⟨sequence, rfl⟩
  obtain ⟨submissions, insertedSubmission⟩ := store.submissions.insert_of_fresh
    (submissionOf input inputHash createId now) unused
  let told : RunStore :=
    withEvent ready (runOf input createId now)
      ((eventOf input createId now).toRow sequence (createId 3))
  have submitted : Completes told (insertSubmission (submissionOf input inputHash createId now))
      (fun _ reached => reached = { told with submissions := submissions }) := by
    refine completes_tryChange ?_ rfl
    exact congrArg (Option.map _) insertedSubmission
  apply completes_called submitted
  rintro _ _ rfl
  apply completes_read
  have stamped : told.runs.find (createId 1) =
      some ((runOf input createId now).withEventSequence sequence now) :=
    @withEvent_run (runOf input createId now) ready foundRun
      ((eventOf input createId now).toRow sequence (createId 3))
  have foundSubmission := store.submissions.find_insert submissions
    (submissionOf input inputHash createId now)
    (submissionOf input inputHash createId now).submission insertedSubmission
  have foundAttempt := store.attempts.find_insert attempts
    (emptyAttempt (createId 2) (createId 1) 1 now) (createId 2) insertedAttempt
  rw [if_pos rfl] at foundSubmission
  rw [if_pos (show (emptyAttempt (createId 2) (createId 1) 1 now).attemptId = createId 2 from rfl)]
    at foundAttempt
  apply completes_expect_last stamped
  exact
    { message := ⟨_, List.mem_append_right _ List.mem_cons_self⟩
      run := ⟨sequence, stamped⟩
      attempt := foundAttempt
      event := ⟨sequence, List.mem_append_right _ List.mem_cons_self⟩
      submission := foundSubmission }

theorem sendWithRepositories_needs :
    Ensures (fun current => current = store)
      (sendWithRepositories input role inputHash now createId)
      (fun _ _ => Admissible input) := by
  obtain ⟨known, own, unused, fresh⟩ := unseen
  have isConversation : conversation.conversationId = input.conversationId :=
    store.conversations.key_of_find known
  apply ensures_read
  refine ensures_found known (ensures_demand_then fun _ => ?_)
  rw [isConversation, unused]
  refine ensures_called (ensures_of_completes (insertMessage_speaks known fresh)) ?_
  rintro _ said rfl
  have texted : Ensures
      (fun current => current = spoken store conversation (messageOf input role createId now))
      (insertRun (runOf input createId now)) (fun _ _ => startsWithNull input.text = false) := by
    refine ensures_result insertRun_needs fun _ _ fits => ?_
    rw [← textOfTask_fits_iff checked.written checked.bounded,
      ← @taskText_spoken input store conversation createId now role fresh]
    exact fits
  refine ensures_called texted fun _ created noNull => ?_
  have anything : Ensures (fun current => current = created)
      (insertAttempt (emptyAttempt (createId 2) (createId 1) 1 now)) (fun _ _ => True) :=
    fun _ _ _ _ _ => trivial
  refine ensures_called anything fun _ ready _ => ?_
  have keyed : Ensures (fun current => current = ready)
      (appendEventWithRepositories (eventOf input createId now) (createId 3))
      (fun _ _ => utf16Length input.submissionKey ≤ 117) := by
    refine ensures_result (appendEvent_needs rfl (submissionKey_nonempty _)) ?_
    intro _ _ usable
    exact (submissionKey_passes_iff checked.key).mp (usable _ rfl).2.1
  refine ensures_called keyed fun _ told short => ?_
  intro _ _ _ _ _
  exact ⟨short, noNull⟩

end

section Accepted

/-- The entrance lets the submission in, and writes nothing. -/
def Accepted (options : RunOptions) (input : SendInput) (store : RunStore) : Prop :=
  Completes store (validateSendInput options input) (fun _ reached => reached = store)

theorem accepted_of_passes (workspace : passes input.workspaceId 64 matchesWorkspacePattern)
    (served : input.workspaceId ∈ options.workspaceIds)
    (addressed : passes input.conversationId 128 (fun _ => true))
    (keyed : passes input.submissionKey 128 matchesKeyPattern)
    (texted : passes input.text 65536 (fun _ => true)) : Accepted options input store := by
  have authorized : Completes store (authorize options input.workspaceId)
      (fun _ reached => reached = store) := by
    apply completes_demand workspace
    unfold demand
    rw [if_pos served]
    exact completes_return () rfl
  apply completes_called authorized
  rintro _ _ rfl
  apply completes_demand addressed
  apply completes_demand keyed
  unfold passes at texted
  unfold bounded demand
  rw [if_pos texted]
  exact completes_return () rfl

variable (accepted : Accepted options input store) (unseen : Unseen store input conversation
  createId)

include accepted unseen

theorem accepted_needs (role : MessageRole) (inputHash : String) (now : Nat) :
    Ensures (fun current => current = store)
      (validateSendInput options input >>= fun _ =>
        sendWithRepositories input role inputHash now createId)
      (fun _ _ => Admissible input) := by
  refine ensures_called (ensures_of_completes
    (completes_and accepted (validateSendInput_checks))) ?_
  rintro _ _ ⟨rfl, checked⟩
  exact sendWithRepositories_needs unseen checked

theorem accepted_admitted_iff (role : MessageRole) (inputHash : String) (now : Nat) :
    Completes store
        (validateSendInput options input >>= fun _ =>
          sendWithRepositories input role inputHash now createId)
        (fun _ => Admitted input role inputHash createId now) ↔ Admissible input := by
  constructor
  · rintro ⟨run, reached, ran, -⟩
    exact accepted_needs accepted unseen role inputHash now store run reached rfl ran
  · intro admissible
    apply completes_called (completes_and accepted validateSendInput_checks)
    rintro _ _ ⟨rfl, checked⟩
    exact sendWithRepositories_completes unseen checked admissible

/-- A user's submission and one of the host are admitted when their key leaves room for the
prefix of the event and their text does not begin with a null character. -/
theorem accepted_submissions_admitted_iff (now : Nat) :
    (Completes store (send options input now createId)
        (fun _ => Admitted input .user (options.sha256 input.text) createId now) ↔
      Admissible input) ∧
    (Completes store (sendSystem options input now createId)
        (fun _ => Admitted input .system (systemHash options input.text) createId now) ↔
      Admissible input) :=
  ⟨accepted_admitted_iff accepted unseen _ _ now, accepted_admitted_iff accepted unseen _ _ now⟩

end Accepted

def sampleStore : RunStore :=
  perform
    (createConversation
      { conversationId := "c1"
        workspaceId := "main" })
    RunStore.empty

def sampleConversation : ConversationRow where
  conversationId := "c1"
  workspaceId := "main"
  lastMessageSequence := 0

def sampleInput (key text : String) : SendInput where
  workspaceId := "main"
  conversationId := "c1"
  submissionKey := key
  text := text

def sampleId (index : Nat) : String := ["m1", "r1", "a1"].getD index "e1"

theorem sampleStore_fresh : Fresh sampleStore sampleId where
  messages _ rowIn := nomatch rowIn
  runs := rfl
  tasks _ rowIn := nomatch rowIn
  attempts := rfl
  events _ rowIn := nomatch rowIn

theorem sampleInput_accepted (key text : String) (keyed : passes key 128 matchesKeyPattern)
    (texted : passes text 65536 (fun _ => true)) :
    Accepted mainHost (sampleInput key text) sampleStore := by
  have workspace : passes "main" 64 matchesWorkspacePattern := by decide +kernel
  have conversation : passes "c1" 128 (fun _ => true) := by decide +kernel
  exact accepted_of_passes workspace List.mem_cons_self conversation keyed texted

theorem sampleInput_unseen (key : String) :
    Unseen sampleStore (sampleInput key "hello") sampleConversation sampleId :=
  ⟨rfl, rfl, rfl, sampleStore_fresh⟩

def longestKey : String := String.ofList (List.replicate 117 'k')

def longerKey : String := String.ofList (List.replicate 118 'k')

theorem longest_key_admitted :
    Completes sampleStore (send mainHost (sampleInput longestKey "hello") 1 sampleId)
      (fun _ => Admitted (sampleInput longestKey "hello") .user "hello" sampleId 1) := by
  have keyed : passes longestKey 128 matchesKeyPattern := by decide +kernel
  have texted : passes "hello" 65536 (fun _ => true) := by decide +kernel
  have admissible : Admissible (sampleInput longestKey "hello") := by decide +kernel
  exact (accepted_submissions_admitted_iff (sampleInput_accepted longestKey "hello" keyed texted)
    (sampleInput_unseen longestKey) 1).1.mpr admissible

/-- A key of 118 characters passes the entrance, and the event of the run refuses it. -/
theorem longer_key_refused :
    Accepted mainHost (sampleInput longerKey "hello") sampleStore ∧
      Unseen sampleStore (sampleInput longerKey "hello") sampleConversation sampleId ∧
      ¬ Completes sampleStore (send mainHost (sampleInput longerKey "hello") 1 sampleId)
        (fun _ _ => True) := by
  have keyed : passes longerKey 128 matchesKeyPattern := by decide +kernel
  have texted : passes "hello" 65536 (fun _ => true) := by decide +kernel
  have accepted := sampleInput_accepted longerKey "hello" keyed texted
  refine ⟨accepted, sampleInput_unseen longerKey, ?_⟩
  rintro ⟨run, reached, ran, -⟩
  have admissible := accepted_needs accepted (sampleInput_unseen longerKey) .user "hello" 1
    sampleStore run reached rfl ran
  have long : ¬ Admissible (sampleInput longerKey "hello") := by decide +kernel
  exact long admissible

end OpenRill.Runs.Admission
