import OpenRill.Runs.LedgerRules

/-!
# Appends to the ledger from outside the lifecycle

`ConversationService.appendEvent` takes any value as its payload and compares the
canonical text of a repeated one with that of the document it stored; the events of
the lifecycle are the case of a payload that is a document. A submission may also
come from the host itself or from a connector, whose adoption opens the conversation
in the same transaction, and an approval may answer a tool call. `LedgerOp` is the
run machine with these operations.
-/

namespace OpenRill.Runs.LedgerAppends

open Lib Lib.Text Lib.Transaction Ledger Delegations Lifecycle DelegationService Operations
open LedgerRules

structure AppendInput where
  runId : String
  attemptId : Option String
  eventType : String
  payload : JsValue
  idempotencyKey : Option String
  expectedSequence : Option Nat
  emittedAt : Nat

def AppendInput.repeats (input : AppendInput) (row : EventRow) : Prop :=
  row.eventType = input.eventType ∧ row.attemptId = input.attemptId ∧
    row.payload.value.canonical = input.payload.canonical

instance (input : AppendInput) (row : EventRow) : Decidable (input.repeats row) := by
  unfold AppendInput.repeats
  infer_instance

def AppendInput.toRow (input : AppendInput) (document : Json) (sequence : Nat)
    (eventId : String) : EventRow where
  runId := input.runId
  sequence := sequence
  eventId := eventId
  attemptId := input.attemptId
  eventType := input.eventType
  payload := document
  idempotencyKey := input.idempotencyKey
  emittedAt := input.emittedAt

/-- The sequence number is allocated before the payload is written as a text. -/
def allocateAppended (run : RunRow) (input : AppendInput) (eventId : String) :
    LedgerTransaction EventRow := do
  demand (∀ expected ∈ input.expectedSequence, expected = run.lastEventSequence + 1)
    (.service .eventSequenceConflict
      ("expected event sequence " ++ toString (run.lastEventSequence + 1) ++ ", received " ++
        toString (input.expectedSequence.getD 0)))
  let sequence ← nextEventSequence run.runId input.emittedAt
  let document ← expect input.payload.json
    (.unexpected "run event payload must be JSON serializable")
  insertEvent (input.toRow document sequence eventId)
  pure (input.toRow document sequence eventId)

def appendEvent (input : AppendInput) (eventId : String) : LedgerTransaction EventRow := do
  bounded input.eventType "eventType" 128 matchesEventPattern
  let store ← inspect id
  let run ← expect (store.runs.find input.runId) runNotFound
  match input.idempotencyKey.filter (fun key => decide (key ≠ "")) with
  | none => allocateAppended run input eventId
  | some key => do
      bounded key "event idempotencyKey" 128 matchesKeyPattern
      match getEventByIdempotency store run.runId key with
      | some existing => do
          demand (input.repeats existing)
            (.service .eventIdempotencyConflict "event idempotency key reused with different event")
          pure existing
      | none => allocateAppended run input eventId

/-- The digest of the role and the text of a submission of the host. -/
def systemHash (options : RunOptions) (text : String) : String :=
  options.sha256 ("system:" ++ text)

/-- `sendSystemInTransaction`. -/
def sendSystem (options : RunOptions) (input : SendInput) (now : Nat)
    (createId : Nat → String) : LedgerTransaction RunRow := do
  validateSendInput options input
  sendWithRepositories input .system (systemHash options input.text) now createId

/-- `createInTransaction`, for a route that has no conversation yet. -/
def openConversation (options : RunOptions) (opened : Option ConversationInput) :
    LedgerTransaction Unit :=
  match opened with
  | none => pure ()
  | some conversation => do
      authorize options conversation.workspaceId
      createConversation conversation

/-- What the adoption of an ingress event writes to the ledger. -/
def adoptIngress (options : RunOptions) (opened : Option ConversationInput)
    (input : SendInput) (now : Nat) (createId : Nat → String) : LedgerTransaction RunRow := do
  openConversation options opened
  send options input now createId

structure ApprovalAnswer where
  runId : String
  requestId : String
  toolCallId : String
  name : String
  output : ToolOutput
  isError : Bool

def ApprovalAnswer.content (input : ApprovalAnswer) : MessageContent :=
  .toolResult input.toolCallId input.name input.output input.isError

/-- The answer of a call that waited for an approval, stored once. -/
def appendApprovalToolResult (input : ApprovalAnswer) (now : Nat) (createId : Nat → String) :
    LedgerTransaction Unit := do
  let store ← inspect id
  let run ← expect (store.runs.find input.runId) runNotFound
  demand (run.status.terminal = false)
    (invalidState ("cannot append approval result to terminal run: " ++ statusText run.status))
  let attemptId ← expect run.currentAttemptId (invalidState "run has no current attempt")
  match findToolResult (listMessages store run.conversationId) input.toolCallId with
  | some existing =>
    demand (existing.content = input.content)
      (.service .eventIdempotencyConflict
        "approval tool result conflicts with the durable tool result")
  | none => do
      insertMessage
        { messageId := createId 0
          conversationId := run.conversationId
          role := .tool
          content := input.content
          createdAt := now }
      let _ ← appendEventWithRepositories
        (lifecycleEvent run.runId (some attemptId) "approval.resolved"
          (.object
            [("isError", .flag input.isError), ("name", .text input.name),
              ("requestId", .text input.requestId), ("toolCallId", .text input.toolCallId)])
          (some ("approval-result:" ++ input.requestId)) now)
        (createId 1)
      let _ ← appendEventWithRepositories
        (lifecycleEvent run.runId (some attemptId) "tool.completed"
          (.object
            [("isError", .flag input.isError), ("name", .text input.name),
              ("resumedFromApproval", .flag true), ("toolCallId", .text input.toolCallId)])
          (some ("tool-complete:" ++ input.toolCallId)) now)
        (createId 2)
      pure ()

inductive LedgerOp where
  | appendEvent (input : AppendInput) (call : Call)
  | sendSystem (input : SendInput) (call : Call)
  | adoptIngress (opened : Option ConversationInput) (input : SendInput) (call : Call)
  | appendApprovalToolResult (input : ApprovalAnswer) (call : Call)
  | other (op : RunOp)

def step (options : RunOptions) (tables : RunTables) : LedgerOp → RunTables
  | .appendEvent input call =>
    perform (onLedger (LedgerAppends.appendEvent input (call.createId 0))) tables
  | .sendSystem input call =>
    perform (onLedger (LedgerAppends.sendSystem options input call.now call.createId)) tables
  | .adoptIngress opened input call =>
    perform
      (onLedger (LedgerAppends.adoptIngress options opened input call.now call.createId))
      tables
  | .appendApprovalToolResult input call =>
    perform (onLedger (LedgerAppends.appendApprovalToolResult input call.now call.createId)) tables
  | .other op => Operations.step options tables op

def reach (options : RunOptions) (ops : List LedgerOp) : RunTables :=
  Lib.Runs.run (step options) RunTables.empty ops

section Rules

variable {options : RunOptions} {invariant : RunStore → Prop}
variable (rules : EntryRules options.completionRule True True invariant)

include rules

theorem allocateAppended_keeps (run : RunRow) (input : AppendInput) (eventId : String)
    (own : run.runId = input.runId) : Keeps invariant (allocateAppended run input eventId) := by
  apply keeps_demand
  intro _
  cases written : input.payload.json with
  | none =>
    have numbering : Ensures invariant (nextEventSequence run.runId input.emittedAt)
        (fun _ _ => True) := fun _ _ _ _ _ => trivial
    refine ensures_bind numbering fun _ => ensures_expect_then ?_
    intro _ absent
    cases absent
  | some document =>
    rw [own]
    have entered : Keeps invariant
        (nextEventSequence input.runId input.emittedAt >>= fun sequence =>
          insertEvent (input.toRow document sequence eventId) >>= fun _ =>
            pure (input.toRow document sequence eventId)) :=
      keeps_pair (rules.entered (input.toRow document 0 eventId) (Or.inl trivial))
        fun _ _ => keeps_pure _
    exact entered

theorem append_keeps (input : AppendInput) {eventId : String} :
    Keeps invariant (appendEvent input eventId) := by
  apply keeps_bind (bounded_keeps _ _ _ _)
  intro _
  apply keeps_inspect
  intro store _
  apply keeps_expect
  intro run found
  have own : run.runId = input.runId := store.runs.key_of_find found
  split
  next => exact allocateAppended_keeps rules run input eventId own
  next key _ =>
    apply keeps_bind (bounded_keeps _ _ _ _)
    intro _
    split
    next existing _ => exact keeps_demand fun _ => keeps_pure existing
    next => exact allocateAppended_keeps rules run input eventId own

theorem openConversation_keeps (opened : Option ConversationInput) :
    Keeps invariant (openConversation options opened) := by
  cases opened with
  | none => exact keeps_pure ()
  | some conversation =>
    exact keeps_bind (authorize_keeps _) fun _ => rules.opened conversation

theorem appendApprovalToolResult_keeps (input : ApprovalAnswer) (now : Nat)
    (createId : Nat → String) : Keeps invariant (appendApprovalToolResult input now createId) := by
  apply keeps_inspect
  intro store _
  apply keeps_expect
  intro run _
  apply keeps_demand
  intro _
  apply keeps_expect
  intro attemptId _
  split
  next => exact keeps_demand_last _ _
  next =>
    refine keeps_bind (rules.spoken _ (Or.inl trivial)) fun _ => ?_
    refine keeps_bind (appendEvent_keeps rules.events _ _ (Or.inl trivial)) fun _ => ?_
    exact keeps_bind (appendEvent_keeps rules.events _ _ (Or.inl trivial)) fun _ => keeps_pure ()

theorem ledger_keeps (failing : ∀ input, input.status = .failed →
      Keeps invariant (updateRun options.completionRule input)) (tables : RunTables) (op : LedgerOp)
    (kept : OnLedger invariant tables) : OnLedger invariant (step options tables op) := by
  cases op with
  | appendEvent input call =>
    exact perform_keeps (onLedger_keeps (append_keeps rules input)) kept
  | sendSystem input call =>
    refine perform_keeps (onLedger_keeps (keeps_bind (validateSendInput_keeps input) ?_)) kept
    intro _
    exact sendWithRepositories_keeps rules input _ _ _ MessageRole.noConfusion
  | adoptIngress opened input call =>
    refine perform_keeps (onLedger_keeps (keeps_bind (openConversation_keeps rules opened) ?_)) kept
    intro _
    exact send_keeps rules input _ _
  | appendApprovalToolResult input call =>
    exact perform_keeps (onLedger_keeps (appendApprovalToolResult_keeps rules input _ _)) kept
  | other op =>
    refine step_keeps_entries rules tables op (fun _ => trivial) ?_ kept
    intro delegationId errorCode call isOp
    rw [isOp]
    have failed : Keeps (OnLedger invariant)
        (failChildBeforeStart options delegationId errorCode call.now call.createId) :=
      failChildBeforeStart_ensures rules (fun _ kept => kept) _ _ _ _
        fun _ _ _ input _ _ _ _ _ isFailed => failing input isFailed
    exact perform_keeps failed kept

end Rules

end OpenRill.Runs.LedgerAppends
