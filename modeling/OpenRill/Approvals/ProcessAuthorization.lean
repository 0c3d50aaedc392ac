import OpenRill.Approvals.ProcessManager

/-!
# Processes are authorized, and started once

A tool call is under way only when the policy allowed it, when a grant of its
conversation did, or when its own request was consumed, and all three stay true. What is
prepared and recorded belongs to such a call. A record is made once for a call and started
once, and a call is stored once for its run and tool call.
-/

namespace OpenRill.Approvals.ProcessAuthorization

open Lib Lib.Checked Lib.Runs Ledger Service ProcessManager

variable {options : ApprovalOptions} {host after before middle : ProcessHost} {call : ToolCallRow}
variable {toolExecutionId : String} {context : ToolContext} {now : Nat} {input : BindingInput}
variable {tables : ApprovalTables} {result : Json}

def PolicyAllowed (host : ProcessHost) (call : ToolCallRow) : Prop :=
  ∃ entry ∈ host.decisions, entry.toolExecutionId = call.toolExecutionId ∧
    entry.bindingDigest = call.bindingDigest ∧ entry.decision = .allow

def GrantAllowed (host : ProcessHost) (call : ToolCallRow) : Prop :=
  ∃ entry ∈ host.decisions, entry.toolExecutionId = call.toolExecutionId ∧
    entry.bindingDigest = call.bindingDigest ∧
    entry.conversationId = call.context.conversationId ∧
    hasConversationGrant host.tables entry.conversationId entry.fingerprint = true

def ApprovedInTime (request : ApprovalRow) : Prop :=
  ∃ resolvedAt decision, request.resolvedAt = some resolvedAt ∧
    resolvedAt < request.expiresAt ∧ request.decision = some decision ∧ decision ≠ .deny

def consumptionsOf (host : ProcessHost) (requestId : String) : List ConsumptionEntry :=
  host.consumptions.filter (fun entry => decide (entry.requestId = requestId))

/-- The request of the call was approved before it expired, and consumed once with the
binding digest of the call. -/
def RequestAllowed (host : ProcessHost) (call : ToolCallRow) : Prop :=
  ∃ requestId request, host.tables.approvals.find requestId = some request ∧
    request.toolExecutionId = call.toolExecutionId ∧ request.status = .consumed ∧
    ApprovedInTime request ∧
    consumptionsOf host requestId = [consumptionOf requestId call.bindingDigest]

def Authorized (host : ProcessHost) (call : ToolCallRow) : Prop :=
  PolicyAllowed host call ∨ GrantAllowed host call ∨ RequestAllowed host call

def startedFor (host : ProcessHost) (runId toolCallId : String) : List ProcessRef :=
  host.started.filter (fun reference =>
    decide (reference.runId = runId ∧ reference.toolCallId = toolCallId))

structure ProcessesAuthorized (host : ProcessHost) : Prop where
  once : ∀ runId toolCallId, (startedFor host runId toolCallId).length ≤ 1
  authorized : ∀ reference ∈ host.started, ∃ call,
    getToolCall host.tables reference.runId reference.toolCallId = some call ∧ Authorized host call
  denied : ∀ entry ∈ host.decisions, entry.decision = .deny → entry.granted = false

def FinalKept (before after : ProcessHost) : Prop :=
  ∀ requestId request, before.tables.approvals.find requestId = some request →
    request.status.final = true →
      ∃ later, after.tables.approvals.find requestId = some later ∧ later.status = request.status

section

variable (injective : Function.Injective options.sha256)

include injective

theorem members_of_digest {first second : Json}
    (same : approvalSha256 options first = approvalSha256 options second) (key text : String) :
    first.hasMember key (.text text) = second.hasMember key (.text text) := by
  have sameSorted : first.sorted = second.sorted := print_injective (injective same)
  rw [← hasMember_sorted first, sameSorted, hasMember_sorted second]

theorem decision_of_fingerprint {decision other : PolicyDecision}
    {subject otherSubject : PolicyRequest} {rule otherRule : Option ExecutionPolicyRule}
    (same : fingerprintOf options decision subject rule =
      fingerprintOf options other otherSubject otherRule) : decision = other := by
  have members := members_of_digest injective same "decision" decision.text
  apply PolicyDecision.text_injective
  simp [Json.hasMember] at members
  exact members.symm

theorem context_of_digest {first second : BindingInput}
    (same : (bindingOf options first).bindingDigest = (bindingOf options second).bindingDigest) :
    first.context = second.context := by
  have members := members_of_digest injective same
  have sameRun := members "runId" first.context.runId
  have sameAttempt := members "attemptId" first.context.attemptId
  have sameConversation := members "conversationId" first.context.conversationId
  have sameWorkspace := members "workspaceId" first.context.workspaceId
  have sameCall := members "toolCallId" first.context.toolCallId
  simp [Json.hasMember] at sameRun sameAttempt sameConversation sameWorkspace sameCall
  cases isFirst : first.context
  cases isSecond : second.context
  simp_all

end

def IsPrompt (options : ApprovalOptions) (fingerprint : String) : Prop :=
  ∃ subject rule, fingerprint = fingerprintOf options .prompt subject rule

theorem policy_fingerprint (options : ApprovalOptions) (input : BindingInput) :
    ∃ subject rule, (policyOf options input).fingerprint =
      fingerprintOf options (policyOf options input).decision subject rule :=
  ⟨_, _, rfl⟩

theorem prompt_of_decision (asks : (policyOf options input).decision = .prompt) :
    IsPrompt options (policyOf options input).fingerprint := by
  obtain ⟨subject, rule, isFingerprint⟩ := policy_fingerprint options input
  rw [asks] at isFingerprint
  exact ⟨subject, rule, isFingerprint⟩

theorem decision_of_prompt (injective : Function.Injective options.sha256)
    (asked : IsPrompt options (policyOf options input).fingerprint) :
    (policyOf options input).decision = .prompt := by
  obtain ⟨subject, rule, isFingerprint⟩ := policy_fingerprint options input
  obtain ⟨otherSubject, otherRule, same⟩ := asked
  exact decision_of_fingerprint injective same

/-- What a step leaves of the calls, of the final requests, of the grants, and of what was
recorded. -/
structure Grown (before after : ProcessHost) : Prop where
  calls : ∀ toolExecutionId call, before.tables.toolCalls.find toolExecutionId = some call →
    ∃ later, after.tables.toolCalls.find toolExecutionId = some later ∧
      later.context = call.context ∧ later.bindingDigest = call.bindingDigest
  requests : ∀ requestId request, before.tables.approvals.find requestId = some request →
    request.status.final = true → after.tables.approvals.find requestId = some request
  grants : ∀ conversationId fingerprint,
    hasConversationGrant before.tables conversationId fingerprint = true →
      hasConversationGrant after.tables conversationId fingerprint = true
  decisions : ∀ entry ∈ before.decisions, entry ∈ after.decisions
  consumptions : ∀ requestId request, before.tables.approvals.find requestId = some request →
    request.status.final = true → consumptionsOf after requestId = consumptionsOf before requestId

theorem Grown.refl (host : ProcessHost) : Grown host host where
  calls _ call found := ⟨call, found, rfl, rfl⟩
  requests _ _ found _ := found
  grants _ _ granted := granted
  decisions _ entryIn := entryIn
  consumptions _ _ _ _ := rfl

theorem Grown.trans (first : Grown before middle) (second : Grown middle after) :
    Grown before after where
  calls := by
    intro toolExecutionId call found
    obtain ⟨later, foundLater, sameContext, sameDigest⟩ := first.calls toolExecutionId call found
    obtain ⟨last, foundLast, lastContext, lastDigest⟩ :=
      second.calls toolExecutionId later foundLater
    exact ⟨last, foundLast, lastContext.trans sameContext, lastDigest.trans sameDigest⟩
  requests := by
    intro requestId request found isFinal
    exact second.requests requestId request (first.requests requestId request found isFinal) isFinal
  grants := by
    intro conversationId fingerprint granted
    exact second.grants _ _ (first.grants conversationId fingerprint granted)
  decisions := by
    intro entry entryIn
    exact second.decisions entry (first.decisions entry entryIn)
  consumptions := by
    intro requestId request found isFinal
    have stays := first.requests requestId request found isFinal
    exact (second.consumptions requestId request stays isFinal).trans
      (first.consumptions requestId request found isFinal)

theorem finalKept_of_grown (grown : Grown before after) : FinalKept before after :=
  fun requestId request found isFinal =>
    ⟨request, grown.requests requestId request found isFinal, rfl⟩

theorem authorized_grown (grown : Grown before after) {later : ToolCallRow}
    (sameId : later.toolExecutionId = call.toolExecutionId)
    (sameContext : later.context = call.context)
    (sameDigest : later.bindingDigest = call.bindingDigest) (authorized : Authorized before call) :
    Authorized after later := by
  rcases authorized with allowed | allowed | allowed
  · obtain ⟨entry, entryIn, ofCall, ofBinding, decides⟩ := allowed
    refine Or.inl ⟨entry, grown.decisions entry entryIn, ?_, ?_, decides⟩
    · rw [sameId]
      exact ofCall
    · rw [sameDigest]
      exact ofBinding
  · obtain ⟨entry, entryIn, ofCall, ofBinding, ofConversation, granted⟩ := allowed
    refine Or.inr (Or.inl ⟨entry, grown.decisions entry entryIn, ?_, ?_, ?_,
      grown.grants _ _ granted⟩)
    · rw [sameId]
      exact ofCall
    · rw [sameDigest]
      exact ofBinding
    · rw [sameContext]
      exact ofConversation
  · obtain ⟨requestId, request, found, ofCall, isConsumed, inTime, consumedOnce⟩ := allowed
    have isFinal : request.status.final = true := by
      rw [isConsumed]
      rfl
    refine Or.inr (Or.inr ⟨requestId, request, grown.requests requestId request found isFinal,
      ?_, isConsumed, inTime, ?_⟩)
    · rw [sameId]
      exact ofCall
    · rw [grown.consumptions requestId request found isFinal, sameDigest]
      exact consumedOnce

def Held (host : ProcessHost) (toolExecutionId : String) (context : ToolContext) : Prop :=
  ∃ call, host.tables.toolCalls.find toolExecutionId = some call ∧ call.context = context ∧
    Authorized host call

theorem held_grown (grown : Grown before after) (held : Held before toolExecutionId context) :
    Held after toolExecutionId context := by
  obtain ⟨call, found, isContext, authorized⟩ := held
  obtain ⟨later, foundLater, sameContext, sameDigest⟩ := grown.calls toolExecutionId call found
  have sameId : later.toolExecutionId = call.toolExecutionId := by
    rw [before.tables.toolCalls.key_of_find found]
    exact after.tables.toolCalls.key_of_find foundLater
  exact ⟨later, foundLater, sameContext.trans isContext,
    authorized_grown grown sameId sameContext sameDigest authorized⟩

variable {reached : ProcessHost}

def Bound (options : ApprovalOptions) (call : ToolCallRow) : Prop :=
  ∃ input, input.context = call.context ∧
    call.bindingDigest = (bindingOf options input).bindingDigest

structure CallsSound (options : ApprovalOptions) (host : ProcessHost) : Prop where
  once : ∀ first ∈ host.tables.toolCalls.rows, ∀ second ∈ host.tables.toolCalls.rows,
    first.context.runId = second.context.runId →
      first.context.toolCallId = second.context.toolCallId → first = second
  bound : ∀ call ∈ host.tables.toolCalls.rows, Bound options call
  underway : ∀ call ∈ host.tables.toolCalls.rows,
    call.status = .running ∨ call.status = .completed → Authorized host call

structure RequestsSound (options : ApprovalOptions) (host : ProcessHost) : Prop where
  owned : ∀ request ∈ host.tables.approvals.rows, ∃ call,
    host.tables.toolCalls.find request.toolExecutionId = some call ∧
      call.context = request.context ∧ call.bindingDigest = request.bindingDigest ∧
      request.continuation.context = request.context
  prompts : ∀ request ∈ host.tables.approvals.rows, IsPrompt options request.policyFingerprint
  grants : ∀ grant ∈ host.tables.grants.rows, IsPrompt options grant.policyFingerprint
  approved : ∀ request ∈ host.tables.approvals.rows,
    request.status = .approved ∨ request.status = .consumed → ApprovedInTime request
  consumed : ∀ request ∈ host.tables.approvals.rows,
    consumptionsOf host request.requestId =
      if request.status = .consumed then [consumptionOf request.requestId request.bindingDigest]
      else []
  unconsumed : ∀ requestId, host.tables.approvals.find requestId = none →
    consumptionsOf host requestId = []

structure ExecutionsSound (host : ProcessHost) : Prop where
  allowed : ∀ execution ∈ host.allowed, Held host execution.toolExecutionId execution.context
  prepared : ∀ execution ∈ host.prepared, Held host execution.toolExecutionId execution.context
  processes : ∀ row ∈ host.tables.processes.rows, Held host row.toolExecutionId row.context
  recordedOnce : ∀ first ∈ host.tables.processes.rows, ∀ second ∈ host.tables.processes.rows,
    first.toolExecutionId = second.toolExecutionId → first = second
  references : ∀ reference ∈ host.recorded ++ host.started,
    ∃ row ∈ host.tables.processes.rows, processRef row = reference
  distinct : ((host.recorded ++ host.started).map ProcessRef.processId).Nodup

structure Sound (options : ApprovalOptions) (host : ProcessHost) : Prop where
  calls : CallsSound options host
  requests : RequestsSound options host
  executions : ExecutionsSound host
  granted : ∀ entry ∈ host.decisions, entry.granted = true → entry.decision = .prompt

theorem sound_empty (options : ApprovalOptions) : Sound options ProcessHost.empty := by
  constructor
  · constructor
    all_goals simp [ProcessHost.empty, ApprovalTables.empty, Table.empty]
  · constructor
    all_goals simp [ProcessHost.empty, ApprovalTables.empty, Table.empty, consumptionsOf]
  · constructor
    all_goals simp [ProcessHost.empty, ApprovalTables.empty, Table.empty]
  · simp [ProcessHost.empty]

theorem callsSound_grown (grown : Grown before after)
    (same : after.tables.toolCalls = before.tables.toolCalls) (sound : CallsSound options before) :
    CallsSound options after := by
  constructor
  · rw [same]
    exact sound.once
  · rw [same]
    exact sound.bound
  · rw [same]
    intro call callIn live
    exact authorized_grown grown rfl rfl rfl (sound.underway call callIn live)

theorem requestsSound_grown (grown : Grown before after)
    (sameApprovals : after.tables.approvals = before.tables.approvals)
    (sameGrants : after.tables.grants = before.tables.grants)
    (sameConsumptions : after.consumptions = before.consumptions)
    (sound : RequestsSound options before) : RequestsSound options after := by
  have sameEntries : ∀ requestId, consumptionsOf after requestId =
      consumptionsOf before requestId := by
    intro requestId
    unfold consumptionsOf
    rw [sameConsumptions]
  constructor
  · rw [sameApprovals]
    intro request requestIn
    obtain ⟨owner, found, isContext, isDigest, continues⟩ := sound.owned request requestIn
    obtain ⟨later, foundLater, laterContext, laterDigest⟩ := grown.calls _ owner found
    exact ⟨later, foundLater, laterContext.trans isContext, laterDigest.trans isDigest, continues⟩
  · rw [sameApprovals]
    exact sound.prompts
  · rw [sameGrants]
    exact sound.grants
  · rw [sameApprovals]
    exact sound.approved
  · rw [sameApprovals]
    intro request requestIn
    rw [sameEntries]
    exact sound.consumed request requestIn
  · rw [sameApprovals]
    intro requestId missed
    rw [sameEntries]
    exact sound.unconsumed requestId missed

/-- The tables of processes and the executions in memory, apart from the rest. -/
structure SameExecutions (before after : ProcessHost) : Prop where
  processes : after.tables.processes = before.tables.processes
  allowed : after.allowed = before.allowed
  prepared : after.prepared = before.prepared
  recorded : after.recorded = before.recorded
  started : after.started = before.started

theorem executionsSound_grown (grown : Grown before after) (same : SameExecutions before after)
    (sound : ExecutionsSound before) : ExecutionsSound after := by
  constructor
  · rw [same.allowed]
    intro execution executionIn
    exact held_grown grown (sound.allowed execution executionIn)
  · rw [same.prepared]
    intro execution executionIn
    exact held_grown grown (sound.prepared execution executionIn)
  · rw [same.processes]
    intro row rowIn
    exact held_grown grown (sound.processes row rowIn)
  · rw [same.processes]
    exact sound.recordedOnce
  · rw [same.processes, same.recorded, same.started]
    exact sound.references
  · rw [same.recorded, same.started]
    exact sound.distinct

def Moves (options : ApprovalOptions) (host reached : ProcessHost) : Prop :=
  Sound options reached ∧ Grown host reached

theorem moves_refl (sound : Sound options host) : Moves options host host :=
  ⟨sound, Grown.refl host⟩

theorem moves_trans (first : Moves options host middle)
    (second : Sound options middle → Moves options middle reached) : Moves options host reached :=
  ⟨(second first.1).1, first.2.trans (second first.1).2⟩

variable {toolCalls : Table ToolCallRow.toolExecutionId}

def withTables (host : ProcessHost) (tables : ApprovalTables) : ProcessHost :=
  { host with tables := tables }

def withCalls (host : ProcessHost) (toolCalls : Table ToolCallRow.toolExecutionId) :
    ProcessHost :=
  withTables host { host.tables with toolCalls := toolCalls }

theorem withCalls_moves (sound : Sound options host) (grown : Grown host (withCalls host toolCalls))
    (calls : CallsSound options (withCalls host toolCalls)) :
    Moves options host (withCalls host toolCalls) := by
  refine ⟨?_, grown⟩
  constructor
  · exact calls
  · exact requestsSound_grown grown rfl rfl rfl sound.requests
  · exact executionsSound_grown grown ⟨rfl, rfl, rfl, rfl, rfl⟩ sound.executions
  · exact sound.granted

def callMark (call : ToolCallRow) : String × String :=
  (call.context.runId, call.context.toolCallId)

theorem once_of_callsSound (sound : CallsSound options host) :
    ∀ first ∈ host.tables.toolCalls.rows, ∀ second ∈ host.tables.toolCalls.rows,
      callMark first = callMark second → first = second :=
  fun first firstIn second secondIn same =>
    sound.once first firstIn second secondIn (Prod.mk.inj same).1 (Prod.mk.inj same).2

theorem rewriteCall_moves (sound : Sound options host) (row : ToolCallRow)
    (present : host.tables.toolCalls.find row.toolExecutionId = some call)
    (sameContext : row.context = call.context)
    (sameDigest : row.bindingDigest = call.bindingDigest)
    (fair : row.status = .running ∨ row.status = .completed → Authorized host call) :
    Moves options host (withCalls host (host.tables.toolCalls.update row)) := by
  have sameId : row.toolExecutionId = call.toolExecutionId :=
    (host.tables.toolCalls.key_of_find present).symm
  have callIn := host.tables.toolCalls.mem_of_find present
  have grown : Grown host (withCalls host (host.tables.toolCalls.update row)) :=
    { calls := fun _ _ found => host.tables.toolCalls.related_update row present
        (fun later other => later.context = other.context ∧
          later.bindingDigest = other.bindingDigest)
        (fun _ => ⟨rfl, rfl⟩) ⟨sameContext, sameDigest⟩ found
      requests := fun _ _ found _ => found
      grants := fun _ _ granted => granted
      decisions := fun _ entryIn => entryIn
      consumptions := fun _ _ _ _ => rfl }
  apply withCalls_moves sound grown
  constructor
  · have once := host.tables.toolCalls.once_update row present callMark
      (by rw [callMark, sameContext]; rfl) (once_of_callsSound sound.calls)
    intro first firstIn second secondIn sameRun sameCallId
    exact once first firstIn second secondIn (Prod.ext sameRun sameCallId)
  · obtain ⟨input, isContext, isDigest⟩ := sound.calls.bound call callIn
    exact host.tables.toolCalls.forall_update row present
      ⟨input, isContext.trans sameContext.symm, sameDigest.trans isDigest⟩
      fun other otherIn _ => sound.calls.bound other otherIn
  · refine host.tables.toolCalls.forall_update row present ?_ ?_
    · intro live
      exact authorized_grown grown sameId sameContext sameDigest (fair live)
    · intro other otherIn _ live
      exact authorized_grown grown rfl rfl rfl (sound.calls.underway other otherIn live)

theorem insertCall_moves (sound : Sound options host) (row : ToolCallRow)
    (inserted : host.tables.toolCalls.insert row = some toolCalls)
    (free : getToolCall host.tables row.context.runId row.context.toolCallId = none)
    (bound : Bound options row) (idle : ¬ (row.status = .running ∨ row.status = .completed)) :
    Moves options host (withCalls host toolCalls) := by
  have others : ∀ other ∈ host.tables.toolCalls.rows, callMark other ≠ callMark row := by
    intro other otherIn same
    apply List.find?_eq_none.mp free other otherIn
    exact decide_eq_true (Prod.mk.inj same)
  have grown : Grown host (withCalls host toolCalls) :=
    { calls := fun _ other found => ⟨other,
        host.tables.toolCalls.kept_insert toolCalls row inserted found, rfl, rfl⟩
      requests := fun _ _ found _ => found
      grants := fun _ _ granted => granted
      decisions := fun _ entryIn => entryIn
      consumptions := fun _ _ _ _ => rfl }
  apply withCalls_moves sound grown
  constructor
  · have once := host.tables.toolCalls.once_insert toolCalls row inserted callMark others
      (once_of_callsSound sound.calls)
    intro first firstIn second secondIn sameRun sameCall
    exact once first firstIn second secondIn (Prod.ext sameRun sameCall)
  · exact host.tables.toolCalls.forall_insert toolCalls row inserted bound sound.calls.bound
  · refine host.tables.toolCalls.forall_insert toolCalls row inserted
      (fun live => absurd live idle) ?_
    intro other otherIn live
    exact authorized_grown grown rfl rfl rfl (sound.calls.underway other otherIn live)

variable {request : ApprovalRow}

def withRequests (host : ProcessHost) (approvals : Table ApprovalRow.requestId) : ProcessHost :=
  withTables host { host.tables with approvals := approvals }

theorem requests_moves (sound : Sound options host) (grown : Grown host after)
    (sameCalls : after.tables.toolCalls = host.tables.toolCalls) (same : SameExecutions host after)
    (sameDecisions : after.decisions = host.decisions) (requests : RequestsSound options after) :
    Moves options host after := by
  refine ⟨?_, grown⟩
  constructor
  · exact callsSound_grown grown sameCalls sound.calls
  · exact requests
  · exact executionsSound_grown grown same sound.executions
  · rw [sameDecisions]
    exact sound.granted

theorem insertRequest_moves (sound : Sound options host) (row : ApprovalRow)
    {approvals : Table ApprovalRow.requestId}
    (inserted : host.tables.approvals.insert row = some approvals)
    (found : host.tables.toolCalls.find row.toolExecutionId = some call)
    (ofCall : call.context = row.context ∧ call.bindingDigest = row.bindingDigest)
    (continues : row.continuation.context = row.context)
    (asks : IsPrompt options row.policyFingerprint) (isPending : row.status = .pending) :
    Moves options host (withRequests host approvals) := by
  have lookup := fun wanted => host.tables.approvals.find_insert approvals row wanted inserted
  have every := fun {Holds : ApprovalRow → Prop} =>
    @Table.forall_insert _ _ _ _ host.tables.approvals approvals row inserted Holds
  have absent : host.tables.approvals.find row.requestId = none :=
    (host.tables.approvals.find_none_iff row.requestId).mpr
      ((host.tables.approvals.insert_some_iff approvals row).mp inserted).1
  have grown : Grown host (withRequests host approvals) :=
    { calls := fun _ call found => ⟨call, found, rfl, rfl⟩
      requests := fun _ _ found _ =>
        host.tables.approvals.kept_insert approvals row inserted found
      grants := fun _ _ granted => granted
      decisions := fun _ entryIn => entryIn
      consumptions := fun _ _ _ _ => rfl }
  apply requests_moves sound grown rfl ⟨rfl, rfl, rfl, rfl, rfl⟩ rfl
  constructor
  · exact every ⟨call, found, ofCall.1, ofCall.2, continues⟩ sound.requests.owned
  · exact every asks sound.requests.prompts
  · exact sound.requests.grants
  · refine every (fun resolved => ?_) sound.requests.approved
    rw [isPending] at resolved
    simp at resolved
  · refine every ?_ sound.requests.consumed
    rw [isPending]
    exact sound.requests.unconsumed row.requestId absent
  · intro wanted missed
    have missedThere := (lookup wanted).symm.trans missed
    split at missedThere
    next => cases missedThere
    next => exact sound.requests.unconsumed wanted missedThere

structure SameRequest (row request : ApprovalRow) : Prop where
  requestId : row.requestId = request.requestId
  toolExecutionId : row.toolExecutionId = request.toolExecutionId
  context : row.context = request.context
  bindingDigest : row.bindingDigest = request.bindingDigest
  fingerprint : row.policyFingerprint = request.policyFingerprint
  continuation : row.continuation = request.continuation

def rewritten (host : ProcessHost) (row : ApprovalRow) (entries : List ConsumptionEntry) :
    ProcessHost :=
  { withRequests host (host.tables.approvals.update row) with
    consumptions := host.consumptions ++ entries }

section

variable (sound : Sound options host) (row : ApprovalRow) (present : host.tables.approvals.find
  row.requestId = some request) (same : SameRequest row request) (isOpen : request.status.final =
  false)

include sound row present same isOpen

theorem rewriteRequest_moves
    (inTime : row.status = .approved ∨ row.status = .consumed → ApprovedInTime row)
    (entries : List ConsumptionEntry) (isEntries : entries =
      if row.status = .consumed then [consumptionOf row.requestId row.bindingDigest] else []) :
    Moves options host (rewritten host row entries) := by
  have lookup := host.tables.approvals.find_update row present
  have every := fun {Holds : ApprovalRow → Prop} =>
    @Table.forall_update _ _ _ _ host.tables.approvals row _ present Holds
  have requestIn := host.tables.approvals.mem_of_find present
  have unconsumedBefore : consumptionsOf host row.requestId = [] := by
    have before := sound.requests.consumed request requestIn
    rw [← same.requestId] at before
    rw [before]
    apply if_neg
    intro isConsumed
    rw [isConsumed] at isOpen
    cases isOpen
  have entriesOf : ∀ wanted, consumptionsOf (rewritten host row entries) wanted =
      consumptionsOf host wanted ++ if row.requestId = wanted then entries else [] := by
    intro wanted
    unfold consumptionsOf rewritten
    congr 1
    rw [isEntries]
    by_cases isConsumed : row.status = .consumed
    · by_cases own : row.requestId = wanted
      · simp [isConsumed, own, consumptionOf]
      · simp [isConsumed, own, consumptionOf]
    · simp [isConsumed]
  have otherEntries : ∀ wanted, ¬ row.requestId = wanted →
      consumptionsOf (rewritten host row entries) wanted = consumptionsOf host wanted := by
    intro wanted different
    rw [entriesOf, if_neg different, List.append_nil]
  have closed : ∀ wanted other, host.tables.approvals.find wanted = some other →
      other.status.final = true → ¬ row.requestId = wanted := by
    intro wanted other found isFinal own
    rw [own, found] at present
    rw [Option.some.inj present, isOpen] at isFinal
    cases isFinal
  have grown : Grown host (rewritten host row entries) :=
    { calls := fun _ call found => ⟨call, found, rfl, rfl⟩
      requests := fun wanted other found isFinal =>
        ((lookup wanted).trans (if_neg (closed wanted other found isFinal))).trans found
      grants := fun _ _ granted => granted
      decisions := fun _ entryIn => entryIn
      consumptions := fun wanted other found isFinal =>
        otherEntries wanted (closed wanted other found isFinal) }
  apply requests_moves sound grown rfl ⟨rfl, rfl, rfl, rfl, rfl⟩ rfl
  constructor
  · refine every ?_ (fun other otherIn _ => sound.requests.owned other otherIn)
    rw [same.toolExecutionId, same.context, same.bindingDigest, same.continuation]
    exact sound.requests.owned request requestIn
  · refine every ?_ (fun other otherIn _ => sound.requests.prompts other otherIn)
    rw [same.fingerprint]
    exact sound.requests.prompts request requestIn
  · exact sound.requests.grants
  · exact every inTime fun other otherIn _ => sound.requests.approved other otherIn
  · refine every ?_ (fun other otherIn different => ?_)
    · rw [entriesOf, unconsumedBefore, if_pos rfl, isEntries]
      rfl
    · rw [otherEntries other.requestId fun own => different own.symm]
      exact sound.requests.consumed other otherIn
  · intro wanted missed
    have missedThere := (lookup wanted).symm.trans missed
    split at missedThere
    next => cases missedThere
    next different =>
      rw [otherEntries wanted different]
      exact sound.requests.unconsumed wanted missedThere

theorem moveRequest_moves (unconsumed : row.status ≠ .consumed)
    (inTime : row.status = .approved → ApprovedInTime row) :
    Moves options host (withTables host (writeApproval host.tables row)) := by
  have moved := rewriteRequest_moves sound row present same isOpen
    (fun resolved => inTime (resolved.resolve_right unconsumed)) [] (if_neg unconsumed).symm
  unfold rewritten at moved
  rw [List.append_nil] at moved
  exact moved

end

theorem insertGrant_moves (sound : Sound options host) (row : GrantRow)
    (asks : IsPrompt options row.policyFingerprint) :
    Moves options host (withTables host (insertConversationGrant host.tables row)) := by
  unfold insertConversationGrant
  cases inserted : host.tables.grants.insert row with
  | none => exact moves_refl sound
  | some grants =>
    have lookup := fun wanted => host.tables.grants.find_insert grants row wanted inserted
    have grown : Grown host (withTables host { host.tables with grants := grants }) :=
      { calls := fun _ call found => ⟨call, found, rfl, rfl⟩
        requests := fun _ _ found _ => found
        grants := by
          intro conversationId fingerprint granted
          have found := lookup (conversationId, fingerprint)
          by_cases own : row.key = (conversationId, fingerprint)
          · rw [if_pos own] at found
            exact Option.isSome_iff_exists.mpr ⟨row, found⟩
          · rw [if_neg own] at found
            exact (congrArg Option.isSome found).trans granted
        decisions := fun _ entryIn => entryIn
        consumptions := fun _ _ _ _ => rfl }
    apply requests_moves sound grown rfl ⟨rfl, rfl, rfl, rfl, rfl⟩ rfl
    constructor
    · exact sound.requests.owned
    · exact sound.requests.prompts
    · exact host.tables.grants.forall_insert grants row inserted asks sound.requests.grants
    · exact sound.requests.approved
    · exact sound.requests.consumed
    · exact sound.requests.unconsumed

theorem authorized_of_held (held : Held host toolExecutionId context)
    (found : host.tables.toolCalls.find toolExecutionId = some call) : Authorized host call := by
  obtain ⟨other, foundOther, -, authorized⟩ := held
  rw [Option.some.inj (found.symm.trans foundOther)]
  exact authorized

section

variable (sound : Sound options host)

include sound

theorem executions_moves (sameCalls : after.tables.toolCalls = host.tables.toolCalls)
    (sameApprovals : after.tables.approvals = host.tables.approvals)
    (sameGrants : after.tables.grants = host.tables.grants)
    (sameDecisions : after.decisions = host.decisions)
    (sameConsumptions : after.consumptions = host.consumptions)
    (executions : Grown host after → ExecutionsSound after) : Moves options host after := by
  have grown : Grown host after :=
    { calls := by
        rw [sameCalls]
        exact fun _ call found => ⟨call, found, rfl, rfl⟩
      requests := by
        rw [sameApprovals]
        exact fun _ _ found _ => found
      grants := by
        unfold hasConversationGrant
        rw [sameGrants]
        exact fun _ _ granted => granted
      decisions := by
        rw [sameDecisions]
        exact fun _ entryIn => entryIn
      consumptions := by
        unfold consumptionsOf
        rw [sameConsumptions]
        exact fun _ _ _ _ => rfl }
  refine ⟨?_, grown⟩
  constructor
  · exact callsSound_grown grown sameCalls sound.calls
  · exact requestsSound_grown grown sameApprovals sameGrants sameConsumptions sound.requests
  · exact executions grown
  · rw [sameDecisions]
    exact sound.granted

theorem handOver_moves (allowed prepared : List PreparedExecution) (recorded : List ProcessRef)
    (fromAllowed : ∀ execution ∈ allowed, Held host execution.toolExecutionId execution.context)
    (fromPrepared : ∀ execution ∈ prepared, Held host execution.toolExecutionId execution.context)
    (fromRecorded : recorded.Sublist host.recorded) :
    Moves options host
      { host with allowed := allowed, prepared := prepared, recorded := recorded } := by
  refine executions_moves sound rfl rfl rfl rfl rfl ?_
  intro grown
  have fewer : (recorded ++ host.started).Sublist (host.recorded ++ host.started) :=
    List.Sublist.append_right fromRecorded host.started
  constructor
  · intro execution executionIn
    exact held_grown grown (fromAllowed execution executionIn)
  · intro execution executionIn
    exact held_grown grown (fromPrepared execution executionIn)
  · intro row rowIn
    exact held_grown grown (sound.executions.processes row rowIn)
  · exact sound.executions.recordedOnce
  · intro reference referenceIn
    exact sound.executions.references reference (fewer.subset referenceIn)
  · exact sound.executions.distinct.sublist (fewer.map ProcessRef.processId)

theorem rewriteProcess_moves (row : ProcessRow) {current : ProcessRow}
    (present : host.tables.processes.find row.processId = some current)
    (sameCall : row.toolExecutionId = current.toolExecutionId)
    (sameContext : row.context = current.context) :
    Moves options host
      (withTables host { host.tables with processes := host.tables.processes.update row }) := by
  have written := host.tables.processes.mem_update_iff row present
  have currentIn := host.tables.processes.mem_of_find present
  have sameId : row.processId = current.processId :=
    (host.tables.processes.key_of_find present).symm
  have sameRef : processRef row = processRef current := by
    unfold processRef
    rw [sameId, sameCall, sameContext]
  refine executions_moves sound rfl rfl rfl rfl rfl ?_
  intro grown
  constructor
  · intro execution executionIn
    exact held_grown grown (sound.executions.allowed execution executionIn)
  · intro execution executionIn
    exact held_grown grown (sound.executions.prepared execution executionIn)
  · refine host.tables.processes.forall_update row present ?_ (fun other otherIn _ =>
      held_grown grown (sound.executions.processes other otherIn))
    rw [sameCall, sameContext]
    exact held_grown grown (sound.executions.processes current currentIn)
  · exact host.tables.processes.once_update row present ProcessRow.toolExecutionId sameCall
      sound.executions.recordedOnce
  · intro reference referenceIn
    obtain ⟨other, otherIn, isReference⟩ := sound.executions.references reference referenceIn
    by_cases own : other.processId = row.processId
    · refine ⟨row, (written row).mpr (Or.inl rfl), ?_⟩
      have isCurrent : other = current :=
        host.tables.processes.row_unique otherIn currentIn (own.trans sameId)
      rw [sameRef, ← isCurrent]
      exact isReference
    · exact ⟨other, (written other).mpr (Or.inr ⟨otherIn, own⟩), isReference⟩
  · exact sound.executions.distinct

theorem recordProcess_moves (index : Nat) (processId : String) (now : Nat) :
    Moves options host (recordProcess host index processId now) := by
  unfold recordProcess
  cases isExecution : host.prepared[index]? with
  | none => exact moves_refl sound
  | some execution =>
    have executionIn : execution ∈ host.prepared := List.mem_of_getElem? isExecution
    have kept : ∀ other ∈ host.prepared.eraseIdx index,
        Held host other.toolExecutionId other.context := by
      intro other otherIn
      exact sound.executions.prepared other (List.mem_of_mem_eraseIdx otherIn)
    cases done : insertProcess host.tables (processRow execution processId now) with
    | error failure =>
      dsimp only
      rw [done]
      exact handOver_moves sound host.allowed (host.prepared.eraseIdx index) host.recorded
        sound.executions.allowed kept (List.Sublist.refl _)
    | ok tables =>
      dsimp only
      rw [done]
      simp only [insertProcess, bind_ok_iff, require_ok_iff, fetch_ok_iff, pure_ok_iff,
        exists_and_left, exists_const] at done
      obtain ⟨free, -, processes, inserted, isTables⟩ := done
      have written := host.tables.processes.mem_insert_iff processes _ inserted
      have fresh := ((host.tables.processes.insert_some_iff processes _).mp inserted).1
      rw [← isTables]
      refine executions_moves sound rfl rfl rfl rfl rfl ?_
      intro grown
      constructor
      · intro other otherIn
        exact held_grown grown (sound.executions.allowed other otherIn)
      · intro other otherIn
        exact held_grown grown (kept other otherIn)
      · exact host.tables.processes.forall_insert processes _ inserted
          (held_grown grown (sound.executions.prepared execution executionIn))
          fun row rowIn => held_grown grown (sound.executions.processes row rowIn)
      · refine host.tables.processes.once_insert processes _ inserted ProcessRow.toolExecutionId
          ?_ sound.executions.recordedOnce
        intro row rowIn sameCall
        exact List.find?_eq_none.mp free row rowIn (decide_eq_true sameCall)
      · intro reference referenceIn
        rw [List.append_assoc, List.mem_append, List.mem_append, List.mem_singleton] at referenceIn
        rcases referenceIn with recordedThere | isNew | startedThere
        · obtain ⟨row, rowIn, isReference⟩ := sound.executions.references reference
            (List.mem_append_left _ recordedThere)
          exact ⟨row, (written row).mpr (Or.inl rowIn), isReference⟩
        · exact ⟨_, (written _).mpr (Or.inr rfl), isNew.symm⟩
        · obtain ⟨row, rowIn, isReference⟩ := sound.executions.references reference
            (List.mem_append_right _ startedThere)
          exact ⟨row, (written row).mpr (Or.inl rowIn), isReference⟩
      · have moved : (host.recorded ++ [processRef (processRow execution processId now)] ++
            host.started).Perm
            (processRef (processRow execution processId now) ::
              (host.recorded ++ host.started)) := by
          rw [List.append_assoc]
          exact List.perm_middle
        rw [(moved.map ProcessRef.processId).nodup_iff, List.map_cons, List.nodup_cons]
        refine ⟨?_, sound.executions.distinct⟩
        intro taken
        obtain ⟨reference, referenceIn, sameId⟩ := List.mem_map.mp taken
        obtain ⟨row, rowIn, isReference⟩ := sound.executions.references reference referenceIn
        rw [← isReference] at sameId
        exact fresh row rowIn sameId

theorem startProcess_moves (index : Nat) : Moves options host (startProcess host index) := by
  unfold startProcess
  cases isReference : host.recorded[index]? with
  | none => exact moves_refl sound
  | some reference =>
    have moved : (host.recorded.eraseIdx index ++ (host.started ++ [reference])).Perm
        (host.recorded ++ host.started) := by
      have split : host.recorded.Perm (reference :: host.recorded.eraseIdx index) := by
        obtain ⟨inside, isElement⟩ := List.getElem?_eq_some_iff.mp isReference
        rw [← isElement]
        exact (List.getElem_cons_eraseIdx_perm inside).symm
      have swapped : (host.recorded.eraseIdx index ++ (host.started ++ [reference])).Perm
          (host.started ++ (reference :: host.recorded.eraseIdx index)) := by
        have regrouped : host.started ++ (reference :: host.recorded.eraseIdx index) =
            (host.started ++ [reference]) ++ host.recorded.eraseIdx index := by
          simp
        rw [regrouped]
        exact List.perm_append_comm
      exact (swapped.trans (split.symm.append_left host.started)).trans List.perm_append_comm
    refine executions_moves sound rfl rfl rfl rfl rfl ?_
    intro grown
    constructor
    · intro execution executionIn
      exact held_grown grown (sound.executions.allowed execution executionIn)
    · intro execution executionIn
      exact held_grown grown (sound.executions.prepared execution executionIn)
    · intro row rowIn
      exact held_grown grown (sound.executions.processes row rowIn)
    · exact sound.executions.recordedOnce
    · intro other otherIn
      exact sound.executions.references other (moved.mem_iff.mp otherIn)
    · exact ((moved.map ProcessRef.processId).nodup_iff).mpr sound.executions.distinct

end

theorem markOrphaned_moves (now : Nat) (rows : List ProcessRow) (host : ProcessHost)
    (sound : Sound options host)
    (listed : ∀ row ∈ rows, ∃ current, host.tables.processes.find row.processId = some current ∧
      row.toolExecutionId = current.toolExecutionId ∧ row.context = current.context) :
    Moves options host (withTables host (markOrphaned now host.tables rows)) := by
  induction rows generalizing host with
  | nil => exact moves_refl sound
  | cons row rows ih =>
    obtain ⟨current, present, sameCall, sameContext⟩ := listed row (List.mem_cons_self ..)
    have first := rewriteProcess_moves sound (row.orphanedAt now) present sameCall sameContext
    apply moves_trans first
    intro soundNext
    apply ih _ soundNext
    intro other otherIn
    obtain ⟨found, presentOther, sameOther, sameOtherContext⟩ :=
      listed other (List.mem_cons_of_mem _ otherIn)
    rw [sameOther, sameOtherContext]
    exact host.tables.processes.related_update (row.orphanedAt now) present
      (fun later other => other.toolExecutionId = later.toolExecutionId ∧
        other.context = later.context)
      (fun _ => ⟨rfl, rfl⟩) ⟨sameCall.symm, sameContext.symm⟩ presentOther

theorem restart_moves (sound : Sound options host) (now : Nat) :
    Moves options host (step options host (.restart now)) := by
  have orphaned : Moves options host
      (withTables host (markActiveProcessesOrphaned host.tables now)) := by
    apply markOrphaned_moves now _ host sound
    intro row rowIn
    have stored := (List.mem_filter.mp rowIn).1
    exact ⟨row, host.tables.processes.find_of_mem stored, rfl, rfl⟩
  apply moves_trans orphaned
  intro soundNext
  exact handOver_moves soundNext [] [] [] (fun _ nothing => by cases nothing)
    (fun _ nothing => by cases nothing) (List.nil_sublist _)

theorem updateProcess_moves (sound : Sound options host) (input : ProcessUpdate) :
    Moves options host (step options host (.updateProcess input)) := by
  have updated : ∀ tables, updateProcess host.tables input = .ok tables →
      Moves options host (withTables host tables) := by
    intro tables done
    simp only [updateProcess, bind_ok_iff, fetch_ok_iff, pure_ok_iff] at done
    obtain ⟨current, present, isTables⟩ := done
    rw [← isTables]
    have found : host.tables.processes.find (current.updated input).processId = some current :=
      host.tables.processes.find_self present
    exact rewriteProcess_moves sound (current.updated input) found rfl rfl
  cases done : updateProcess host.tables input with
  | error failure =>
    simp only [step, done, Except.map, commit_error]
    exact moves_refl sound
  | ok tables =>
    simp only [step, done, Except.map, commit_ok]
    exact updated tables done

variable {requestId : String} {expectedVersion : Nat}

theorem updateToolCall_moves (sound : Sound options host) (input : ToolCallUpdate)
    (fair : input.status = .running ∨ input.status = .completed →
      ∀ call, host.tables.toolCalls.find input.toolExecutionId = some call → Authorized host call)
    (done : updateToolCall host.tables input = .ok tables) :
    Moves options host (withTables host tables) := by
  simp only [updateToolCall, bind_ok_iff, fetch_ok_iff, pure_ok_iff] at done
  obtain ⟨current, present, isTables⟩ := done
  have found : host.tables.toolCalls.find (current.updated input).toolExecutionId =
      some current :=
    host.tables.toolCalls.find_self present
  rw [← isTables]
  exact rewriteCall_moves sound (current.updated input) found rfl rfl
    fun live => fair live current present

def isUnderway : ToolCallStatus → Bool
  | .running => true
  | .completed => true
  | _ => false

section

variable (sound : Sound options host)
include sound

theorem restCall_moves (input : ToolCallUpdate) (rests : isUnderway input.status = false)
    (done : updateToolCall host.tables input = .ok tables) :
    Moves options host (withTables host tables) := by
  refine updateToolCall_moves sound input ?_ done
  intro live
  rcases live with isRunning | isCompleted
  · rw [isRunning] at rests
    cases rests
  · rw [isCompleted] at rests
    cases rests

theorem markApprovalTerminal_moves (requestId : String) (status : ApprovalStatus)
    (ends : status = .expired ∨ status = .cancelled) (now : Nat) :
    Moves options host (withTables host (markApprovalTerminal host.tables requestId status now)) := by
  unfold markApprovalTerminal
  cases found : host.tables.approvals.find requestId with
  | none => exact moves_refl sound
  | some request =>
    dsimp only
    split
    next isPending =>
      have present : host.tables.approvals.find (request.ended status now).requestId =
          some request :=
        host.tables.approvals.find_self found
      refine moveRequest_moves sound (request.ended status now) present
        ⟨rfl, rfl, rfl, rfl, rfl, rfl⟩ ?_ ?_ ?_
      · rw [isPending]
        rfl
      · intro isConsumed
        rcases ends with isExpired | isCancelled
        · rw [show (request.ended status now).status = status from rfl, isExpired] at isConsumed
          cases isConsumed
        · rw [show (request.ended status now).status = status from rfl, isCancelled] at isConsumed
          cases isConsumed
      · intro isApproved
        rcases ends with isExpired | isCancelled
        · rw [show (request.ended status now).status = status from rfl, isExpired] at isApproved
          cases isApproved
        · rw [show (request.ended status now).status = status from rfl, isCancelled] at isApproved
          cases isApproved
    next => exact moves_refl sound

theorem resolve_moves {decision : ApprovalDecision} {result : ApprovalRow × Bool}
    (done : resolve host.tables requestId expectedVersion decision now = .ok (tables, result)) :
    Moves options host (withTables host tables) := by
  unfold resolve approvalOf at done
  rw [bind_ok_iff] at done
  obtain ⟨request, found, done⟩ := done
  rw [fetch_ok_iff] at found
  split at done
  next =>
    simp only [bind_ok_iff, require_ok_iff, pure_ok_iff, Prod.mk.injEq] at done
    obtain ⟨-, -, isTables, -⟩ := done
    rw [← isTables]
    exact moves_refl sound
  next isPending =>
    rw [not_not] at isPending
    simp only [bind_ok_iff, require_ok_iff, fetch_ok_iff, pure_ok_iff, Prod.mk.injEq,
      exists_and_left, exists_const] at done
    obtain ⟨inTime, -, resolved, isResolved, called, callDone, reread, -, isTables, -⟩ := done
    have key := host.tables.approvals.key_of_find found
    have wrote : resolved = writeApproval host.tables
        (request.resolvedAs (resolvedStatus decision) decision now) := by
      unfold resolveApproval at isResolved
      rw [found] at isResolved
      dsimp only at isResolved
      split at isResolved
      next => exact (Option.some.inj isResolved).symm
      next => cases isResolved
    have present : host.tables.approvals.find
        (request.resolvedAs (resolvedStatus decision) decision now).requestId = some request := by
      rw [show (request.resolvedAs (resolvedStatus decision) decision now).requestId =
        request.requestId from rfl, key]
      exact found
    have first : Moves options host (withTables host resolved) := by
      rw [wrote]
      refine moveRequest_moves sound _ present ⟨rfl, rfl, rfl, rfl, rfl, rfl⟩ ?_ ?_ ?_
      · rw [isPending]
        rfl
      · intro isConsumed
        have isStatus : resolvedStatus decision = .consumed := isConsumed
        cases decision <;> cases isStatus
      intro isApproved
      refine ⟨now, decision, rfl, inTime, rfl, ?_⟩
      intro isDeny
      have isStatus : resolvedStatus decision = .approved := isApproved
      rw [isDeny] at isStatus
      cases isStatus
    have second := fun soundNext : Sound options (withTables host resolved) =>
      restCall_moves soundNext _ (by cases decision <;> rfl) callDone
    have asks := sound.requests.prompts request (host.tables.approvals.mem_of_find found)
    apply moves_trans (moves_trans first second)
    intro soundLast
    rw [← isTables]
    split
    next => exact insertGrant_moves soundLast (grantOf request now) asks
    next => exact moves_refl soundLast

theorem cancel_moves {result : ApprovalRow}
    (done : cancel host.tables requestId now = .ok (tables, result)) :
    Moves options host (withTables host tables) := by
  unfold cancel approvalOf at done
  rw [bind_ok_iff] at done
  obtain ⟨request, -, done⟩ := done
  split at done
  next =>
    simp only [bind_ok_iff, fetch_ok_iff, pure_ok_iff, Prod.mk.injEq] at done
    obtain ⟨cancelled, callDone, reread, -, isTables, -⟩ := done
    rw [← isTables]
    apply moves_trans (markApprovalTerminal_moves sound requestId .cancelled (Or.inr rfl) now)
    intro soundNext
    exact restCall_moves soundNext _ rfl callDone
  next =>
    simp only [pure_ok_iff, Prod.mk.injEq] at done
    rw [← done.1]
    exact moves_refl sound

theorem recordApprovalTerminalResult_moves {status : TerminalResult} {errorCode : String}
    {row : ApprovalRow}
    (done : recordApprovalTerminalResult host.tables requestId status result errorCode now =
      .ok (tables, row)) : Moves options host (withTables host tables) := by
  unfold recordApprovalTerminalResult approvalOf at done
  simp only [bind_ok_iff, fetch_ok_iff, pure_ok_iff, Prod.mk.injEq] at done
  obtain ⟨request, -, recorded, callDone, isTables, -⟩ := done
  rw [← isTables]
  exact restCall_moves sound _ (by cases status <;> rfl) callDone

end

theorem expireApprovals_moves (now : Nat) (ids : List String) (host : ProcessHost)
    (sound : Sound options host) :
    Moves options host (withTables host (expireApprovals now host.tables ids)) := by
  induction ids generalizing host with
  | nil => exact moves_refl sound
  | cons requestId rest ih =>
    apply moves_trans (markApprovalTerminal_moves sound requestId .expired (Or.inl rfl) now)
    intro soundNext
    exact ih _ soundNext

theorem cancelExpiredCalls_moves (now : Nat) (ids : List String) (host : ProcessHost)
    (sound : Sound options host)
    (done : cancelExpiredCalls now host.tables ids = .ok tables) :
    Moves options host (withTables host tables) := by
  induction ids generalizing host with
  | nil =>
    simp only [cancelExpiredCalls, Except.ok.injEq] at done
    rw [← done]
    exact moves_refl sound
  | cons requestId rest ih =>
    unfold cancelExpiredCalls at done
    split at done
    next => exact ih host sound done
    next =>
      rw [bind_ok_iff] at done
      obtain ⟨cancelled, callDone, restDone⟩ := done
      apply moves_trans (restCall_moves sound _ rfl callDone)
      intro soundNext
      exact ih (withTables host cancelled) soundNext restDone

theorem expirePending_moves (sound : Sound options host) {ids : List String}
    (done : expirePending host.tables now = .ok (tables, ids)) :
    Moves options host (withTables host tables) := by
  unfold expirePending at done
  simp only [bind_ok_iff, pure_ok_iff, Prod.mk.injEq] at done
  obtain ⟨expired, callsDone, isTables, -⟩ := done
  rw [← isTables]
  apply moves_trans (expireApprovals_moves now (listOverdue host.tables now) host sound)
  intro soundNext
  exact cancelExpiredCalls_moves now _ _ soundNext callsDone

section

variable (sound : Sound options host) (held : Held host toolExecutionId context)
include sound held

theorem beginAllowedToolCall_moves {result : Unit}
    (done : beginAllowedToolCall host.tables toolExecutionId now = .ok (tables, result)) :
    Moves options host (withTables host tables) := by
  unfold beginAllowedToolCall at done
  rw [bind_ok_iff] at done
  obtain ⟨call, -, done⟩ := done
  split at done
  next =>
    simp only [pure_ok_iff, Prod.mk.injEq] at done
    rw [← done.1]
    exact moves_refl sound
  next =>
    simp only [bind_ok_iff, require_ok_iff, pure_ok_iff, Prod.mk.injEq, exists_and_left,
      exists_const] at done
    obtain ⟨-, running, callDone, isTables, -⟩ := done
    rw [← isTables]
    refine updateToolCall_moves sound _ ?_ callDone
    intro _ other found
    exact authorized_of_held held found

theorem completeToolCall_moves {isError : Bool} {errorCode : Option String} :
    Moves options host
      (withTables host
        (commit host.tables
          (completeToolCall host.tables toolExecutionId result isError errorCode now))) := by
  cases done : completeToolCall host.tables toolExecutionId result isError errorCode now with
  | error failure => exact moves_refl sound
  | ok pair =>
    obtain ⟨reached, nothing⟩ := pair
    unfold completeToolCall at done
    simp only [bind_ok_iff, pure_ok_iff, Prod.mk.injEq] at done
    obtain ⟨completed, callDone, isReached, -⟩ := done
    rw [commit_ok, ← isReached]
    refine updateToolCall_moves sound _ ?_ callDone
    intro _ other found
    exact authorized_of_held held found

end

def consuming (host : ProcessHost) (tables : ApprovalTables) (requestId bindingDigest : String) :
    ProcessHost :=
  { withTables host tables with
    consumptions := host.consumptions ++ [consumptionOf requestId bindingDigest] }

theorem consume_moves (sound : Sound options host) {bindingDigest : String}
    {consumption : Consumption}
    (done : Service.consume host.tables requestId expectedVersion bindingDigest now =
      .ok (tables, consumption)) :
    Moves options host (consuming host tables requestId bindingDigest) ∧
      Held (consuming host tables requestId bindingDigest)
        consumption.toolCall.toolExecutionId consumption.continuation.context := by
  unfold Service.consume approvalOf at done
  simp only [bind_ok_iff, require_ok_iff, fetch_ok_iff, pure_ok_iff, Prod.mk.injEq,
    exists_and_left, exists_const] at done
  obtain ⟨request, found, sameDigest, -, isApproved, consumed, isConsumed, running, callDone,
    reread, -, toolCall, foundCall, isTables, isConsumption⟩ := done
  have requestIn := host.tables.approvals.mem_of_find found
  have key := host.tables.approvals.key_of_find found
  have wrote : consumed = writeApproval host.tables (request.consumedBy now) := by
    unfold consumeApproval at isConsumed
    rw [found] at isConsumed
    dsimp only at isConsumed
    split at isConsumed
    next => exact (Option.some.inj isConsumed).symm
    next => cases isConsumed
  have present : host.tables.approvals.find (request.consumedBy now).requestId = some request := by
    rw [show (request.consumedBy now).requestId = request.requestId from rfl, key]
    exact found
  have first : Moves options host (consuming host consumed requestId bindingDigest) := by
    have moved := rewriteRequest_moves sound (request.consumedBy now) present
      ⟨rfl, rfl, rfl, rfl, rfl, rfl⟩ (by rw [isApproved]; rfl)
      (fun _ => sound.requests.approved request requestIn (Or.inl isApproved))
      [consumptionOf request.requestId request.bindingDigest] rfl
    rw [key, sameDigest] at moved
    rw [wrote]
    exact moved
  obtain ⟨call, foundOwner, isContext, isDigest, continues⟩ :=
    sound.requests.owned request requestIn
  have authorized : Authorized (consuming host consumed requestId bindingDigest) call := by
    apply Or.inr
    apply Or.inr
    have stored : (consuming host consumed requestId bindingDigest).tables.approvals.find requestId =
        some (request.consumedBy now) := by
      rw [wrote]
      refine (host.tables.approvals.find_update (request.consumedBy now) present requestId).trans ?_
      exact if_pos key
    have entries := first.1.requests.consumed (request.consumedBy now)
      ((consuming host consumed requestId bindingDigest).tables.approvals.mem_of_find stored)
    refine ⟨requestId, request.consumedBy now, stored, ?_, rfl, ?_, ?_⟩
    · exact (host.tables.toolCalls.key_of_find foundOwner).symm
    · exact sound.requests.approved request requestIn (Or.inl isApproved)
    · rw [show (request.consumedBy now).requestId = request.requestId from rfl, key] at entries
      rw [isDigest]
      exact entries
  have held : Held (consuming host consumed requestId bindingDigest) request.toolExecutionId
      request.continuation.context := by
    refine ⟨call, ?_, isContext.trans continues.symm, authorized⟩
    rw [wrote]
    exact foundOwner
  have second : Moves options (consuming host consumed requestId bindingDigest)
      (consuming host running requestId bindingDigest) := by
    refine updateToolCall_moves first.1 _ ?_ callDone
    intro _ other foundOther
    exact authorized_of_held held foundOther
  rw [← isTables, ← isConsumption]
  refine ⟨moves_trans first fun _ => second, ?_⟩
  rw [running.toolCalls.key_of_find foundCall]
  exact held_grown second.2 held

variable {reply : Authorization} {createId : Nat → String}

def MayAllow (options : ApprovalOptions) (host : ProcessHost) (input : BindingInput)
    (call : ToolCallRow) : Authorization → Prop
  | .allow _ _ _ granted =>
    (granted = true ∧ hasConversationGrant host.tables input.context.conversationId
      (policyOf options input).fingerprint = true) ∨
      (granted = false ∧ ((policyOf options input).decision = .allow ∨ Authorized host call))
  | _ => True

structure Answered (options : ApprovalOptions) (host : ProcessHost) (input : BindingInput)
    (reply : Authorization) (call : ToolCallRow) : Prop where
  found : host.tables.toolCalls.find reply.toolExecutionId = some call
  context : call.context = input.context
  digest : call.bindingDigest = (bindingOf options input).bindingDigest
  allowed : MayAllow options host input call reply

theorem answer_moves (sound : Sound options host)
    (found : host.tables.toolCalls.find toolExecutionId = some call)
    (isContext : call.context = input.context)
    (isDigest : call.bindingDigest = (bindingOf options input).bindingDigest)
    (continues : input.continuation.context = input.context) {granted : Bool}
    (isGranted : granted = hasConversationGrant host.tables input.context.conversationId
      (policyOf options input).fingerprint)
    (done : answer options host.tables input toolExecutionId granted now createId =
      .ok (tables, reply)) :
    Moves options host (withTables host tables) ∧
      Answered options (withTables host tables) input reply call := by
  unfold answer at done
  dsimp only at done
  cases isEffective : effectiveDecision granted (policyOf options input).decision with
  | allow =>
    rw [isEffective] at done
    simp only [Except.ok.injEq, Prod.mk.injEq] at done
    rw [← done.1, ← done.2]
    refine ⟨moves_refl sound, found, isContext, isDigest, ?_⟩
    cases granted with
    | true => exact Or.inl ⟨rfl, isGranted.symm⟩
    | false => exact Or.inr ⟨rfl, Or.inl isEffective⟩
  | deny =>
    rw [isEffective] at done
    simp only [Except.ok.injEq, Prod.mk.injEq] at done
    rw [← done.1, ← done.2]
    exact ⟨moves_refl sound, found, isContext, isDigest, trivial⟩
  | prompt =>
    rw [isEffective] at done
    simp only [bind_ok_iff, pure_ok_iff, Prod.mk.injEq] at done
    obtain ⟨asked, askDone, isAsked, isReply⟩ := done
    simp only [insertApproval, bind_ok_iff, require_ok_iff, fetch_ok_iff, pure_ok_iff,
      exists_and_left, exists_const] at askDone
    obtain ⟨-, -, approvals, inserted, isTables⟩ := askDone
    have asks : (policyOf options input).decision = .prompt := by
      cases granted with
      | true => cases isEffective
      | false => exact isEffective
    rw [← isAsked, ← isReply, ← isTables]
    constructor
    · exact insertRequest_moves sound _ inserted found ⟨isContext, isDigest⟩ continues
        (prompt_of_decision asks) rfl
    · exact ⟨found, isContext, isDigest, trivial⟩

theorem authorizeOrRequest_moves (injective : Function.Injective options.sha256)
    (sound : Sound options host) (continues : input.continuation.context = input.context)
    (done : authorizeOrRequest options host.tables input now createId = .ok (tables, reply)) :
    Moves options host (withTables host tables) ∧
      ∃ call, Answered options (withTables host tables) input reply call := by
  unfold authorizeOrRequest at done
  cases isStored : getToolCall host.tables input.context.runId input.context.toolCallId with
  | some existing =>
    rw [isStored] at done
    simp only [bind_ok_iff, require_ok_iff, exists_const] at done
    obtain ⟨sameDigest, done⟩ := done
    have existingIn : existing ∈ host.tables.toolCalls.rows := List.mem_of_find?_eq_some isStored
    have found := host.tables.toolCalls.find_of_mem existingIn
    have isContext : existing.context = input.context := by
      obtain ⟨other, ofExisting, isDigest⟩ := sound.calls.bound existing existingIn
      rw [← ofExisting]
      exact context_of_digest injective (isDigest.symm.trans sameDigest)
    split at done
    next =>
      simp only [pure_ok_iff, Prod.mk.injEq] at done
      rw [← done.1, ← done.2]
      exact ⟨moves_refl sound, existing, found, isContext, sameDigest, trivial⟩
    next =>
      split at done
      next live =>
        simp only [pure_ok_iff, Prod.mk.injEq] at done
        rw [← done.1, ← done.2]
        exact ⟨moves_refl sound, existing, found, isContext, sameDigest,
          Or.inr ⟨rfl, Or.inr (sound.calls.underway existing existingIn live)⟩⟩
      next =>
        obtain ⟨moves, answered⟩ :=
          answer_moves sound found isContext sameDigest continues rfl done
        exact ⟨moves, existing, answered⟩
  | none =>
    rw [isStored] at done
    simp only [insertToolCall, bind_ok_iff, require_ok_iff, fetch_ok_iff, pure_ok_iff,
      exists_and_left, exists_const] at done
    obtain ⟨stored, ⟨free, toolCalls, inserted, isStored'⟩, done⟩ := done
    have first := insertCall_moves sound _ inserted free ⟨input, rfl, rfl⟩ (by
      intro live
      cases isEffective : effectiveDecision
          (hasConversationGrant host.tables input.context.conversationId
            (policyOf options input).fingerprint) (policyOf options input).decision with
      | allow => simp [newToolCall, isEffective, initialStatus] at live
      | deny => simp [newToolCall, isEffective, initialStatus] at live
      | prompt => simp [newToolCall, isEffective, initialStatus] at live)
    have found := (host.tables.toolCalls.find_insert toolCalls _ (createId 0) inserted).trans
      (if_pos rfl)
    rw [← isStored'] at done
    obtain ⟨moves, answered⟩ :=
      answer_moves first.1 found rfl rfl continues rfl done
    exact ⟨moves_trans first fun _ => moves, _, answered⟩

def recording (host : ProcessHost) (entry : DecisionEntry) (executions : List PreparedExecution) :
    ProcessHost :=
  { host with allowed := host.allowed ++ executions, decisions := host.decisions ++ [entry] }

theorem recording_moves (sound : Sound options host) (entry : DecisionEntry)
    (executions : List PreparedExecution)
    (fair : entry.granted = true → entry.decision = .prompt)
    (held : ∀ execution ∈ executions, Held (recording host entry executions)
      execution.toolExecutionId execution.context) :
    Moves options host (recording host entry executions) := by
  have grown : Grown host (recording host entry executions) :=
    { calls := fun _ call found => ⟨call, found, rfl, rfl⟩
      requests := fun _ _ found _ => found
      grants := fun _ _ granted => granted
      decisions := fun _ entryIn => List.mem_append_left _ entryIn
      consumptions := fun _ _ _ _ => rfl }
  refine ⟨?_, grown⟩
  constructor
  · exact callsSound_grown grown rfl sound.calls
  · exact requestsSound_grown grown rfl rfl rfl sound.requests
  · constructor
    · intro execution executionIn
      rcases List.mem_append.mp executionIn with there | isNew
      · exact held_grown grown (sound.executions.allowed execution there)
      · exact held execution isNew
    · intro execution executionIn
      exact held_grown grown (sound.executions.prepared execution executionIn)
    · intro row rowIn
      exact held_grown grown (sound.executions.processes row rowIn)
    · exact sound.executions.recordedOnce
    · exact sound.executions.references
    · exact sound.executions.distinct
  · intro other otherIn isGranted
    rcases List.mem_append.mp otherIn with there | isEntry
    · exact sound.granted other there isGranted
    · rw [List.mem_singleton.mp isEntry] at isGranted ⊢
      exact fair isGranted

theorem prompt_of_grant (sound : Sound options host) {conversationId fingerprint : String}
    (granted : hasConversationGrant host.tables conversationId fingerprint = true) :
    IsPrompt options fingerprint := by
  obtain ⟨grant, found⟩ := Option.isSome_iff_exists.mp granted
  have key := host.tables.grants.key_of_find found
  have asked := sound.requests.grants grant (host.tables.grants.mem_of_find found)
  rw [(Prod.mk.inj key).2] at asked
  exact asked

theorem authorize_moves (injective : Function.Injective options.sha256)
    (sound : Sound options host) (call : ProcessCall) (policy : ExecutionPolicy) (now : Nat)
    (createId : Nat → String) :
    Moves options host (authorize options host call policy now createId) := by
  unfold authorize
  dsimp only
  cases done : authorizeOrRequest options host.tables (bindingInput options call policy) now
      createId with
  | error failure => exact moves_refl sound
  | ok pair =>
    obtain ⟨reached, answerTo⟩ := pair
    obtain ⟨moves, stored, answered⟩ := authorizeOrRequest_moves injective sound rfl done
    apply moves_trans moves
    intro soundNext
    cases answerTo with
    | deny _ _ _ =>
      refine recording_moves soundNext _ [] ?_ ?_
      · intro isGranted
        cases isGranted
      · intro _ nothing
        cases nothing
    | prompt _ _ =>
      refine recording_moves soundNext _ [] ?_ ?_
      · intro isGranted
        cases isGranted
      · intro _ nothing
        cases nothing
    | allow bindingDigest fingerprint toolExecutionId granted =>
      refine recording_moves soundNext _
        (allowedExecution call (.allow bindingDigest fingerprint toolExecutionId granted)) ?_ ?_
      · intro isGranted
        rcases answered.allowed with ⟨-, hasGrant⟩ | ⟨notGranted, -⟩
        · exact decision_of_prompt injective (prompt_of_grant soundNext hasGrant)
        · have isTrue : granted = true := isGranted
          rw [notGranted] at isTrue
          cases isTrue
      · intro execution executionIn
        rw [List.mem_singleton.mp executionIn]
        refine ⟨stored, answered.found, answered.context, ?_⟩
        have sameId : toolExecutionId = stored.toolExecutionId :=
          (reached.toolCalls.key_of_find answered.found).symm
        have entryIn := List.mem_append_right host.decisions (List.mem_singleton_self
          (decisionEntry options (bindingInput options call policy)
            (.allow bindingDigest fingerprint toolExecutionId granted)))
        rcases answered.allowed with ⟨-, hasGrant⟩ | ⟨-, decides | authorized⟩
        · exact Or.inr (Or.inl ⟨_, entryIn, sameId, answered.digest.symm,
            (congrArg ToolContext.conversationId answered.context).symm, hasGrant⟩)
        · exact Or.inl ⟨_, entryIn, sameId, answered.digest.symm, decides⟩
        refine authorized_grown ?_ rfl rfl rfl authorized
        exact
          { calls := fun _ call found => ⟨call, found, rfl, rfl⟩
            requests := fun _ _ found _ => found
            grants := fun _ _ granted => granted
            decisions := fun _ entryIn => List.mem_append_left _ entryIn
            consumptions := fun _ _ _ _ => rfl }

section

variable (sound : Sound options host)

include sound

theorem begin_moves (index now : Nat) : Moves options host (begin host index now) := by
  have kept : ∀ execution ∈ host.allowed.eraseIdx index,
      Held host execution.toolExecutionId execution.context := by
    intro execution executionIn
    exact sound.executions.allowed execution (List.mem_of_mem_eraseIdx executionIn)
  unfold begin
  cases isExecution : host.allowed[index]? with
  | none => exact moves_refl sound
  | some execution =>
    have held := sound.executions.allowed execution (List.mem_of_getElem? isExecution)
    dsimp only
    cases done : beginAllowedToolCall host.tables execution.toolExecutionId now with
    | error failure =>
      exact handOver_moves sound (host.allowed.eraseIdx index) host.prepared host.recorded kept
        sound.executions.prepared (List.Sublist.refl _)
    | ok pair =>
      have moves := beginAllowedToolCall_moves sound held done
      apply moves_trans moves
      intro soundNext
      refine handOver_moves soundNext (host.allowed.eraseIdx index)
        (host.prepared ++ [execution]) host.recorded ?_ ?_ (List.Sublist.refl _)
      · intro other otherIn
        exact held_grown moves.2 (kept other otherIn)
      · intro other otherIn
        rcases List.mem_append.mp otherIn with there | isNew
        · exact soundNext.executions.prepared other there
        · rw [List.mem_singleton.mp isNew]
          exact held_grown moves.2 held

theorem consumeRequest_moves (requestId : String) (expectedVersion : Nat) (bindingDigest : String)
    (now : Nat) :
    Moves options host
      (ProcessManager.consume host requestId expectedVersion bindingDigest now) := by
  unfold ProcessManager.consume
  cases done : Service.consume host.tables requestId expectedVersion bindingDigest now with
  | error failure => exact moves_refl sound
  | ok pair => exact (consume_moves sound done).1

theorem executeApproved_moves (requestId : String) (now : Nat) :
    Moves options host (executeApproved host requestId now) := by
  unfold executeApproved
  cases found : host.tables.approvals.find requestId with
  | none => exact moves_refl sound
  | some request =>
    dsimp only
    cases done : Service.consume host.tables requestId request.version request.bindingDigest
        now with
    | error failure => exact moves_refl sound
    | ok pair =>
      obtain ⟨moves, held⟩ := consume_moves sound done
      apply moves_trans moves
      intro soundNext
      refine handOver_moves soundNext host.allowed _ host.recorded
        soundNext.executions.allowed ?_ (List.Sublist.refl _)
      intro other otherIn
      rcases List.mem_append.mp otherIn with there | isNew
      · exact soundNext.executions.prepared other there
      · rw [List.mem_singleton.mp isNew]
        exact held

theorem prepareFails_moves (index : Nat) (result : Json) (errorCode : String) (now : Nat) :
    Moves options host (prepareFails host index result errorCode now) := by
  unfold prepareFails
  cases isExecution : host.prepared[index]? with
  | none => exact moves_refl sound
  | some execution =>
    have held := sound.executions.prepared execution (List.mem_of_getElem? isExecution)
    apply moves_trans (completeToolCall_moves sound held)
    intro soundNext
    refine handOver_moves soundNext host.allowed (host.prepared.eraseIdx index) host.recorded
      soundNext.executions.allowed ?_ (List.Sublist.refl _)
    intro other otherIn
    exact soundNext.executions.prepared other (List.mem_of_mem_eraseIdx otherIn)

theorem completeExecution_moves (processId : String) (result : Json) (isError : Bool)
    (errorCode : Option String) (now : Nat) :
    Moves options host (completeExecution host processId result isError errorCode now) := by
  unfold completeExecution
  cases found : host.tables.processes.find processId with
  | none => exact moves_refl sound
  | some row =>
    have held := sound.executions.processes row (host.tables.processes.mem_of_find found)
    exact completeToolCall_moves sound held

theorem commit_moves {Result : Type} (body : Except ApprovalFailure (ApprovalTables × Result))
    (moves : ∀ tables result, body = .ok (tables, result) →
      Moves options host (withTables host tables)) :
    Moves options host (withTables host (commit host.tables body)) := by
  cases body with
  | error failure => exact moves_refl sound
  | ok pair => exact moves pair.1 pair.2 rfl

end

theorem step_moves (injective : Function.Injective options.sha256) (host : ProcessHost)
    (op : ProcessOp) (sound : Sound options host) : Moves options host (step options host op) := by
  cases op with
  | authorize call policy now createId =>
    exact authorize_moves injective sound call policy now createId
  | begin index now => exact begin_moves sound index now
  | resolve requestId expectedVersion decision now =>
    exact commit_moves sound _ fun _ _ done => resolve_moves sound done
  | consume requestId expectedVersion bindingDigest now =>
    exact consumeRequest_moves sound requestId expectedVersion bindingDigest now
  | executeApproved requestId now => exact executeApproved_moves sound requestId now
  | cancel requestId now => exact commit_moves sound _ fun _ _ done => cancel_moves sound done
  | expirePending now =>
    exact commit_moves sound _ fun _ _ done => expirePending_moves sound done
  | recordApprovalTerminalResult requestId status result errorCode now =>
    exact commit_moves sound _ fun _ _ done => recordApprovalTerminalResult_moves sound done
  | prepareFails index result errorCode now =>
    exact prepareFails_moves sound index result errorCode now
  | insertProcess index processId now => exact recordProcess_moves sound index processId now
  | startProcess index => exact startProcess_moves sound index
  | startFails index =>
    exact handOver_moves sound host.allowed host.prepared (host.recorded.eraseIdx index)
      sound.executions.allowed sound.executions.prepared (List.eraseIdx_sublist _ _)
  | updateProcess input => exact updateProcess_moves sound input
  | completeToolCall processId result isError errorCode now =>
    exact completeExecution_moves sound processId result isError errorCode now
  | restart now => exact restart_moves sound now

theorem reach_sound (injective : Function.Injective options.sha256) (ops : List ProcessOp) :
    Sound options (reach options ops) :=
  run_invariant (step options) (Sound options)
    (fun host op sound => (step_moves injective host op sound).1) ProcessHost.empty ops
    (sound_empty options)

theorem run_grown (injective : Function.Injective options.sha256) (host : ProcessHost)
    (ops : List ProcessOp) (sound : Sound options host) :
    Grown host (run (step options) host ops) :=
  run_relates (step options) (Sound options) Grown Grown.refl
    (fun _ _ _ first second => first.trans second)
    (fun host op sound => (step_moves injective host op sound).1)
    (fun host op sound => (step_moves injective host op sound).2) host ops sound

theorem started_once (sound : Sound options host) (runId toolCallId : String) :
    (startedFor host runId toolCallId).length ≤ 1 := by
  have named : ∀ reference ∈ startedFor host runId toolCallId, ∃ row ∈ host.tables.processes.rows,
      processRef row = reference ∧ row.context.runId = runId ∧
        row.context.toolCallId = toolCallId := by
    intro reference referenceIn
    obtain ⟨startedThere, isCall⟩ := List.mem_filter.mp referenceIn
    obtain ⟨sameRun, sameCall⟩ := of_decide_eq_true isCall
    obtain ⟨row, rowIn, isReference⟩ :=
      sound.executions.references reference (List.mem_append_right _ startedThere)
    rw [← isReference] at sameRun sameCall
    exact ⟨row, rowIn, isReference, sameRun, sameCall⟩
  have same : ∀ first ∈ startedFor host runId toolCallId,
      ∀ second ∈ startedFor host runId toolCallId, first = second := by
    intro first firstIn second secondIn
    obtain ⟨row, rowIn, isFirst, firstRun, firstCall⟩ := named first firstIn
    obtain ⟨other, otherIn, isSecond, secondRun, secondCall⟩ := named second secondIn
    obtain ⟨call, found, isContext, -⟩ := sound.executions.processes row rowIn
    obtain ⟨otherCall, foundOther, otherContext, -⟩ := sound.executions.processes other otherIn
    have sameCall : call = otherCall := by
      apply sound.calls.once call (host.tables.toolCalls.mem_of_find found) otherCall
        (host.tables.toolCalls.mem_of_find foundOther)
      · rw [isContext, otherContext, firstRun, secondRun]
      · rw [isContext, otherContext, firstCall, secondCall]
    have sameExecution : row.toolExecutionId = other.toolExecutionId := by
      rw [← host.tables.toolCalls.key_of_find found, sameCall]
      exact host.tables.toolCalls.key_of_find foundOther
    rw [← isFirst, ← isSecond, sound.executions.recordedOnce row rowIn other otherIn sameExecution]
  have distinct : (startedFor host runId toolCallId).Nodup := by
    have all := List.Nodup.of_map ProcessRef.processId sound.executions.distinct
    exact (List.Nodup.of_append_right all).sublist List.filter_sublist
  cases isStarted : startedFor host runId toolCallId with
  | nil => exact Nat.zero_le 1
  | cons first rest =>
    cases rest with
    | nil => exact le_refl 1
    | cons second others =>
      rw [isStarted] at same distinct
      have equal := same first (List.mem_cons_self ..) second
        (List.mem_cons_of_mem _ (List.mem_cons_self ..))
      rw [equal] at distinct
      exact absurd (List.mem_cons_self ..) (List.nodup_cons.mp distinct).1

theorem processesAuthorized_of_sound (sound : Sound options host) : ProcessesAuthorized host where
  once := started_once sound
  authorized := by
    intro reference referenceIn
    obtain ⟨row, rowIn, isReference⟩ :=
      sound.executions.references reference (List.mem_append_right _ referenceIn)
    obtain ⟨call, found, isContext, authorized⟩ := sound.executions.processes row rowIn
    refine ⟨call, ?_, authorized⟩
    have callIn := host.tables.toolCalls.mem_of_find found
    have isRun : call.context.runId = reference.runId := by
      rw [isContext, ← isReference]
      rfl
    have isCall : call.context.toolCallId = reference.toolCallId := by
      rw [isContext, ← isReference]
      rfl
    cases stored : getToolCall host.tables reference.runId reference.toolCallId with
    | none =>
      have missed := List.find?_eq_none.mp stored call callIn
      exact absurd (decide_eq_true ⟨isRun, isCall⟩) missed
    | some other =>
      have otherIn : other ∈ host.tables.toolCalls.rows := List.mem_of_find?_eq_some stored
      have isOther := List.find?_some stored
      obtain ⟨sameRun, sameCall⟩ := of_decide_eq_true isOther
      have same := sound.calls.once other otherIn call callIn (sameRun.trans isRun.symm)
        (sameCall.trans isCall.symm)
      rw [same]
  denied := by
    intro entry entryIn denies
    cases isGranted : entry.granted with
    | false => rfl
    | true =>
      have asks := sound.granted entry entryIn isGranted
      rw [denies] at asks
      cases asks

/-- In every run at most one process is started for a tool call, and only for one that the
policy, a grant or its own consumed request allows; no grant overrides a denial, and final
requests stay as they are. -/
theorem processes_authorized_once (options : ApprovalOptions)
    (injective : Function.Injective options.sha256) (ops : List ProcessOp) :
    ∀ earlier later, ops = earlier ++ later →
      ProcessesAuthorized (reach options earlier) ∧
        FinalKept (reach options earlier) (reach options ops) := by
  intro earlier later split
  have sound := reach_sound injective earlier
  refine ⟨processesAuthorized_of_sound sound, ?_⟩
  rw [split]
  unfold reach
  rw [run_append]
  exact finalKept_of_grown (run_grown injective (reach options earlier) later sound)

def textDigest : ApprovalOptions where
  sha256 := fun tokens => String.ofList (tokensText tokens)
  timeoutMs := 1000
  shellExecutable := "/bin/sh"

theorem textDigest_injective : Function.Injective textDigest.sha256 :=
  fun _ _ same => tokensText_injective (String.ofList_injective same)

def listing : ProcessCall where
  input :=
    { command := .argv "ls" none, cwd := none, env := none, background := none, timeoutMs := none }
  context :=
    { runId := "run"
      attemptId := "attempt"
      conversationId := "conversation"
      workspaceId := "workspace"
      toolCallId := "call" }
  cwdRelative := "."

def allowing : ExecutionPolicy where
  defaultDecision := .allow
  rules := []

def allowedOps : List ProcessOp :=
  [ .authorize listing allowing 10 (fun _ => "execution"),
    .begin 0 11,
    .insertProcess 0 "process" 12,
    .startProcess 0 ]

theorem allowed_process_authorized :
    (startedFor (reach textDigest allowedOps) "run" "call").length = 1 ∧
      ProcessesAuthorized (reach textDigest allowedOps) ∧
      FinalKept (reach textDigest allowedOps) (reach textDigest allowedOps) := by
  constructor
  · decide +kernel
  · exact processes_authorized_once textDigest textDigest_injective allowedOps allowedOps []
      (List.append_nil allowedOps).symm

end OpenRill.Approvals.ProcessAuthorization
