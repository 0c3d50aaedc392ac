import OpenRill.Tools.Attempts

/-!
# One scope for every attempt

The first attempt of a run without an envelope enforces no scope, and stores as
the envelope what it showed to the model. Every later attempt enforces that
envelope. The two agree exactly when the first attempt showed the model every
registered tool, and the catalogue did not lose one since.
-/

namespace OpenRill.Tools.ToolScope

open Lib Lib.Text Lib.Transaction Runs.Ledger Runs.Delegations Runs.Lifecycle
open Runs.DelegationService Runs.Operations Runs.LedgerRules Runs.DelegationRules
open Runs.GrantedScopes
open Execution Attempts

variable {attempt first later : Attempt} {name : String} {options : RunOptions}
variable {localeBefore : String → String → Bool}

theorem offers_of (allowed : attempt.inScope name = true)
    (registered : attempt.registry.has name = true) : attempt.offers name = true := by
  unfold Attempt.offers
  rw [allowed, registered]
  rfl

theorem executed_permitted (context : ToolExecutionContext) (call : ToolCall)
    (ran : name ∈ attempt.executed context call) : ∃ way, attempt.permits way name = true := by
  unfold Attempt.executed Attempt.dispatch at ran
  by_cases outside : attempt.allowed.any (fun allowed => !allowed.contains call.name) = true
  · rw [if_pos outside] at ran
    cases ran
  rw [if_neg outside] at ran
  have inside : attempt.inScope call.name = true := by
    unfold Attempt.inScope
    cases scope : attempt.allowed with
    | none => rfl
    | some allowed =>
      rw [scope] at outside
      simpa using outside
  by_cases isCall : call.name = toolCallName
  · rw [isCall] at ran inside
    obtain ⟨registered, own | ⟨notControl, allowed, target⟩⟩ := execute_callTool _ _ ran
    · refine ⟨.direct, ?_⟩
      rw [own]
      exact offers_of inside registered
    · refine ⟨.throughToolCall, ?_⟩
      have caller := offers_of inside registered
      have inTarget : attempt.inScope name = true := allowed
      have callee := offers_of inTarget target
      simp only [Attempt.permits, caller, callee, notControl, Bool.not_false, Bool.and_self]
  · obtain ⟨isName, registered⟩ := execute_program isCall _ _ ran
    rw [isName]
    exact ⟨.direct, offers_of inside registered⟩

theorem executionContext_reads (runId : String) (known : RunTables) :
    Ensures (fun tables => tables = known) (executionContext runId)
      (fun initial reached => reached = known ∧ initial.run.runId = runId ∧
        initial.budgetEnvelope = known.delegations.envelopes.find runId) := by
  apply ensures_read
  apply ensures_expect_then
  intro run found
  apply ensures_expect_then
  intro conversation _
  apply ensures_expect_then
  intro attemptId _
  apply ensures_expect_then
  intro attempt _
  apply ensures_return
  have key : run.runId = runId := known.ledger.runs.key_of_find found
  refine ⟨rfl, key, ?_⟩
  rw [key]

theorem normalizeScope_names {Store : Type} {before : Store → Prop} (scope : DelegationScope) :
    Ensures before (normalizeScope scope)
      (fun normal state => (∀ name, name ∈ normal.toolNames ↔ name ∈ scope.toolNames) ∧
        before state) := by
  refine ensures_bind (normalizedSet_keeps _ _ _) fun workspaceIds => ?_
  refine ensures_bind (normalizedSet_keeps _ _ _) fun skillIds => ?_
  have ordered : Ensures before (normalizedSet scope.toolNames "toolName" matchesToolPattern)
      (fun toolNames state => (∀ name, name ∈ toolNames ↔ name ∈ scope.toolNames) ∧
        before state) := by
    apply ensures_demand_then
    intro _
    apply ensures_demand_then
    intro _
    apply ensures_demand_then
    intro _
    apply ensures_pure
    intro state initially
    exact ⟨fun name => List.mem_insertionSort _, initially⟩
  refine ensures_bind ordered fun toolNames => ?_
  exact ensures_pure _ fun state holds => holds

theorem configureRootBudget_grants (input : RootBudgetInput) (now : Nat) {known : RunTables}
    (missing : known.delegations.envelopes.find input.runId = none) :
    Ensures (fun tables => tables = known) (configureRootBudget options input now)
      (fun _ reached => ∃ scope, Granted input.runId scope reached.delegations ∧
        ∀ name, name ∈ scope.toolNames ↔ name ∈ input.scope.toolNames) := by
  refine ensures_bind (normalizeBudget_keeps _) fun budget => ?_
  refine ensures_call (normalizeScope_names input.scope) ?_
  intro scope sameNames
  apply ensures_read
  apply ensures_expect_then
  intro run found
  have key : run.runId = input.runId := known.ledger.runs.key_of_find found
  apply ensures_expect_then
  intro conversation _
  apply ensures_demand_then
  intro _
  rw [key, missing]
  have written : Ensures (fun tables => tables = known)
      (onDelegations (insertBudgetEnvelope
        (unusedEnvelope input.runId input.runId none 0 budget scope now)))
      (fun _ reached => Granted input.runId scope reached.delegations) := by
    apply ensures_focus
    intro whole value reached isKnown done
    have inserted : Ensures (fun store => store = known.delegations)
        (insertBudgetEnvelope (unusedEnvelope input.runId input.runId none 0 budget scope now))
        (fun _ store => Granted input.runId scope store) := by
      apply ensures_tryChange
      intro store changed isStore isChanged
      obtain ⟨envelopes, isInserted, rfl⟩ := Option.map_eq_some_iff.mp isChanged
      refine ⟨unusedEnvelope input.runId input.runId none 0 budget scope now, ?_, rfl⟩
      have read := store.envelopes.find_insert envelopes _ input.runId isInserted
      exact read.trans (if_pos rfl)
    rw [isKnown] at done
    exact inserted _ _ _ rfl done
  refine ensures_bind written fun _ => ensures_pure _ ?_
  intro reached granted
  exact ⟨scope, granted, sameNames⟩

/-- What an attempt is once it is open: the scope it enforces was that of the run's
envelope, and the run has an envelope now. -/
structure Opened (localeBefore : String → String → Bool) (tables : RunTables)
    (input : AttemptInput) (attempt : Attempt) (reached : RunTables) : Prop where
  runId : attempt.runId = input.runId
  scope : ∃ scope, Granted attempt.runId scope reached.delegations ∧
    (attempt.allowed = some scope.toolNames ∨
      (attempt.allowed = none ∧ tables.delegations.envelopes.find input.runId = none ∧
        ∀ name, name ∈ scope.toolNames ↔ name ∈ attempt.shownNames localeBefore))

def Kept (tables reached : RunTables) : Prop :=
  ∀ runId scope, Granted runId scope tables.delegations → Granted runId scope reached.delegations

theorem kept_refl (tables : RunTables) : Kept tables tables := fun _ _ granted => granted

theorem keeps_grants {Value : Type} {body : RunTransaction Value}
    (keeps : ∀ runId scope, Keeps (OnDelegations (Granted runId scope)) body)
    (known tables : RunTables) (kept : Kept tables known) :
    Ends known (commit body) (fun _ reached => Kept known reached ∧ Kept tables reached)
      (fun reached => Kept tables reached) := by
  refine ends_commit ?_ kept
  intro state value reached isKnown done
  rw [isKnown] at done
  have since : Kept known reached := by
    intro runId scope granted
    exact keeps runId scope known value reached granted done
  exact ⟨since, fun runId scope granted => since runId scope (kept runId scope granted)⟩

theorem beginExecution_granted (input : AttemptInput) (initial : AgentExecutionContext)
    (runId : String) (scope : DelegationScope) :
    Keeps (OnDelegations (Granted runId scope)) (beginExecution options input initial) :=
  keeps_ite (fun _ => onLedger_spares _)
    fun _ => startExecution_opens (openRules_of_graph granted_rules) _ _ _

theorem configureScope_opens (input : AttemptInput) (tables : RunTables)
    (initial : AgentExecutionContext)
    (isEnvelope : initial.budgetEnvelope = tables.delegations.envelopes.find input.runId)
    (isRun : attempt.runId = input.runId) (isAllowed : attempt.allowed =
      initial.budgetEnvelope.map (fun envelope => envelope.scope.toolNames)) :
    Ends tables (configureScope localeBefore options input initial attempt)
      (fun _ reached => Opened localeBefore tables input attempt reached ∧ Kept tables reached)
      (fun reached => Kept tables reached) := by
  rw [isEnvelope] at isAllowed
  apply ends_ite
  · intro absent
    have missing : tables.delegations.envelopes.find input.runId = none := by
      rw [← isEnvelope]
      exact Option.isNone_iff_eq_none.mp absent
    have configured := @configureRootBudget_grants options
      { runId := input.runId
        budget := rootBudget input.budget
        scope := rootScope initial.workspaceId (attempt.shownNames localeBefore) }
      input.configured.now tables missing
    have grants : Ensures (fun state => state = tables)
        (configureRootBudget options
          { runId := input.runId
            budget := rootBudget input.budget
            scope := rootScope initial.workspaceId (attempt.shownNames localeBefore) }
          input.configured.now)
        (fun _ reached => Opened localeBefore tables input attempt reached ∧
          Kept tables reached) := by
      intro state value reached isKnown done
      rw [isKnown] at done
      obtain ⟨scope, granted, sameNames⟩ := configured tables value reached rfl done
      constructor
      · refine ⟨isRun, scope, ?_, .inr ⟨?_, missing, sameNames⟩⟩
        · rw [isRun]
          exact granted
        · rw [isAllowed, missing]
          rfl
      · intro runId held before
        exact configureRootBudget_opens (openRules_of_graph granted_rules) _ _ tables value
          reached before done
    refine ends_bind (ends_commit grants (kept_refl tables)) ?_
    intro value reached holds
    exact ends_pure () holds
  · intro present
    apply ends_pure
    refine ⟨⟨isRun, ?_⟩, kept_refl tables⟩
    cases found : tables.delegations.envelopes.find input.runId with
    | none =>
      rw [isEnvelope, found] at present
      exact absurd rfl present
    | some envelope =>
      refine ⟨envelope.scope, ⟨envelope, ?_, rfl⟩, .inl ?_⟩
      · rw [isRun]
        exact found
      · rw [isAllowed, found]
        rfl

theorem openAttempt_opens (input : AttemptInput) (tables : RunTables) :
    Ends tables (openAttempt localeBefore options input)
      (fun attempt reached => Opened localeBefore tables input attempt reached ∧
        Kept tables reached)
      (fun reached => Kept tables reached) := by
  refine ends_bind (ends_commit (executionContext_reads input.runId tables) (kept_refl tables)) ?_
  rintro initial reached ⟨rfl, -, isEnvelope⟩
  refine ends_bind (configureScope_opens input reached initial isEnvelope rfl rfl) ?_
  rintro _ configured ⟨opened, kept⟩
  refine ends_bind (keeps_grants (beginExecution_granted input initial) configured reached kept) ?_
  rintro _ begun ⟨since, keptAll⟩
  apply ends_pure
  refine ⟨⟨opened.runId, ?_⟩, keptAll⟩
  obtain ⟨scope, granted, enforced⟩ := opened.scope
  exact ⟨scope, since _ _ granted, enforced⟩

section Host

variable (options : RunOptions) (localeBefore : String → String → Bool)

/-- The tables of the host and the attempts that opened, in order. -/
structure AgentHost where
  tables : RunTables
  attempts : List Attempt

def AgentHost.empty : AgentHost where
  tables := RunTables.empty
  attempts := []

inductive HostOp where
  | service (op : RunOp)
  | attempt (input : AttemptInput)

def hostStep (host : AgentHost) : HostOp → AgentHost
  | .service op => { host with tables := Runs.Operations.step options host.tables op }
  | .attempt input =>
    match (openAttempt localeBefore options input).run.run host.tables with
    | (.ok attempt, reached) =>
      { tables := reached
        attempts := host.attempts ++ [attempt] }
    | (.error _, reached) => { host with tables := reached }

/-- Any interleaving of service operations and attempts, from an empty host. -/
def hostReach (ops : List HostOp) : AgentHost :=
  Lib.Runs.run (hostStep options localeBefore) AgentHost.empty ops

def AgentHost.firstAttempt (host : AgentHost) (runId : String) : Option Attempt :=
  host.attempts.find? (fun attempt => decide (attempt.runId = runId))

def AgentHost.InEnvelope (host : AgentHost) (runId name : String) : Prop :=
  ∃ row, host.tables.delegations.envelopes.find runId = some row ∧ name ∈ row.scope.toolNames

/-- Two attempts of a run permit the same calls, and neither permits or executes a tool
outside the envelope of the run. -/
structure SameScope (host : AgentHost) (first later : Attempt) : Prop where
  permitted : ∀ way name, later.permits way name = true ↔ first.permits way name = true
  enveloped : ∀ attempt ∈ [first, later], ∀ way name, attempt.permits way name = true →
    host.InEnvelope attempt.runId name
  executed : ∀ attempt ∈ [first, later], ∀ context call,
    ∀ name ∈ attempt.executed context call, host.InEnvelope attempt.runId name

/-- A first attempt without an envelope shows the model every registered tool, and of
the granted tools the later attempt has the same ones registered. -/
structure ShowsAll (first later : Attempt) : Prop where
  shown : first.allowed = none → ∀ name, first.registry.has name = true →
    ∀ configured ∈ first.modelToolNames, name ∈ configured
  catalogue : ∀ name ∈ first.grant localeBefore,
    (first.registry.has name = true ↔ later.registry.has name = true)

end Host

variable {host : AgentHost}

/-- Every attempt enforces the envelope of its run, but for a first attempt that found
none: what that one showed is the envelope. -/
def Enforced (localeBefore : String → String → Bool) (host : AgentHost) : Prop :=
  ∀ attempt ∈ host.attempts, ∃ scope, Granted attempt.runId scope host.tables.delegations ∧
    (attempt.allowed = some scope.toolNames ∨
      (attempt.allowed = none ∧ host.firstAttempt attempt.runId = some attempt ∧
        ∀ name, name ∈ scope.toolNames ↔ name ∈ attempt.shownNames localeBefore))

theorem enforced_empty : Enforced localeBefore AgentHost.empty := by
  intro attempt attemptIn
  cases attemptIn

theorem enforced_before (enforced : Enforced localeBefore host) {reached : RunTables}
    (kept : Kept host.tables reached) (more : List Attempt) :
    ∀ attempt ∈ host.attempts, ∃ scope, Granted attempt.runId scope reached.delegations ∧
      (attempt.allowed = some scope.toolNames ∨
        (attempt.allowed = none ∧
          (AgentHost.mk reached (host.attempts ++ more)).firstAttempt attempt.runId = some attempt ∧
          ∀ name, name ∈ scope.toolNames ↔ name ∈ attempt.shownNames localeBefore)) := by
  intro attempt attemptIn
  obtain ⟨scope, granted, cases⟩ := enforced attempt attemptIn
  refine ⟨scope, kept _ _ granted, ?_⟩
  rcases cases with allowed | ⟨unscoped, isFirst, names⟩
  · exact .inl allowed
  · refine .inr ⟨unscoped, ?_, names⟩
    unfold AgentHost.firstAttempt at isFirst ⊢
    rw [List.find?_append, isFirst]
    rfl

theorem hostStep_enforced (host : AgentHost) (op : HostOp)
    (enforced : Enforced localeBefore host) :
    Enforced localeBefore (hostStep options localeBefore host op) := by
  cases op with
  | service op =>
    have kept : Kept host.tables (Runs.Operations.step options host.tables op) :=
      fun _ _ granted => step_granted host.tables op granted
    have before := enforced_before enforced kept []
    rw [List.append_nil] at before
    exact before
  | attempt input =>
    have opens := @openAttempt_opens options localeBefore input host.tables
    unfold Ends at opens
    cases ran : (openAttempt localeBefore options input).run.run host.tables with
    | mk result reached =>
      rw [ran] at opens
      cases result with
      | error failure =>
        have before := enforced_before enforced opens []
        rw [List.append_nil] at before
        simp only [hostStep, ran]
        exact before
      | ok attempt =>
        obtain ⟨opened, kept⟩ := opens
        simp only [hostStep, ran]
        intro other otherIn
        rcases List.mem_append.mp otherIn with old | new
        · exact enforced_before enforced kept [attempt] other old
        rw [List.mem_singleton] at new
        rw [new]
        obtain ⟨scope, granted, cases⟩ := opened.scope
        refine ⟨scope, granted, ?_⟩
        rcases cases with allowed | ⟨unscoped, missing, names⟩
        · exact .inl allowed
        refine .inr ⟨unscoped, ?_, names⟩
        -- an earlier attempt of the run would have left it an envelope
        have noEarlier : host.attempts.find?
            (fun other => decide (other.runId = attempt.runId)) = none := by
          rw [List.find?_eq_none]
          intro earlier earlierIn same
          obtain ⟨held, ⟨row, found, -⟩, -⟩ := enforced earlier earlierIn
          rw [of_decide_eq_true same, opened.runId, missing] at found
          cases found
        unfold AgentHost.firstAttempt
        rw [List.find?_append, noEarlier, List.find?_singleton]
        simp

theorem hostReach_enforced (ops : List HostOp) :
    Enforced localeBefore (hostReach options localeBefore ops) :=
  Lib.Runs.run_invariant _ (Enforced localeBefore) hostStep_enforced _ ops enforced_empty

theorem mem_shownNames (unscoped : attempt.allowed = none) (name : String) :
    name ∈ attempt.shownNames localeBefore ↔
      attempt.registry.has name = true ∧ ∀ configured ∈ attempt.modelToolNames, name ∈ configured := by
  rw [← mem_definitions localeBefore]
  unfold Attempt.shownNames Attempt.modelToolDefinitions
  rw [unscoped]
  cases shown : attempt.modelToolNames with
  | none => simp
  | some configured =>
    simp only [List.mem_map, List.mem_filter, List.contains_iff_mem, Option.mem_def,
      Option.some.injEq, forall_eq']
    constructor
    · intro listed
      obtain ⟨definition, ⟨definitionIn, isShown⟩, isName⟩ := listed
      rw [isName] at isShown
      exact ⟨⟨definition, definitionIn, isName⟩, isShown⟩
    · intro listed
      obtain ⟨⟨definition, definitionIn, isName⟩, isShown⟩ := listed
      rw [← isName] at isShown
      exact ⟨definition, ⟨definitionIn, isShown⟩, isName⟩

theorem offers_enforced {toolNames : List String} (allowed : attempt.allowed = some toolNames)
    (name : String) :
    attempt.offers name = true ↔ name ∈ toolNames ∧ attempt.registry.has name = true := by
  unfold Attempt.offers Attempt.inScope
  rw [allowed, Bool.and_eq_true]
  simp

theorem offers_unscoped (unscoped : attempt.allowed = none) (name : String) :
    attempt.offers name = attempt.registry.has name := by
  unfold Attempt.offers Attempt.inScope
  rw [unscoped]
  rfl

theorem offers_of_permits {way : Way} (permitted : attempt.permits way name = true) :
    attempt.offers name = true := by
  cases way with
  | direct => exact permitted
  | throughToolCall =>
    simp only [Attempt.permits, Bool.and_eq_true] at permitted
    exact permitted.2

theorem permits_of_offers (same : ∀ name, later.offers name = true ↔ first.offers name = true)
    (way : Way) (name : String) :
    later.permits way name = true ↔ first.permits way name = true := by
  cases way with
  | direct => exact same name
  | throughToolCall =>
    simp only [Attempt.permits, Bool.and_eq_true]
    rw [same toolCallName, same name]

section Pair

variable {scope : DelegationScope}

theorem inEnvelope_iff (granted : Granted later.runId scope host.tables.delegations)
    (name : String) : host.InEnvelope later.runId name ↔ name ∈ scope.toolNames := by
  obtain ⟨row, found, isScope⟩ := granted
  rw [← isScope]
  constructor
  · intro inside
    obtain ⟨other, foundOther, nameIn⟩ := inside
    rw [found, Option.some.injEq] at foundOther
    rw [foundOther]
    exact nameIn
  · intro nameIn
    exact ⟨row, found, nameIn⟩

variable (sameRun : first.runId = later.runId) (granted : Granted later.runId scope
  host.tables.delegations)

include sameRun granted

theorem sameScope_of_offers (same : ∀ name, later.offers name = true ↔ first.offers name = true)
    (within : ∀ name, first.offers name = true → name ∈ scope.toolNames) :
    SameScope host first later := by
  have inside : ∀ attempt ∈ [first, later], ∀ way name, attempt.permits way name = true →
      host.InEnvelope attempt.runId name := by
    intro attempt attemptIn way name permitted
    have offered := offers_of_permits permitted
    rcases List.mem_pair.mp attemptIn with isFirst | isLater
    · rw [isFirst] at offered
      rw [isFirst, sameRun]
      exact (inEnvelope_iff granted name).mpr (within name offered)
    · rw [isLater] at offered
      rw [isLater]
      exact (inEnvelope_iff granted name).mpr (within name ((same name).mp offered))
  refine ⟨permits_of_offers same, inside, ?_⟩
  intro attempt attemptIn context call name ran
  obtain ⟨way, permitted⟩ := executed_permitted context call ran
  exact inside attempt attemptIn way name permitted

theorem enveloped_iff (allowed : first.allowed = some scope.toolNames)
    (allowedLater : later.allowed = some scope.toolNames) :
    SameScope host first later ↔ ShowsAll localeBefore first later := by
  have isGrant : first.grant localeBefore = scope.toolNames := by
    unfold Attempt.grant
    rw [allowed]
    rfl
  constructor
  · intro same
    refine ⟨?_, ?_⟩
    · intro unscoped
      rw [allowed] at unscoped
      cases unscoped
    intro name nameIn
    rw [isGrant] at nameIn
    have direct := same.permitted .direct name
    simp only [Attempt.permits, offers_enforced allowed, offers_enforced allowedLater] at direct
    constructor
    · intro registered
      exact (direct.mpr ⟨nameIn, registered⟩).2
    · intro registered
      exact (direct.mp ⟨nameIn, registered⟩).2
  · intro shows
    apply sameScope_of_offers sameRun granted
    · intro name
      rw [offers_enforced allowed, offers_enforced allowedLater]
      apply and_congr_right
      intro nameIn
      rw [← isGrant] at nameIn
      exact (shows.catalogue name nameIn).symm
    · intro name offered
      exact ((offers_enforced allowed name).mp offered).1

theorem written_iff (unscoped : first.allowed = none)
    (names : ∀ name, name ∈ scope.toolNames ↔ name ∈ first.shownNames localeBefore)
    (isLater : later = first ∨ later.allowed = some scope.toolNames) :
    SameScope host first later ↔ ShowsAll localeBefore first later := by
  have isGrant : first.grant localeBefore = first.shownNames localeBefore := by
    unfold Attempt.grant
    rw [unscoped]
    rfl
  have shownOf : ∀ name, name ∈ scope.toolNames ↔ first.registry.has name = true ∧
      ∀ configured ∈ first.modelToolNames, name ∈ configured := by
    intro name
    rw [names, mem_shownNames unscoped]
  constructor
  · intro same
    refine ⟨?_, ?_⟩
    · intro _ name registered
      have offered : first.permits .direct name = true := by
        change first.offers name = true
        rw [offers_unscoped unscoped]
        exact registered
      have inside := same.enveloped first (List.mem_cons_self ..) .direct name offered
      rw [sameRun, inEnvelope_iff granted, shownOf] at inside
      exact inside.2
    · intro name nameIn
      rw [isGrant, ← names, shownOf] at nameIn
      refine iff_of_true nameIn.1 ?_
      have direct := same.permitted .direct name
      simp only [Attempt.permits, offers_unscoped unscoped] at direct
      have offered := direct.mpr nameIn.1
      unfold Attempt.offers at offered
      rw [Bool.and_eq_true] at offered
      exact offered.2
  · intro shows
    have within : ∀ name, first.offers name = true ↔ name ∈ scope.toolNames := by
      intro name
      rw [offers_unscoped unscoped, shownOf]
      constructor
      · intro registered
        exact ⟨registered, shows.shown unscoped name registered⟩
      · intro both
        exact both.1
    apply sameScope_of_offers sameRun granted
    · intro name
      rcases isLater with isFirst | enforced
      · rw [isFirst]
      rw [within, offers_enforced enforced]
      constructor
      · intro both
        exact both.1
      · intro nameIn
        have granted := (names name).mp nameIn
        rw [← isGrant] at granted
        exact ⟨nameIn, (shows.catalogue name granted).mp ((shownOf name).mp nameIn).1⟩
    · intro name offered
      exact (within name).mp offered

end Pair

/-- In every state of every run, the first attempt of a run and any later one have the
same scope exactly when the first had an envelope or showed the model every registered
tool, and the later one still has the granted tools registered. -/
theorem tool_scope_iff (ops : List HostOp) (first later : Attempt)
    (isFirst : (hostReach options localeBefore ops).firstAttempt later.runId = some first)
    (opened : later ∈ (hostReach options localeBefore ops).attempts) :
    SameScope (hostReach options localeBefore ops) first later ↔
      ShowsAll localeBefore first later := by
  have enforced := @hostReach_enforced options localeBefore ops
  have named := List.find?_some isFirst
  have sameRun : first.runId = later.runId := of_decide_eq_true named
  obtain ⟨scope, granted, scopedFirst⟩ := enforced first (List.mem_of_find?_eq_some isFirst)
  obtain ⟨other, grantedLater, scopedLater⟩ := enforced later opened
  rw [sameRun] at granted scopedFirst
  have sameScope : other = scope := by
    obtain ⟨row, found, isScope⟩ := granted
    obtain ⟨rowLater, foundLater, isOther⟩ := grantedLater
    rw [found, Option.some.injEq] at foundLater
    rw [← isOther, ← foundLater, isScope]
  rw [sameScope] at scopedLater
  have isLater : later = first ∨ later.allowed = some scope.toolNames := by
    rcases scopedLater with allowed | ⟨-, isOpened, -⟩
    · exact .inr allowed
    · rw [isFirst, Option.some.injEq] at isOpened
      exact .inl isOpened.symm
  rcases scopedFirst with allowed | ⟨unscoped, -, names⟩
  · have allowedLater : later.allowed = some scope.toolNames := by
      rcases isLater with same | allowedLater
      · rw [same]
        exact allowed
      · exact allowedLater
    exact enveloped_iff sameRun granted allowed allowedLater
  · exact written_iff sameRun granted unscoped names isLater

def toolNamed (name : String) : RegisteredTool :=
  if other : name ≠ toolCallName then
    .program
      { name := name, description := name, inputSchema := .object [("type", .text "object")] }
      (fun _ => true)
      (fun _ _ => .ok
        { output := .object []
          isError := false })
      other
  else .callTool

def productNames : List String :=
  "workspace.write" :: (toolDiscoveryControlNames ++ defaultDirectToolNames)

def productTools : Registry where
  tools := productNames.map toolNamed
  distinct := by decide +kernel
  named := by decide +kernel

def inOrder (first second : String) : Bool := decide (first ≤ second)

def productView : ToolDiscoveryView :=
  resolveToolDiscoveryView inOrder productTools
    { directToolNames := none, preferredToolNames := none, compactThreshold := none }

def attemptAt (now : Nat) (modelToolNames : Option (List String)) : HostOp :=
  .attempt
    { runId := "r1"
      registry := productTools
      modelToolNames := modelToolNames
      budget := smallBudget.execution
      providerId := "p"
      modelId := "m"
      configured := callAt now []
      started := callAt now ["e" ++ toString now] }

def resumedOps (modelToolNames : Option (List String)) : List HostOp :=
  [ .service (.createConversation
      { conversationId := "c1"
        workspaceId := "main" }),
    .service (.send
      { workspaceId := "main", conversationId := "c1", submissionKey := "s1", text := "go" }
      (callAt 1 ["m1", "r1", "a1", "e1"])),
    attemptAt 2 modelToolNames,
    .service (.waitForApproval "r1" "q1" 0 (callAt 3 ["e3"])),
    attemptAt 4 modelToolNames ]

/-- An attempt whose model is shown everything, and its resumed one. -/
theorem shown_tools_kept :
    ∃ first later,
      (hostReach mainHost inOrder (resumedOps none)).firstAttempt later.runId = some first ∧
      later ∈ (hostReach mainHost inOrder (resumedOps none)).attempts ∧
      SameScope (hostReach mainHost inOrder (resumedOps none)) first later := by
  have two : (hostReach mainHost inOrder (resumedOps none)).attempts.length = 2 := by
    decide +kernel
  have read : (hostReach mainHost inOrder (resumedOps none)).attempts.map (fun attempt =>
      (attempt.runId, attempt.modelToolNames, attempt.registry.tools.map RegisteredTool.name)) =
        [("r1", none, productNames), ("r1", none, productNames)] := by
    decide +kernel
  obtain ⟨first, later, attempts⟩ := List.length_eq_two.mp two
  rw [attempts] at read
  simp only [List.map_cons, List.map_nil, List.cons.injEq, Prod.mk.injEq, and_true] at read
  obtain ⟨⟨firstRun, firstShown, firstTools⟩, laterRun, -, laterTools⟩ := read
  have isFirst : (hostReach mainHost inOrder (resumedOps none)).firstAttempt later.runId =
      some first := by
    unfold AgentHost.firstAttempt
    rw [attempts, List.find?_cons_of_pos]
    rw [firstRun, laterRun]
    decide
  have opened : later ∈ (hostReach mainHost inOrder (resumedOps none)).attempts := by
    rw [attempts]
    exact List.mem_pair.mpr (.inr rfl)
  refine ⟨first, later, isFirst, opened, (tool_scope_iff _ first later isFirst opened).mpr ?_⟩
  refine ⟨?_, ?_⟩
  · intro _ name _ configured isConfigured
    rw [firstShown] at isConfigured
    cases isConfigured
  · intro name _
    unfold Registry.has
    rw [firstTools, laterTools]

/-- Every attempt of every run has the scope of the first one. -/
def ToolScopeStable (options : RunOptions) (localeBefore : String → String → Bool) : Prop :=
  ∀ ops first later,
    (hostReach options localeBefore ops).firstAttempt later.runId = some first →
    later ∈ (hostReach options localeBefore ops).attempts →
    SameScope (hostReach options localeBefore ops) first later

/-- The view hides `workspace.write`: the first attempt executes it through `tool.call`,
the resumed one refuses it. -/
theorem hidden_tool_lost : ¬ ToolScopeStable mainHost inOrder := by
  intro stable
  have two : (hostReach mainHost inOrder
      (resumedOps (some productView.visibleNames))).attempts.length = 2 := by
    decide +kernel
  have read : (hostReach mainHost inOrder
      (resumedOps (some productView.visibleNames))).attempts.map (fun attempt =>
        (attempt.runId, attempt.permits .throughToolCall "workspace.write")) =
          [("r1", true), ("r1", false)] := by
    decide +kernel
  obtain ⟨first, later, attempts⟩ := List.length_eq_two.mp two
  rw [attempts] at read
  simp only [List.map_cons, List.map_nil, List.cons.injEq, Prod.mk.injEq, and_true] at read
  obtain ⟨⟨firstRun, executes⟩, laterRun, refuses⟩ := read
  have same := stable (resumedOps (some productView.visibleNames)) first later (by
    unfold AgentHost.firstAttempt
    rw [attempts, List.find?_cons_of_pos]
    rw [firstRun, laterRun]
    decide) (by
    rw [attempts]
    exact List.mem_pair.mpr (.inr rfl))
  have lost := (same.permitted .throughToolCall "workspace.write").mpr executes
  rw [refuses] at lost
  cases lost

end OpenRill.Tools.ToolScope
