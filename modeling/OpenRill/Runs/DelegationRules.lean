import OpenRill.Runs.LedgerRules

/-!
# Invariants of the delegation tables under every operation

Half of the operations write the ledger alone. The others write the delegation tables in a few
ways: waits and deliveries of results, the status of a delegation and the release of its
reservation, and the envelope, the delegation and the reservation of a new child. An
invariant that withstands those writes is kept by every operation.
-/

namespace OpenRill.Runs.DelegationRules

open Lib Lib.Transaction State Ledger Delegations Lifecycle DelegationService Operations
open LedgerRules

variable {options : RunOptions} {now : Nat} {before : DelegationStore → Prop} {delivering : Prop}
variable {status : DelegationStatus} {Value : Type}
variable {working : DelegationRow → Prop → DelegationStatus → DelegationStore → Prop}
variable {store : DelegationStore} {current : DelegationRow} {usage : Usage}
variable {body : DelegationTransaction Value}

def OnDelegations (invariant : DelegationStore → Prop) (tables : RunTables) : Prop :=
  invariant tables.delegations

variable {invariant : DelegationStore → Prop}

theorem onLedger_spares {Value : Type} (body : LedgerTransaction Value) :
    Keeps (OnDelegations invariant) (onLedger body) :=
  keeps_focus_other body fun _ _ kept => kept

theorem onDelegations_ensures {after : Value → DelegationStore → Prop}
    (triple : Ensures before body after) :
    Ensures (OnDelegations before) (onDelegations body)
      (fun value => OnDelegations (after value)) :=
  ensures_focus fun whole value reached initially done =>
    triple whole.delegations value reached initially done

theorem onDelegations_kept (kept : Keeps invariant body) :
    Keeps (OnDelegations invariant) (onDelegations body) :=
  onDelegations_ensures kept

theorem checkIdentity_keeps {property : RunTables → Prop} (parentRun : RunRow)
    (identity : Option ToolWaitIdentity) : Keeps property (checkIdentity parentRun identity) := by
  cases identity with
  | none => exact keeps_pure ()
  | some identity =>
    refine keeps_bind (bounded_keeps _ _ _ _) fun _ => ?_
    refine keeps_bind (bounded_keeps _ _ _ _) fun _ => ?_
    exact keeps_demand fun _ => keeps_demand_last _ _

theorem terminateRun_spares (childRunId : String) (termination : Termination)
    (errorCode : String) (now : Nat) (createId : Nat → String) :
    Keeps (OnDelegations invariant)
      (terminateRun options childRunId termination errorCode now createId) := by
  refine keeps_bind (bounded_keeps _ _ _ _) fun _ => keeps_inspect fun tables _ => ?_
  split
  next => exact keeps_pure false
  next =>
    refine keeps_expect fun childRun _ => ?_
    refine keeps_ite (fun _ => keeps_pure true) fun _ => ?_
    exact keeps_bind (onLedger_spares _) fun _ => keeps_pure true

theorem waitForDelegation_spares (runId delegationId toolCallId : String) (now : Nat)
    (createId : Nat → String) :
    Keeps (OnDelegations invariant)
      (waitForDelegation options runId delegationId toolCallId now createId) := by
  refine keeps_inspect fun tables _ => keeps_expect fun run _ => ?_
  refine keeps_expect fun attemptId _ => keeps_demand fun _ => ?_
  exact keeps_expect fun wait _ => keeps_demand fun _ => onLedger_spares _

theorem recoverIncompleteRuns_spares (now : Nat) (createId : Nat → String) :
    Keeps (OnDelegations invariant) (recoverIncompleteRuns options now createId) := by
  refine keeps_inspect fun tables _ => keeps_forEach _ _ _ fun output run _ => ?_
  exact keeps_inspect fun _ _ => keeps_bind (onLedger_spares _) fun _ => keeps_pure _

/-- The writes to waits and to deliveries of results, with the latter only when the invariant
withstands them. -/
structure WaitRules (delivering : Prop) (invariant : DelegationStore → Prop) : Prop where
  waits : ∀ store waits, invariant store → invariant { store with waits := waits }
  deliveries : delivering → ∀ store deliveries, invariant store →
    invariant { store with resultDeliveries := deliveries }

/-- What the tables keep while one delegation is settled, by its status and by whether its
reservation is known to be held, and the writes that this withstands. -/
structure SettleRules (delivering : Prop) (invariant : DelegationStore → Prop)
    (working : DelegationRow → Prop → DelegationStatus → DelegationStore → Prop) : Prop where
  resting : WaitRules delivering invariant
  opens : ∀ store current, store.delegations.find current.delegationId = some current →
    invariant store → working current (current.status.active = true) current.status store
  weakens : ∀ store current held weaker status, (weaker → held) →
    working current held status store → working current weaker status store
  closes : ∀ store current held status, (status.active = true → held) →
    working current held status store → invariant store
  waits : ∀ current held status, WaitRules delivering (working current held status)
  moved : ∀ current held status next startedAt endedAt resultSha256 now,
    Ensures (working current held status)
      (updateDelegationStatus current.delegationId next startedAt endedAt resultSha256 now)
      (fun _ => working current held next)
  released : ∀ current held status reason now,
    Ensures (working current held status) (releaseReservation current reason now)
      (fun _ => working current False status)

section

variable (rules : WaitRules delivering invariant)
include rules

section

variable (parentRunId delegationId : String)
include parentRunId delegationId

theorem deleteWait_keeps : Keeps invariant (deleteWait parentRunId delegationId) :=
  keeps_inspect fun _ _ => keeps_bind (keeps_change fun store kept =>
    rules.waits store _ kept) fun _ => keeps_pure _

theorem insertWait_keeps (now : Nat) :
    Keeps invariant (insertWait parentRunId delegationId now) := by
  refine keeps_inspect fun _ _ => ?_
  split
  next row _ =>
    exact keeps_demand fun _ => keeps_change fun store kept => rules.waits store _ kept
  next =>
    apply keeps_tryMap
    intro store waits kept _
    exact rules.waits store waits kept

theorem bindResultDelivery_keeps (now : Nat) (identity : Option ToolWaitIdentity)
    (binds : identity.isSome = true → delivering) :
    Keeps invariant (bindResultDelivery parentRunId delegationId now identity) := by
  cases identity with
  | none => exact keeps_pure ()
  | some identity =>
    refine keeps_inspect fun _ _ => ?_
    split
    next => exact keeps_demand_last _ _
    next =>
      refine keeps_inspect fun _ _ => keeps_demand fun _ => keeps_tryChange ?_
      intro store reached kept done
      obtain ⟨deliveries, -, rfl⟩ := Option.map_eq_some_iff.mp done
      exact rules.deliveries (binds rfl) store deliveries kept

end

theorem markResultDelivered_keeps (delivers : delivering) (delegationId digest : String)
    (now : Nat) :
    Keeps invariant (markResultDelivered delegationId digest now) := by
  refine keeps_inspect fun _ _ => keeps_expect fun row _ => keeps_demand fun _ => ?_
  exact keeps_change fun store kept => rules.deliveries delivers store _ kept

theorem clearWait_keeps (parentRunId delegationId : String) :
    Keeps invariant (clearWait parentRunId delegationId) :=
  keeps_bind (deleteWait_keeps rules _ _) fun _ => keeps_inspect fun _ _ => keeps_pure _

end

section

variable (rules : SettleRules delivering invariant working)
include rules

theorem opens_active (found : store.delegations.find current.delegationId = some current)
    (active : current.status.active = true) (kept : invariant store) :
    working current True current.status store :=
  rules.weakens store current _ True current.status (fun _ => active)
    (rules.opens store current found kept)

theorem closes_ended (ended : status.active = false)
    (reached : working current False status store) :
    invariant store :=
  rules.closes store current False status (fun active => by rw [ended] at active; cases active)
    reached

theorem settleTransition_settles (current : DelegationRow) (now : Nat) (status : DelegationStatus) :
    Ensures (working current True status) (settleTransition current now status)
      (fun _ => invariant) := by
  have ending : ∀ store, working current True status store → invariant store :=
    fun store reached => rules.closes store current True status (fun _ => trivial) reached
  cases status with
  | ended outcome =>
    refine ensures_bind (rules.released current True _ outcome now) fun _ => ?_
    refine ensures_bind (deleteWait_keeps (rules.waits current False _) _ _) fun _ => ?_
    exact ensures_pure () fun _ reached => closes_ended rules rfl reached
  | created => exact ensures_pure () ending
  | running => exact ensures_pure () ending
  | waiting => exact ensures_pure () ending

end

theorem allowed_from_active {current : DelegationStatus}
    (allowed : delegationAllowed current status = true) : current.active = true := by
  cases current with
  | ended outcome => cases allowed
  | created => rfl
  | running => rfl
  | waiting => rfl

section

variable (rules : SettleRules delivering invariant working)
include rules

theorem transitionDelegation_settles (delegationId : String) (status : DelegationStatus)
    (resultSummary : Option String) (now : Nat) :
    Keeps invariant (transitionDelegation options delegationId status resultSummary now) := by
  apply ensures_inspect_at
  intro store kept
  apply ensures_expect_then
  intro current found
  have key : current.delegationId = delegationId := store.delegations.key_of_find found
  subst key
  apply ensures_demand_then
  intro allowed
  refine ensures_from (working current True current.status) ?_ ?_
  · refine ensures_bind (rules.moved _ _ _ _ _ _ _ _) (fun _ => ?_)
    refine ensures_bind (settleTransition_settles rules current now status) fun _ => ?_
    exact keeps_inspect fun _ _ => keeps_expect_last _ _
  · rintro state rfl
    exact opens_active rules found (allowed_from_active allowed) kept

theorem markWaiting_settles (parentRunId delegationId : String) (identity : Option ToolWaitIdentity)
    (binds : identity.isSome = true → delivering) (now : Nat) :
    Keeps (OnDelegations invariant) (markWaiting parentRunId delegationId identity now) := by
  apply ensures_at
  intro tables kept
  apply ensures_read
  apply ensures_expect_then
  intro delegation found
  have key : delegation.delegationId = delegationId :=
    tables.delegations.delegations.key_of_find found
  subst key
  apply ensures_demand_then
  intro _
  apply ensures_demand_then
  intro active
  apply ensures_expect_then
  intro parentRun _
  apply ensures_demand_then
  intro _
  refine ensures_bind (checkIdentity_keeps _ _) fun _ => ?_
  refine ensures_from (OnDelegations (working delegation True delegation.status))
    (onDelegations_ensures ?_) ?_
  · have moved : Ensures (working delegation True delegation.status)
        (whenever (delegation.status ≠ .waiting)
          (updateDelegationStatus delegation.delegationId .waiting (some now) none none now))
        (fun _ => working delegation True .waiting) := by
      apply ensures_whenever
      · exact fun _ => rules.moved _ _ _ _ _ _ _ _
      · intro isWaiting store reached
        rw [← not_not.mp isWaiting]
        exact reached
    have waits := rules.waits delegation True .waiting
    refine ensures_bind moved fun _ => ?_
    refine ensures_bind (insertWait_keeps waits _ _ _) fun _ => ?_
    refine ensures_bind (bindResultDelivery_keeps waits _ _ _ _ binds) fun _ => ?_
    refine ensures_bind (keeps_inspect_last id) fun _ => ensures_pure _ ?_
    exact fun store reached => rules.closes store _ _ _ (fun _ => trivial) reached
  · rintro state rfl
    exact opens_active rules found active kept

theorem settleDelegation_settles (current : DelegationRow) (outcome : DelegationOutcome)
    (resultSha256 : String) (now : Nat) :
    Ensures (working current False current.status)
      (settleDelegation current outcome resultSha256 now)
      (fun _ store => ∃ status, status.active = false ∧ working current False status store) := by
  apply ensures_ite
  · intro _
    refine ensures_bind (rules.moved _ _ _ _ _ _ _ _) fun _ => ?_
    refine ensures_bind (keeps_inspect_last _) fun _ => ?_
    exact ensures_mono (keeps_expect_last _ _) (fun _ reached => reached)
      fun _ _ reached => ⟨.ended outcome, rfl, reached⟩
  · intro notActive
    refine ensures_bind (keeps_demand_last _ _) fun _ => ensures_pure current ?_
    exact fun store reached => ⟨current.status, eq_false_of_ne_true notActive, reached⟩

theorem completeEnded_settles (delivers : delivering) (current : DelegationRow)
    (outcome : DelegationOutcome) (now : Nat) (createId : Nat → String) {held : Prop} :
    Ensures (OnDelegations (working current held current.status))
      (completeEnded options current outcome now createId)
      (fun _ => OnDelegations invariant) := by
  refine ensures_bind (onLedger_spares _) fun result => ?_
  refine ensures_bind (onDelegations_ensures (rules.released current held _ outcome now))
    fun _ => ?_
  refine ensures_bind (onDelegations_ensures
    (settleDelegation_settles rules current outcome (options.resultSha256 result) now))
    fun updated => ?_
  apply ensures_at
  rintro tables ⟨status, ended, reached⟩
  apply ensures_read
  split
  next => exact ensures_return _ (closes_ended rules ended reached)
  next delivery _ =>
    split
    next =>
      apply ensures_demand_then
      intro _
      exact ensures_return _ (closes_ended rules ended reached)
    next =>
      apply ensures_expect_then
      intro parentRun _
      have waits := rules.waits current False status
      refine ensures_from (OnDelegations (working current False status)) ?_ ?_
      · refine ensures_bind (onLedger_spares _) (fun _ => ?_)
        refine ensures_bind (onDelegations_ensures
          (keeps_bind (markResultDelivered_keeps waits delivers _ _ _) fun _ =>
            keeps_bind (deleteWait_keeps waits _ _) fun _ => keeps_pure ())) fun _ => ?_
        exact ensures_pure _ fun _ settled => closes_ended rules ended settled
      · rintro state rfl
        exact reached

theorem completeChild_settles (delivers : delivering) (childRunId : String) (now : Nat)
    (createId : Nat → String) :
    Keeps (OnDelegations invariant) (completeChild options childRunId now createId) := by
  apply ensures_at
  intro tables kept
  apply ensures_read
  split
  next => exact ensures_return none kept
  next current listed =>
    split
    next => exact ensures_return none kept
    next childRun _ =>
      have found : tables.delegations.delegations.find current.delegationId = some current :=
        tables.delegations.delegations.find_of_mem (List.mem_of_find?_eq_some listed)
      split
      next =>
        refine ensures_from (OnDelegations
          (working current (current.status.active = true) current.status)) ?_ ?_
        · refine ensures_bind (completeEnded_settles rules delivers current _ now createId)
            fun _ => ?_
          exact ensures_pure _ fun _ reached => reached
        · rintro state rfl
          exact rules.opens _ current found kept
      next => exact ensures_return none kept

theorem failChildBeforeStart_settles (delegationId errorCode : String) (now : Nat)
    (createId : Nat → String) :
    Keeps (OnDelegations invariant)
      (failChildBeforeStart options delegationId errorCode now createId) := by
  refine ensures_bind (bounded_keeps _ _ _ _) fun _ => ?_
  apply ensures_at
  intro tables kept
  apply ensures_read
  apply ensures_expect_then
  intro delegation found
  have key : delegation.delegationId = delegationId :=
    tables.delegations.delegations.key_of_find found
  subst key
  split
  next => exact ensures_return delegation kept
  next =>
    apply ensures_expect_then
    intro childRun _
    apply ensures_expect_then
    intro attemptId _
    refine ensures_from (OnDelegations
      (working delegation (delegation.status.active = true) delegation.status)) ?_ ?_
    · refine ensures_bind (onLedger_spares _) (fun _ => ?_)
      refine ensures_bind (onLedger_spares _) fun result => onDelegations_ensures ?_
      refine ensures_bind (rules.released delegation _ _ .failed now) fun _ => ?_
      refine ensures_bind (rules.moved _ _ _ _ _ _ _ _) fun _ => ?_
      refine ensures_bind (keeps_inspect_last _) fun _ => ?_
      exact ensures_mono (keeps_expect_last _ _) (fun _ reached => reached)
        fun _ _ reached => closes_ended rules rfl reached
    · rintro state rfl
      exact rules.opens _ delegation found kept

end

section Opening

structure OpenRules (before invariant : DelegationStore → Prop) : Prop where
  entails : ∀ store, before store → invariant store
  opened : ∀ row, row.used = 0 → row.delegatedUsed = 0 →
    Ensures before (insertBudgetEnvelope row) (fun _ => invariant)

variable (rules : OpenRules before invariant)

include rules

theorem configureRootBudget_opens (input : RootBudgetInput) (now : Nat) :
    Ensures (OnDelegations before) (configureRootBudget options input now)
      (fun _ => OnDelegations invariant) := by
  refine ensures_bind (normalizeBudget_keeps _) fun budget => ?_
  refine ensures_bind (normalizeScope_keeps _) fun scope => ?_
  refine ensures_inspect_then fun tables _ => ensures_expect_then fun run _ => ?_
  refine ensures_expect_then fun conversation _ => ensures_demand_then fun _ => ?_
  split
  next existing _ =>
    refine ensures_demand_then fun _ => ensures_pure existing ?_
    exact fun state initially => rules.entails state.delegations initially
  next =>
    refine ensures_bind (onDelegations_ensures (rules.opened _ rfl rfl)) fun _ => ?_
    exact ensures_pure _ fun _ kept => kept

theorem startExecution_opens (input : StartInput) (now : Nat) (createId : Nat → String) :
    Ensures (OnDelegations before) (startExecution options input now createId)
      (fun _ => OnDelegations invariant) := by
  refine ensures_inspect_then fun tables _ => ensures_expect_then fun run _ => ?_
  refine ensures_demand_then fun _ => ensures_bind (onLedger_spares _) fun _ => ?_
  refine ensures_expect_then fun conversation _ => ?_
  have opens : ∀ existing row, row.used = 0 → row.delegatedUsed = 0 →
      Ensures (OnDelegations before) (openEnvelope existing row)
        (fun _ => OnDelegations invariant) := by
    intro existing row unused uncharged
    cases existing with
    | some existing =>
      exact ensures_mono (ensures_demand _ _) (fun _ holds => holds)
        fun _ state holds => rules.entails state.delegations holds.1
    | none => exact onDelegations_ensures (rules.opened row unused uncharged)
  exact ensures_bind (opens _ _ rfl rfl) fun _ => onLedger_spares _

theorem updateExecutionUsage_opens {runId : String} {usage : Usage} {reason : Option String}
    {now : Nat}
    (reported : Ensures before (updateBudgetUsage runId usage now) (fun _ => invariant)) :
    Ensures (OnDelegations before) (updateExecutionUsage runId usage reason now)
      (fun _ => OnDelegations invariant) := by
  refine ensures_inspect_then fun tables _ => ensures_expect_then fun run _ => ?_
  refine ensures_expect_then fun attemptId _ => ensures_bind (onLedger_spares _) fun _ => ?_
  exact onDelegations_ensures (ensures_whenever (fun _ => reported)
    fun _ store initially => rules.entails store initially)

end Opening

def reportedUsage : RunOp → Option (String × Usage)
  | .updateExecutionUsage runId usage _ _ => some (runId, usage)
  | .waitForApproval runId _ usage _ => some (runId, usage)
  | .waitForDelegation runId _ _ usage _ => some (runId, usage)
  | .completeExecution runId usage _ _ _ => some (runId, usage)
  | .failExecution runId usage _ _ _ => some (runId, usage)
  | _ => none

/-- The operations that may write the deliveries of results. -/
def Delivers : RunOp → Prop
  | .markWaiting _ _ identity _ => identity.isSome = true
  | .completeChild _ _ => True
  | .terminateChild _ _ _ _ => True
  | _ => False

variable {body : RunTransaction Value} {tables : RunTables}

theorem perform_leads (initially : OnDelegations before tables)
    (kept : OnDelegations invariant tables)
    (triple : Ensures (OnDelegations before) body (fun _ => OnDelegations invariant)) :
    OnDelegations invariant (perform body tables) :=
  perform_ensures triple initially kept

theorem report_leads {runId : String} {reason : Option String} {second : RunTransaction Value}
    (initially : OnDelegations before tables) (kept : OnDelegations invariant tables)
    (triple : Ensures (OnDelegations before) (updateExecutionUsage runId usage reason now)
      (fun _ => OnDelegations invariant)) (spares : Keeps (OnDelegations invariant) second) :
    OnDelegations invariant
      (performThen (updateExecutionUsage runId usage reason now) (fun _ => second) tables) := by
  unfold performThen
  cases reported : (updateExecutionUsage runId usage reason now).run tables with
  | error failure => exact kept
  | ok pair => exact perform_keeps spares (triple tables pair.1 pair.2 initially reported)

theorem step_leads (op : RunOp) (rules : SettleRules delivering invariant working)
    (delivers : Delivers op → delivering) (opening : OpenRules before invariant)
    (creates : ∀ input now createId, Ensures (OnDelegations before)
      (createDelegatedRun options input now createId) (fun _ => OnDelegations invariant))
    (reports : ∀ runId usage, reportedUsage op = some (runId, usage) → ∀ now,
      Ensures before (updateBudgetUsage runId usage now) (fun _ => invariant))
    (initially : OnDelegations before tables) :
    OnDelegations invariant (Operations.step options tables op) := by
  have kept : OnDelegations invariant tables := opening.entails tables.delegations initially
  have reporting := fun runId usage isReport reason now =>
    @updateExecutionUsage_opens before invariant opening runId usage reason now
      (reports runId usage isReport now)
  cases op with
  | createConversation row => exact perform_keeps (onLedger_spares _) kept
  | appendMessage row => exact perform_keeps (onLedger_spares _) kept
  | recordArtifact row => exact perform_keeps (onLedger_spares _) kept
  | classifyRun runId input call => exact perform_keeps (onLedger_spares _) kept
  | linkTask row => exact perform_keeps (onLedger_spares _) kept
  | appendEvent input call => exact perform_keeps (onLedger_spares _) kept
  | send input call => exact perform_keeps (onLedger_spares _) kept
  | prepareExecutionAttempt runId call => exact perform_keeps (onLedger_spares _) kept
  | startExecution input call =>
    exact perform_leads initially kept (startExecution_opens opening _ _ _)
  | updateExecutionUsage runId usage reason call =>
    exact perform_leads initially kept (reporting _ _ rfl _ _)
  | transitionRun input call => exact perform_keeps (onLedger_spares _) kept
  | waitForApproval runId requestId usage call =>
    exact report_leads initially kept (reporting _ _ rfl _ _) (onLedger_spares _)
  | waitForDelegation runId delegationId toolCallId usage call =>
    exact report_leads initially kept (reporting _ _ rfl _ _) (waitForDelegation_spares _ _ _ _ _)
  | completeExecution runId usage reason completionText call =>
    exact report_leads initially kept (reporting _ _ rfl _ _) (onLedger_spares _)
  | failExecution runId usage errorCode message call =>
    exact report_leads initially kept (reporting _ _ rfl _ _) (onLedger_spares _)
  | resumeExecution runId call => exact perform_keeps (onLedger_spares _) kept
  | cancel input call => exact perform_keeps (onLedger_spares _) kept
  | markExecutionLost runId errorCode call => exact perform_keeps (onLedger_spares _) kept
  | interruptExecution runId reason call => exact perform_keeps (onLedger_spares _) kept
  | recoverIncompleteRuns call =>
    exact perform_keeps (recoverIncompleteRuns_spares _ _) kept
  | configureRootBudget input call =>
    exact perform_leads initially kept (configureRootBudget_opens opening _ _)
  | createDelegatedRun input call => exact perform_leads initially kept (creates _ _ _)
  | markWaiting parentRunId delegationId identity call =>
    exact perform_keeps (markWaiting_settles rules _ _ _ delivers _) kept
  | clearWait parentRunId delegationId =>
    exact perform_keeps (onDelegations_kept (clearWait_keeps rules.resting _ _)) kept
  | transitionDelegation delegationId status resultSummary call =>
    exact perform_keeps (onDelegations_kept (transitionDelegation_settles rules _ _ _ _)) kept
  | completeChild childRunId call =>
    exact perform_keeps (completeChild_settles rules (delivers trivial) _ _ _) kept
  | failChildBeforeStart delegationId errorCode call =>
    exact perform_keeps (failChildBeforeStart_settles rules _ _ _ _) kept
  | terminateChild childRunId termination errorCode call =>
    exact performThen_keeps (terminateRun_spares _ _ _ _ _)
      (fun known => keeps_ite (fun _ => completeChild_settles rules (delivers trivial) _ _ _)
        fun _ => keeps_pure none) kept

section Graph

/-- The writes that an invariant of the envelopes has to withstand. -/
structure EnvelopeRules (delivering : Prop) (invariant : DelegationStore → Prop) : Prop where
  unrelated : ∀ store changed, changed.envelopes = store.envelopes →
    delivering ∨ changed.resultDeliveries = store.resultDeliveries →
    invariant store → invariant changed
  charged : ∀ store parent usage now, store.envelopes.find parent.runId = some parent →
    invariant store →
    invariant { store with envelopes := store.envelopes.update (parent.charging usage now) }

/-- With new envelopes and reports of usage. -/
structure GraphRules (delivering : Prop) (invariant : DelegationStore → Prop) : Prop extends
    EnvelopeRules delivering invariant where
  opened : ∀ row, Keeps invariant (insertBudgetEnvelope row)
  reported : ∀ runId usage now, Keeps invariant (updateBudgetUsage runId usage now)

section

variable (rules : EnvelopeRules delivering invariant)
include rules

theorem releaseBudgetReservation_keeps {delegationId : String} {reason : DelegationOutcome} :
    Keeps invariant (releaseBudgetReservation delegationId reason usage now) := by
  refine keeps_inspect fun _ _ => keeps_expect fun current _ => ?_
  split
  next => exact keeps_demand fun _ => keeps_pure false
  next =>
    refine keeps_bind (keeps_change fun store kept =>
      rules.unrelated store _ rfl (Or.inr rfl) kept) fun _ => ?_
    apply ensures_inspect_at
    intro store kept
    apply ensures_expect_then
    intro parent found
    apply ensures_write
    apply ensures_return
    have key : parent.runId = current.parentRunId := store.envelopes.key_of_find found
    rw [← key] at found
    exact rules.charged store parent usage now found kept

theorem waitRules_of_envelopes : WaitRules delivering invariant where
  waits store _ kept := rules.unrelated store _ rfl (Or.inr rfl) kept
  deliveries delivers store _ kept := rules.unrelated store _ rfl (Or.inl delivers) kept

theorem updateDelegationStatus_keeps (delegationId : String) {startedAt endedAt : Option Nat}
    {resultSha256 : Option String} :
    Keeps invariant
      (updateDelegationStatus delegationId status startedAt endedAt resultSha256 now) :=
  keeps_inspect fun _ _ => keeps_expect fun _ _ => keeps_change fun store kept =>
    rules.unrelated store _ rfl (Or.inr rfl) kept

theorem settleRules_of_envelopes : SettleRules delivering invariant (fun _ _ _ => invariant) where
  resting := waitRules_of_envelopes rules
  opens _ _ _ kept := kept
  weakens _ _ _ _ _ _ kept := kept
  closes _ _ _ _ _ kept := kept
  waits _ _ _ := waitRules_of_envelopes rules
  moved _ _ _ _ _ _ _ _ := updateDelegationStatus_keeps rules _
  released _ _ _ _ _ :=
    keeps_inspect fun _ _ => keeps_expect fun _ _ =>
      releaseBudgetReservation_keeps rules

theorem insertDelegation_keeps (row : DelegationRow) : Keeps invariant (insertDelegation row) := by
  refine keeps_inspect fun _ _ => keeps_demand fun _ => keeps_demand fun _ => ?_
  refine keeps_demand fun _ => keeps_tryMap ?_
  intro store delegations kept _
  exact rules.unrelated store _ rfl (Or.inr rfl) kept

theorem insertBudgetReservation_keeps (row : ReservationRow) :
    Keeps invariant (insertBudgetReservation row) := by
  refine keeps_inspect fun _ _ => keeps_demand fun _ => keeps_tryChange ?_
  intro store reached kept done
  obtain ⟨reservations, -, rfl⟩ := Option.map_eq_some_iff.mp done
  exact rules.unrelated store _ rfl (Or.inr rfl) kept

end

variable (rules : GraphRules delivering invariant)

include rules

theorem openRules_of_graph : OpenRules invariant invariant where
  entails _ kept := kept
  opened row _ _ := rules.opened row

theorem updateExecutionUsage_withstood (runId : String) (usage : Usage) (reason : Option String)
    (now : Nat) :
    Keeps (OnDelegations invariant) (updateExecutionUsage runId usage reason now) :=
  updateExecutionUsage_opens (openRules_of_graph rules) (rules.reported _ _ _)

theorem createDelegatedRun_withstood (input : CreateDelegatedRunInput) {createId : Nat → String} :
    Keeps (OnDelegations invariant) (createDelegatedRun options input now createId) := by
  apply createDelegatedRun_ensures fun _ kept => kept
  intro tables parent requested scope shallow kept _ _
  refine ensures_from (OnDelegations invariant) ?_ fun _ isTables => isTables ▸ kept
  refine keeps_bind (admitChild_keeps _ _ _ _) fun _ => ?_
  refine keeps_bind (onLedger_spares _) fun _ => ?_
  refine keeps_bind (onDelegations_kept (keeps_bind (rules.opened _)
    fun _ => insertDelegation_keeps rules.toEnvelopeRules _)) fun _ => ?_
  refine keeps_bind (onLedger_spares _) fun _ => ?_
  exact keeps_bind (onDelegations_kept (insertBudgetReservation_keeps rules.toEnvelopeRules _))
    fun _ => keeps_pure _

theorem step_keeps_delegations (tables : RunTables) (op : RunOp)
    (delivers : Delivers op → delivering) (kept : OnDelegations invariant tables) :
    OnDelegations invariant (Operations.step options tables op) :=
  step_leads op (settleRules_of_envelopes rules.toEnvelopeRules) delivers
    (openRules_of_graph rules)
    (fun input _ _ => createDelegatedRun_withstood rules input)
    (fun _ _ _ _ => rules.reported _ _ _) kept

end Graph

end OpenRill.Runs.DelegationRules
