import OpenRill.Runs.AtomicTransitions
import OpenRill.Runs.AttemptOwners
import OpenRill.Runs.DelegationRules

/-!
# The usage ledger

A usage report gives the attempt what exceeds the other attempts of the run, and the
envelope the reported total. The two agree, and the envelope never goes down, as long
as every report says at least what the envelope says, envelopes are opened for runs
that have used nothing yet, and a child that is failed as unscheduled has used nothing.
-/

namespace OpenRill.Runs.UsageTotals

open Lib Lib.Runs Lib.Transaction State Ledger Delegations Lifecycle DelegationService Operations
open LedgerRules DelegationRules AtomicTransitions AttemptOwners UsageReport

variable {now : Nat} {createId : Nat → String} {base : RunTables} {options : RunOptions}
variable {usage first second : Usage} {Value : Type} {body : RunTransaction Value}
variable {runId delegationId childRunId errorCode : String} {store : DelegationStore} {run : RunRow}
variable {input : CreateDelegatedRunInput} {reason : Option String}

def within (first second : Usage) : Prop :=
  first.turns ≤ second.turns ∧ first.inputTokens ≤ second.inputTokens ∧
    first.outputTokens ≤ second.outputTokens ∧ first.modelCalls ≤ second.modelCalls ∧
    first.toolCalls ≤ second.toolCalls

/-- Every envelope says what the attempts of its run say together. -/
def Agrees (tables : RunTables) : Prop :=
  ∀ runId envelope, tables.delegations.envelopes.find runId = some envelope →
    envelope.used = aggregateRunUsage tables.ledger runId

def Grows (before after : RunTables) : Prop :=
  ∀ runId envelope, before.delegations.envelopes.find runId = some envelope →
    ∃ later, after.delegations.envelopes.find runId = some later ∧ within envelope.used later.used

/-- Envelopes and attempts agree after every operation, and no operation takes an
envelope down. -/
def UsageLedgerKept (options : RunOptions) (ops : List RunOp) : Prop :=
  (∀ earlier later, ops = earlier ++ later → Agrees (reach options earlier)) ∧
    ∀ earlier op later, ops = earlier ++ op :: later →
      Grows (reach options earlier) (step options (reach options earlier) op)

/-- The report of a run that is in an attempt says at least what its envelope says. -/
def ReportCovers (tables : RunTables) (runId : String) (usage : Usage) : Prop :=
  ∀ run attemptId envelope, tables.ledger.runs.find runId = some run →
    run.currentAttemptId = some attemptId →
    tables.delegations.envelopes.find runId = some envelope → within envelope.used usage

/-- A run without an envelope has used nothing. -/
def OpensUnused (tables : RunTables) (runId : String) : Prop :=
  tables.delegations.envelopes.find runId = none → aggregateRunUsage tables.ledger runId = 0

/-- The child of an active delegation has used nothing in its attempt. -/
def ChildUnused (tables : RunTables) (delegationId : String) : Prop :=
  ∀ delegation run attemptId attempt,
    tables.delegations.delegations.find delegationId = some delegation →
    delegation.status.active = true →
    tables.ledger.runs.find delegation.childRunId = some run →
    run.currentAttemptId = some attemptId →
    tables.ledger.attempts.find attemptId = some attempt → attempt.used = 0

def KeepsTotals (tables : RunTables) : RunOp → Prop
  | .updateExecutionUsage runId usage _ _ => ReportCovers tables runId usage
  | .waitForApproval runId _ usage _ => ReportCovers tables runId usage
  | .waitForDelegation runId _ _ usage _ => ReportCovers tables runId usage
  | .completeExecution runId usage _ _ _ => ReportCovers tables runId usage
  | .failExecution runId usage _ _ _ => ReportCovers tables runId usage
  | .startExecution input _ =>
    ∀ run, tables.ledger.runs.find input.runId = some run → run.status = .created →
      OpensUnused tables input.runId
  | .configureRootBudget input _ => OpensUnused tables input.runId
  | .failChildBeforeStart delegationId _ _ => ChildUnused tables delegationId
  | _ => True

theorem within_refl (usage : Usage) : within usage usage := by
  unfold within
  omega

theorem within_trans {third : Usage} (one : within first second) (two : within second third) :
    within first third := by
  unfold within at *
  omega

theorem grows_refl (tables : RunTables) : Grows tables tables :=
  fun _ envelope found => ⟨envelope, found, within_refl envelope.used⟩

theorem grows_trans {first second third : RunTables} (one : Grows first second)
    (two : Grows second third) : Grows first third := by
  intro runId envelope found
  obtain ⟨middle, foundMiddle, below⟩ := one runId envelope found
  obtain ⟨last, foundLast, above⟩ := two runId middle foundMiddle
  exact ⟨last, foundLast, within_trans below above⟩

theorem share_completes {prior : Usage} (covered : within prior usage) :
    prior + usageBeyond usage prior = usage := by
  obtain ⟨turns, inputTokens, outputTokens, modelCalls, toolCalls⟩ := covered
  unfold usageBeyond
  ext
  · simp only [Usage.add_turns]
    omega
  · simp only [Usage.add_inputTokens]
    omega
  · simp only [Usage.add_outputTokens]
    omega
  · simp only [Usage.add_modelCalls]
    omega
  · simp only [Usage.add_toolCalls]
    omega

theorem within_add : within first (first + second) := by
  unfold within
  simp

structure Consistent (tables : RunTables) : Prop where
  sound : Sound tables.ledger
  agrees : Agrees tables

/-- Attempts are followed, envelopes keep their usage, and a new one is opened with
none for a run that has used none. -/
structure Accounted (base tables : RunTables) : Prop where
  attempted : Attempted base.ledger tables.ledger
  opened : ∀ runId envelope, tables.delegations.envelopes.find runId = some envelope →
    (∃ old, base.delegations.envelopes.find runId = some old ∧ envelope.used = old.used) ∨
      (envelope.used = 0 ∧ aggregateRunUsage base.ledger runId = 0)
  kept : ∀ runId old, base.delegations.envelopes.find runId = some old →
    ∃ envelope, tables.delegations.envelopes.find runId = some envelope ∧ envelope.used = old.used

variable {middle tables : RunTables}

theorem accounted_refl (sound : Sound tables.ledger) : Accounted tables tables where
  attempted := attempted_refl sound
  opened _ envelope found := Or.inl ⟨envelope, found, rfl⟩
  kept _ old found := ⟨old, found, rfl⟩

theorem accounted_trans (first : Accounted base middle) (second : Accounted middle tables) :
    Accounted base tables where
  attempted := attempted_trans first.attempted second.attempted
  opened := by
    intro runId envelope found
    rcases second.opened runId envelope found with ⟨old, foundOld, sameUsed⟩ | ⟨unused, nothing⟩
    · rw [sameUsed]
      exact first.opened runId old foundOld
    · rw [first.attempted.totals runId] at nothing
      exact Or.inr ⟨unused, nothing⟩
  kept := by
    intro runId old found
    obtain ⟨envelope, foundEnvelope, sameUsed⟩ := first.kept runId old found
    obtain ⟨last, foundLast, lastUsed⟩ := second.kept runId envelope foundEnvelope
    exact ⟨last, foundLast, lastUsed.trans sameUsed⟩

theorem consistent_of_accounted (consistent : Consistent base) (accounted : Accounted base tables) :
    Consistent tables where
  sound := accounted.attempted.sound
  agrees := by
    intro runId envelope found
    rw [accounted.attempted.totals runId]
    rcases accounted.opened runId envelope found with ⟨old, foundOld, sameUsed⟩ | ⟨unused, nothing⟩
    · rw [sameUsed]
      exact consistent.agrees runId old foundOld
    · rw [unused, nothing]

theorem grows_of_accounted (accounted : Accounted base tables) : Grows base tables := by
  intro runId old found
  obtain ⟨envelope, foundEnvelope, sameUsed⟩ := accounted.kept runId old found
  refine ⟨envelope, foundEnvelope, ?_⟩
  rw [sameUsed]
  exact within_refl old.used

theorem onLedger_accounted {body : LedgerTransaction Value}
    (attempted : Keeps (Attempted base.ledger) body) : Keeps (Accounted base) (onLedger body) := by
  apply ensures_focus
  intro whole value reached accounted done
  exact
    { attempted := attempted whole.ledger value reached accounted.attempted done
      opened := accounted.opened
      kept := accounted.kept }

def SameUsed (envelopes : Table EnvelopeRow.runId) (store : DelegationStore) : Prop :=
  ∀ runId, (store.envelopes.find runId).map EnvelopeRow.used =
    (envelopes.find runId).map EnvelopeRow.used

theorem accounted_of_sameUsed (accounted : Accounted base tables)
    (same : SameUsed tables.delegations.envelopes store) :
    Accounted base (tables.withDelegations store) where
  attempted := accounted.attempted
  opened := by
    intro runId envelope found
    have sameRun := same runId
    have foundThere : store.envelopes.find runId = some envelope := found
    rw [foundThere] at sameRun
    obtain ⟨old, foundOld, sameUsed⟩ := Option.map_eq_some_iff.mp sameRun.symm
    rw [← sameUsed]
    exact accounted.opened runId old foundOld
  kept := by
    intro runId old found
    obtain ⟨envelope, foundEnvelope, sameUsed⟩ := accounted.kept runId old found
    have sameRun := same runId
    rw [foundEnvelope] at sameRun
    obtain ⟨last, foundLast, lastUsed⟩ := Option.map_eq_some_iff.mp sameRun
    exact ⟨last, foundLast, lastUsed.trans sameUsed⟩

theorem onDelegations_accounted {body : DelegationTransaction Value}
    (same : ∀ envelopes, Keeps (SameUsed envelopes) body) :
    Keeps (Accounted base) (onDelegations body) := by
  apply ensures_focus
  intro whole value reached accounted done
  apply accounted_of_sameUsed accounted
  exact same whole.delegations.envelopes whole.delegations value reached (fun _ => rfl) done

theorem keeps_accounted (attempts : Keeps (OnLedger (Attempted base.ledger)) body)
    (same : ∀ envelopes, Keeps (OnDelegations (SameUsed envelopes)) body) :
    Keeps (Accounted base) body := by
  intro tables value reached accounted done
  have attempted := attempts tables value reached accounted.attempted done
  have unwritten := same tables.delegations.envelopes tables value reached (fun _ => rfl) done
  have settled := accounted_of_sameUsed accounted unwritten
  exact { attempted := attempted, opened := settled.opened, kept := settled.kept }

variable {envelopes : Table EnvelopeRow.runId}

theorem sameUsed_of_same {changed : DelegationStore} (same : SameUsed envelopes store)
    (unwritten : changed.envelopes = store.envelopes) : SameUsed envelopes changed := by
  unfold SameUsed
  rw [unwritten]
  exact same

theorem sameUsed_rules : EnvelopeRules True (SameUsed envelopes) where
  unrelated _ _ unwritten _ same := sameUsed_of_same same unwritten
  charged := by
    intro store parent usage now found same runId
    have present : store.envelopes.find (parent.charging usage now).runId = some parent := found
    rw [store.envelopes.find_update (parent.charging usage now) present runId, ← same runId]
    by_cases own : (parent.charging usage now).runId = runId
    · rw [if_pos own, ← own, present]
      rfl
    · rw [if_neg own]

theorem sameUsed_settleRules :
    SettleRules True (SameUsed envelopes) (fun _ _ _ => SameUsed envelopes) :=
  settleRules_of_envelopes sameUsed_rules

variable {Result : Type}

theorem keeps_onwards_tables {view : RunTables → Value} {next : Value → RunTransaction Result}
    (rest : ∀ tables, Accounted base tables → Sound tables.ledger →
      Keeps (Accounted tables) (next (view tables))) :
    Keeps (Accounted base) (inspect view >>= next) := by
  apply ensures_inspect_at
  intro tables accounted state value reached isTables done
  rw [isTables] at done
  have sound := accounted.attempted.sound
  have followed := rest tables accounted sound tables value reached (accounted_refl sound) done
  exact accounted_trans accounted followed

theorem accounted_at (sound : Sound base.ledger) (kept : Keeps (Accounted base) body) :
    Ensures (fun tables => tables = base) body (fun _ => Accounted base) := by
  refine ensures_from (Accounted base) kept ?_
  intro tables isBase
  rw [isBase]
  exact accounted_refl sound

theorem recoverIncompleteRuns_accounted :
    Keeps (Accounted base) (recoverIncompleteRuns options now createId) := by
  apply keeps_onwards_tables
  intro tables _ sound
  apply keeps_forEach
  intro output run listed
  obtain ⟨found, -⟩ := listed_unfinished listed
  apply keeps_inspect
  intro _ _
  refine keeps_bind (onLedger_accounted ?_) fun _ => keeps_pure _
  refine keeps_bind (keeps_whenever fun _ => setAttempt_attempted _ _ _ _ _ _) fun _ => ?_
  refine keeps_bind (updateRun_attempted _ _ (own_of_found sound found)) fun _ => ?_
  refine keeps_bind (appendEvent_keeps (attempted_events tables.ledger) _ _ (Or.inl trivial))
    fun _ => ?_
  exact keeps_pure _

theorem waitForDelegation_accounted {toolCallId : String} :
    Keeps (Accounted base)
      (waitForDelegation options runId delegationId toolCallId now createId) := by
  apply keeps_onwards_tables
  intro tables _ sound
  apply keeps_expect
  intro run found
  apply keeps_expect
  intro attemptId isCurrent
  apply keeps_demand
  intro _
  apply keeps_expect
  intro wait _
  apply keeps_demand
  intro _
  apply onLedger_accounted
  refine keeps_bind (updateAttempt_attempted _ _ _ _ _ _) fun _ => ?_
  refine keeps_bind (updateRun_attempted _ _ ?_) fun _ => ?_
  · intro wanted isWanted
    rw [← Option.some.inj isWanted]
    exact own_of_found sound found attemptId isCurrent
  · refine keeps_bind (appendEvent_keeps (attempted_events tables.ledger) _ _ (Or.inl trivial))
      fun _ => ?_
    exact reread_keeps _ _

theorem terminateRun_accounted {termination : Termination} :
    Keeps (Accounted base)
      (terminateRun options childRunId termination errorCode now createId) := by
  apply keeps_bind (bounded_keeps _ _ _ _)
  intro _
  apply keeps_onwards_tables
  intro tables _ sound
  split
  next => exact keeps_pure false
  next delegation _ =>
    apply keeps_expect
    intro childRun found
    apply keeps_ite fun _ => keeps_pure true
    intro _
    refine keeps_bind (onLedger_accounted ?_) fun _ => keeps_pure true
    refine keeps_bind (terminateAttempt_attempted (fun row isRow => attempt_of_bind isRow) _ _ _)
      fun _ => ?_
    refine keeps_bind (updateRun_attempted _ _ (own_of_found sound found)) fun _ => ?_
    exact appendRunEvent_keeps (attempted_events tables.ledger) _ _ _ _ _ _ _ (Or.inl trivial)

theorem onDelegations_then_accounted {first : DelegationTransaction Value}
    {next : Value → DelegationTransaction Result}
    (accounted : Keeps (Accounted base) (onDelegations first))
    (same : ∀ value envelopes, Keeps (SameUsed envelopes) (next value)) :
    Keeps (Accounted base) (onDelegations (first >>= next)) := by
  apply ensures_focus
  intro whole result reached before done
  rw [StateT.run_bind] at done
  cases ran : first.run whole.delegations with
  | error failure =>
    rw [ran] at done
    cases done
  | ok pair =>
    obtain ⟨value, written⟩ := pair
    rw [ran] at done
    have ranFocused : (onDelegations first).run whole =
        .ok (value, whole.withDelegations written) := by
      change onDelegations first whole = _
      unfold onDelegations focus
      rw [ran]
    have middle := accounted whole value (whole.withDelegations written) before ranFocused
    have unwritten : SameUsed written.envelopes reached :=
      same value written.envelopes written result reached (fun _ => rfl) done
    have settled := accounted_of_sameUsed middle unwritten
    exact settled

theorem insertBudgetEnvelope_accounted (row : EnvelopeRow) (unused : row.used = 0)
    (nothing : aggregateRunUsage base.ledger row.runId = 0) :
    Keeps (Accounted base) (onDelegations (insertBudgetEnvelope row)) := by
  apply ensures_focus
  intro whole value reached accounted done
  have inserted : Ensures (fun known => known = whole.delegations) (insertBudgetEnvelope row)
      (fun _ reached => ∃ envelopes, whole.delegations.envelopes.insert row = some envelopes ∧
        reached.envelopes = envelopes) := by
    apply ensures_tryChange
    intro store after isStore written
    rw [isStore] at written
    obtain ⟨envelopes, isInserted, isAfter⟩ := Option.map_eq_some_iff.mp written
    rw [← isAfter]
    exact ⟨envelopes, isInserted, rfl⟩
  obtain ⟨envelopes, isInserted, isReached⟩ := inserted whole.delegations value reached rfl done
  have lookup := fun wanted =>
    whole.delegations.envelopes.find_insert envelopes row wanted isInserted
  have fresh := ((whole.delegations.envelopes.insert_some_iff envelopes row).mp isInserted).1
  refine { attempted := accounted.attempted, opened := ?_, kept := ?_ }
  · intro runId envelope found
    have foundThere : envelopes.find runId = some envelope := by
      rw [← isReached]
      exact found
    rw [lookup runId] at foundThere
    by_cases own : row.runId = runId
    · rw [if_pos own, Option.some.injEq] at foundThere
      rw [← foundThere, ← own]
      exact Or.inr ⟨unused, nothing⟩
    · rw [if_neg own] at foundThere
      exact accounted.opened runId envelope foundThere
  · intro runId old found
    obtain ⟨envelope, foundEnvelope, sameUsed⟩ := accounted.kept runId old found
    have different : row.runId ≠ runId := by
      intro same
      have key : envelope.runId = runId := whole.delegations.envelopes.key_of_find foundEnvelope
      exact fresh envelope (whole.delegations.envelopes.mem_of_find foundEnvelope)
        (key.trans same.symm)
    refine ⟨envelope, ?_, sameUsed⟩
    change reached.envelopes.find runId = some envelope
    rw [isReached, lookup runId, if_neg different]
    exact foundEnvelope

theorem openEnvelope_accounted {existing : Option EnvelopeRow} {row : EnvelopeRow}
    (unused : row.used = 0)
    (nothing : existing = none → aggregateRunUsage base.ledger row.runId = 0) :
    Keeps (Accounted base) (openEnvelope existing row) := by
  cases existing with
  | some existing => exact keeps_demand_last _ _
  | none => exact insertBudgetEnvelope_accounted row unused (nothing rfl)

theorem configureRootBudget_accounted {input : RootBudgetInput}
    (unused : OpensUnused base input.runId) :
    Ensures (fun tables => tables = base ∧ Sound base.ledger)
      (configureRootBudget options input now) (fun _ => Accounted base) := by
  refine ensures_bind (normalizeBudget_keeps _) fun budget => ?_
  refine ensures_bind (normalizeScope_keeps _) fun scope => ?_
  apply ensures_inspect_at
  intro tables known
  obtain ⟨isBase, sound⟩ := known
  rw [isBase]
  refine accounted_at sound (keeps_expect fun run found => ?_)
  have key : run.runId = input.runId := base.ledger.runs.key_of_find found
  apply keeps_expect
  intro conversation _
  apply keeps_demand
  intro _
  split
  next existing _ => exact keeps_demand fun _ => keeps_pure existing
  next absent =>
    rw [key] at absent
    have nothing : aggregateRunUsage base.ledger run.runId = 0 := by
      rw [key]
      exact unused absent
    refine keeps_bind (insertBudgetEnvelope_accounted _ rfl nothing) fun _ => ?_
    exact keeps_pure _

def startedAttempt (store : RunStore) (run : RunRow) (freshId : String) : String :=
  if (run.currentAttemptId.bind store.attempts.find).all
      (fun row => decide (row.status = .aborted)) = true then freshId
  else run.currentAttemptId.getD freshId

theorem startedAttempt_owned (sound : Sound base.ledger)
    (found : base.ledger.runs.find run.runId = some run) (freshId : String) (now : Nat) :
    Ensures (fun tables => tables = base)
      (onLedger (whenever
        ((run.currentAttemptId.bind base.ledger.attempts.find).all
          (fun row => decide (row.status = .aborted)) = true)
        (insertAttempt
          (emptyAttempt (startedAttempt base.ledger run freshId) run.runId
            (nextAttemptNumber base.ledger run.runId) now))))
      (fun _ middle => Accounted base middle ∧
        Owned middle.ledger run.runId (startedAttempt base.ledger run freshId)) := by
  apply ensures_focus
  intro whole value reached isBase done
  rw [isBase] at done ⊢
  have started : Ensures (fun store => store = base.ledger)
      (whenever
        ((run.currentAttemptId.bind base.ledger.attempts.find).all
          (fun row => decide (row.status = .aborted)) = true)
        (insertAttempt
          (emptyAttempt (startedAttempt base.ledger run freshId) run.runId
            (nextAttemptNumber base.ledger run.runId) now)))
      (fun _ reached => Attempted base.ledger reached ∧
        Owned reached run.runId (startedAttempt base.ledger run freshId)) := by
    apply ensures_whenever
    · intro _
      apply ensures_mono (insertAttempt_attempted _ rfl) _ fun _ _ facts => facts
      intro store isLedger
      rw [isLedger]
      exact awaiting_of_attempted (attempted_refl sound) found _
    · intro going store isLedger
      unfold startedAttempt
      rw [if_neg going, isLedger]
      refine ⟨attempted_refl sound, ?_⟩
      cases current : run.currentAttemptId with
      | none =>
        rw [current] at going
        exact (going rfl).elim
      | some attemptId => exact own_of_found sound found attemptId current
  obtain ⟨attempted, owned⟩ := started base.ledger value reached rfl done
  exact
    ⟨{ attempted := attempted
       opened := fun _ envelope found => Or.inl ⟨envelope, found, rfl⟩
       kept := fun _ old found => ⟨old, found, rfl⟩ }, owned⟩

theorem startExecution_accounted {input : StartInput}
    (unused : ∀ run, base.ledger.runs.find input.runId = some run → run.status = .created →
      OpensUnused base input.runId) :
    Ensures (fun tables => tables = base ∧ Sound base.ledger)
      (startExecution options input now createId) (fun _ => Accounted base) := by
  apply ensures_inspect_at
  intro tables known
  obtain ⟨isBase, sound⟩ := known
  rw [isBase]
  apply ensures_expect_then
  intro run found
  have key : run.runId = input.runId := base.ledger.runs.key_of_find found
  have present : base.ledger.runs.find run.runId = some run := by
    rw [key]
    exact found
  apply ensures_demand_then
  intro created
  refine ensures_called (startedAttempt_owned sound present (createId 0) now) ?_
  intro _ middle facts
  obtain ⟨accounted, owned⟩ := facts
  have nothing : base.delegations.envelopes.find run.runId = none →
      aggregateRunUsage middle.ledger run.runId = 0 := by
    intro absent
    rw [key] at absent ⊢
    rw [accounted.attempted.totals]
    exact unused run found created absent
  refine ensures_mono
    (accounted_at accounted.attempted.sound (keeps_expect fun conversation _ => ?_))
    (fun _ known => known) fun _ _ followed => accounted_trans accounted followed
  refine keeps_bind (openEnvelope_accounted rfl nothing) fun _ => ?_
  apply onLedger_accounted
  refine keeps_bind (configureAttempt_attempted _ _ _ _ _) fun _ => ?_
  refine keeps_bind (updateAttempt_attempted _ _ _ _ _ _) fun _ => ?_
  refine keeps_bind (updateRun_attempted _ _ ?_) fun _ => ?_
  · intro wanted isWanted
    rw [← Option.some.inj isWanted]
    exact owned
  · refine keeps_bind (appendEvent_keeps (attempted_events middle.ledger) _ _ (Or.inl trivial))
      fun _ => ?_
    exact reread_keeps _ _

theorem insertChild_accounted (sound : Sound base.ledger) {requested : NormalBudget}
    {scope : DelegationScope} {ids : ChildIds} {parent : EnvelopeRow}
    (shallow : parent.depth + 1 ≤ parent.budget.maxDelegationDepth) :
    Keeps (Accounted base) (insertChild options input requested scope ids parent now shallow) := by
  have entered : Ensures (Accounted base) (onLedger (insertChildRun options input ids now))
      (fun _ tables => base.ledger.runs.find ids.runId = none ∧ Accounted base tables) := by
    apply ensures_focus
    intro whole value reached accounted done
    have attempted := insertChildRun_attempted input ids now whole.ledger value reached
      accounted.attempted done
    have fresh := insertChildRun_fresh input ids now whole.ledger value reached
      accounted.attempted done
    exact ⟨fresh, { attempted := attempted, opened := accounted.opened, kept := accounted.kept }⟩
  refine ensures_call entered fun _ fresh => ?_
  have nothing : aggregateRunUsage base.ledger ids.runId = 0 := by
    apply aggregate_unattempted
    intro attempt attemptIn ofChild
    obtain ⟨run, found⟩ := sound.homed attempt attemptIn
    rw [ofChild, fresh] at found
    cases found
  refine keeps_bind (onDelegations_then_accounted (insertBudgetEnvelope_accounted _ rfl nothing)
    fun _ _ => insertDelegation_keeps sameUsed_rules _) fun _ => ?_
  refine keeps_bind (onLedger_accounted ((attempted_events base.ledger).classified _ _ _))
    fun _ => ?_
  refine keeps_bind (onDelegations_accounted fun _ =>
    insertBudgetReservation_keeps sameUsed_rules _) fun _ => ?_
  exact keeps_pure _

theorem createDelegatedRun_accounted :
    Keeps (Accounted base) (createDelegatedRun options input now createId) := by
  apply createDelegatedRun_ensures fun _ accounted => accounted
  intro tables parent requested scope shallow accounted _ _
  have sound := accounted.attempted.sound
  refine ensures_mono (keeps_bind (admitChild_keeps _ _ _ _) fun _ =>
    insertChild_accounted sound shallow) ?_ fun _ _ onwards => accounted_trans accounted onwards
  intro _ isTables
  rw [isTables]
  exact accounted_refl sound

theorem completeChild_accounted :
    Keeps (Accounted base) (completeChild options childRunId now createId) :=
  keeps_accounted (completeChild_keeps (attempted_events base.ledger) trivial _ _ _)
    fun _ => completeChild_settles sameUsed_settleRules trivial _ _ _

theorem failChildBeforeStart_accounted (unused : ChildUnused base delegationId) :
    Ensures (fun tables => tables = base ∧ Sound base.ledger)
      (failChildBeforeStart options delegationId errorCode now createId)
      (fun _ => Accounted base) := by
  refine ensures_bind (bounded_keeps _ _ _ _) fun _ => ?_
  apply ensures_inspect_at
  intro tables known
  obtain ⟨isBase, sound⟩ := known
  rw [isBase]
  refine accounted_at sound (keeps_expect fun delegation found => ?_)
  apply keeps_ite fun _ => keeps_pure _
  intro live
  have active : delegation.status.active = true := by simpa using live
  apply keeps_expect
  intro childRun foundRun
  apply keeps_expect
  intro attemptId isCurrent
  obtain ⟨attempt, had, ofRun⟩ := own_of_found sound foundRun attemptId isCurrent
  have nothing := unused delegation childRun attemptId attempt found active foundRun isCurrent had
  refine keeps_bind (onLedger_accounted
    (failUnstartedRun_attempted delegation childRun had ofRun nothing _ _ _)) fun _ => ?_
  refine keeps_bind (onLedger_accounted (terminalResult_keeps _ _)) fun result => ?_
  apply onDelegations_accounted
  intro envelopes
  refine keeps_bind
    (sameUsed_settleRules.released delegation True delegation.status _ _) fun _ => ?_
  refine keeps_bind (updateDelegationStatus_keeps sameUsed_rules _) fun _ => ?_
  exact keeps_inspect fun _ _ => keeps_expect_last _ _

variable {attempt : AttemptRow} {wanted : String}

theorem contribution_own (ofRun : attempt.runId = runId) :
    contribution runId attempt = attempt.used := by
  unfold contribution
  rw [if_pos (decide_eq_true ofRun)]

theorem contribution_other (different : attempt.runId ≠ wanted) :
    contribution wanted attempt = 0 := by
  unfold contribution
  rw [decide_eq_false different]
  rfl

section

variable (has : HasAttempt base.ledger runId run attempt)
include has

theorem aggregate_reported (wanted : String) :
    aggregateRunUsage (reported base run attempt usage reason now).ledger wanted =
      aggregateRunUsageExcluding base.ledger wanted attempt.attemptId +
        contribution wanted
          (reportedAttempt attempt (attemptShare base.ledger run attempt usage) reason now) := by
  have stored : (reported base run attempt usage reason now).ledger.attempts.find
      attempt.attemptId =
        some (reportedAttempt attempt (attemptShare base.ledger run attempt usage) reason now) :=
    (hasAttempt_reported has usage reason now).stored
  have sameId : (reportedAttempt attempt (attemptShare base.ledger run attempt usage) reason
      now).attemptId = attempt.attemptId := rfl
  have others := excluding_rewritten has.stored sameId wanted
  rw [← others]
  exact aggregate_split stored wanted

theorem aggregate_reported_own (ofRun : attempt.runId = run.runId)
    (covered : within (aggregateRunUsage base.ledger run.runId) usage) :
    aggregateRunUsage (reported base run attempt usage reason now).ledger run.runId = usage := by
  have share : contribution run.runId
      (reportedAttempt attempt (attemptShare base.ledger run attempt usage) reason now) =
        attemptShare base.ledger run attempt usage :=
    contribution_own ofRun
  have below : within (aggregateRunUsageExcluding base.ledger run.runId attempt.attemptId)
      usage := by
    refine within_trans ?_ covered
    rw [aggregate_split has.stored]
    exact within_add
  rw [aggregate_reported has, share]
  exact share_completes below

theorem aggregate_reported_other (ofRun : attempt.runId = run.runId) (other : wanted ≠ run.runId) :
    aggregateRunUsage (reported base run attempt usage reason now).ledger wanted =
      aggregateRunUsage base.ledger wanted := by
  have different : attempt.runId ≠ wanted := fun same => other (same.symm.trans ofRun)
  have nothing : contribution wanted
      (reportedAttempt attempt (attemptShare base.ledger run attempt usage) reason now) = 0 :=
    contribution_other different
  rw [aggregate_reported has, nothing, aggregate_split has.stored, contribution_other different]

end

theorem updateExecutionUsage_consistent (consistent : Consistent base)
    (covers : ReportCovers base runId usage) (reason : Option String) (now : Nat) :
    Ensures (fun tables => tables = base) (updateExecutionUsage runId usage reason now)
      (fun _ reached => Consistent reached ∧ Grows base reached) := by
  intro tables value reached isBase done
  obtain ⟨run, attempt, has⟩ :=
    updateExecutionUsage_needs usage reason now tables value reached isBase done
  have isReached := ensures_of_completes (updateExecutionUsage_reports has usage reason now)
    tables value reached isBase done
  have key : run.runId = runId := base.ledger.runs.key_of_find has.found
  obtain ⟨owned, foundOwned, ofRun⟩ :=
    own_of_found consistent.sound has.found attempt.attemptId has.current
  have isAttempt : owned = attempt := Option.some.inj (foundOwned.symm.trans has.stored)
  rw [isAttempt] at ofRun
  have below : ∀ old, base.delegations.envelopes.find run.runId = some old →
      within old.used usage := by
    intro old found
    rw [key] at found
    exact covers run attempt.attemptId old has.found has.current found
  have charged := fun wanted =>
    find_reportedEnvelope base.delegations run.runId usage now wanted
  rw [isReached]
  refine ⟨⟨sound_rewritten consistent.sound has.stored rfl rfl, ?_⟩, ?_⟩
  · intro wanted envelope found
    have used := charged wanted
    have foundThere : (reportedEnvelopes base.delegations run.runId usage now).envelopes.find
        wanted = some envelope := found
    rw [foundThere] at used
    by_cases own : wanted = run.runId
    · rw [if_pos own] at used
      obtain ⟨old, foundOld, isUsage⟩ := Option.map_eq_some_iff.mp used.symm
      rw [own] at foundOld ⊢
      have agrees := consistent.agrees run.runId old foundOld
      rw [← isUsage]
      symm
      apply aggregate_reported_own has ofRun
      rw [← agrees]
      exact below old foundOld
    · rw [if_neg own] at used
      obtain ⟨old, foundOld, isUsage⟩ := Option.map_eq_some_iff.mp used.symm
      rw [← isUsage, aggregate_reported_other has ofRun own]
      exact consistent.agrees wanted old foundOld
  · intro wanted old found
    have used := charged wanted
    rw [found] at used
    by_cases own : wanted = run.runId
    · rw [if_pos own] at used
      obtain ⟨envelope, foundEnvelope, isUsage⟩ := Option.map_eq_some_iff.mp used
      refine ⟨envelope, foundEnvelope, ?_⟩
      rw [isUsage]
      rw [own] at found
      exact below old found
    · rw [if_neg own] at used
      obtain ⟨envelope, foundEnvelope, isUsage⟩ := Option.map_eq_some_iff.mp used
      refine ⟨envelope, foundEnvelope, ?_⟩
      rw [isUsage]
      exact within_refl _

def Follows (base tables : RunTables) : Prop := Consistent tables ∧ Grows base tables

theorem follows_refl (consistent : Consistent base) : Follows base base :=
  ⟨consistent, grows_refl base⟩

theorem perform_follows (consistent : Consistent base)
    (accounted : Ensures (fun tables => tables = base ∧ Sound base.ledger) body
      (fun _ => Accounted base)) : Follows base (perform body base) := by
  have followed : Ensures (fun tables => tables = base ∧ Sound base.ledger) body
      (fun _ => Follows base) :=
    ensures_mono accounted (fun _ known => known) fun _ _ reached =>
      ⟨consistent_of_accounted consistent reached, grows_of_accounted reached⟩
  exact perform_ensures followed ⟨rfl, consistent.sound⟩ (follows_refl consistent)

theorem perform_kept (consistent : Consistent base) (kept : Keeps (Accounted base) body) :
    Follows base (perform body base) := by
  apply perform_follows consistent
  exact ensures_mono (accounted_at consistent.sound kept) (fun _ known => known.1)
    fun _ _ reached => reached

theorem report_follows {move : Unit → RunTransaction Value} (consistent : Consistent base)
    (covers : ReportCovers base runId usage) (kept : ∀ middle, Keeps (Accounted middle) (move ())) :
    Follows base (performThen (updateExecutionUsage runId usage reason now) move base) := by
  have reported := updateExecutionUsage_consistent consistent covers reason now
  unfold performThen
  cases ran : (updateExecutionUsage runId usage reason now).run base with
  | error failure => exact follows_refl consistent
  | ok pair =>
    obtain ⟨value, middle⟩ := pair
    obtain ⟨middleConsistent, grown⟩ := reported base value middle rfl ran
    obtain ⟨lastConsistent, lastGrown⟩ := perform_kept middleConsistent (kept middle)
    exact ⟨lastConsistent, grows_trans grown lastGrown⟩

theorem step_follows (tables : RunTables) (op : RunOp) (meets : KeepsTotals tables op)
    (consistent : Consistent tables) : Follows tables (step options tables op) := by
  have events := attempted_events tables.ledger
  cases op with
  | createConversation row =>
    exact perform_kept consistent (onLedger_accounted (events.opened row))
  | appendMessage row =>
    exact perform_kept consistent (onLedger_accounted (events.spoken row (Or.inl trivial)))
  | recordArtifact row =>
    exact perform_kept consistent (onLedger_accounted (recordArtifact_keeps events row))
  | classifyRun runId input call =>
    exact perform_kept consistent (onLedger_accounted (events.classified runId input call.now))
  | linkTask row =>
    exact perform_kept consistent (onLedger_accounted (linkTask_keeps events row))
  | appendEvent input call =>
    exact perform_kept consistent
      (onLedger_accounted (appendEvent_keeps events _ _ (Or.inl trivial)))
  | send input call =>
    exact perform_kept consistent (onLedger_accounted (send_attempted _ _ _))
  | prepareExecutionAttempt runId call =>
    exact perform_kept consistent (onLedger_accounted (prepareExecutionAttempt_attempted _ _ _))
  | startExecution input call =>
    exact perform_follows consistent (startExecution_accounted meets)
  | updateExecutionUsage runId usage reason call =>
    exact perform_ensures (updateExecutionUsage_consistent consistent meets reason call.now) rfl
      (follows_refl consistent)
  | transitionRun input call =>
    exact perform_kept consistent (onLedger_accounted (transitionRun_attempted _ _ _))
  | waitForApproval runId requestId usage call =>
    exact report_follows consistent meets
      fun _ => onLedger_accounted (transitionRun_attempted _ _ _)
  | waitForDelegation runId delegationId toolCallId usage call =>
    exact report_follows consistent meets fun _ => waitForDelegation_accounted
  | completeExecution runId usage reason completionText call =>
    exact report_follows consistent meets
      fun _ => onLedger_accounted (transitionRun_attempted _ _ _)
  | failExecution runId usage errorCode message call =>
    exact report_follows consistent meets
      fun _ => onLedger_accounted (transitionRun_attempted _ _ _)
  | resumeExecution runId call =>
    exact perform_kept consistent (onLedger_accounted (resumeExecution_attempted _ _ _))
  | cancel input call =>
    exact perform_kept consistent (onLedger_accounted (cancel_attempted _ _ _))
  | markExecutionLost runId errorCode call =>
    exact perform_kept consistent (onLedger_accounted (markExecutionLost_attempted _ _ _ _))
  | interruptExecution runId reason call =>
    exact perform_kept consistent (onLedger_accounted (interruptExecution_attempted _ _ _ _))
  | recoverIncompleteRuns call =>
    exact perform_kept consistent recoverIncompleteRuns_accounted
  | configureRootBudget input call =>
    exact perform_follows consistent (configureRootBudget_accounted meets)
  | createDelegatedRun input call =>
    exact perform_kept consistent createDelegatedRun_accounted
  | markWaiting parentRunId delegationId identity call =>
    exact perform_kept consistent (keeps_accounted (markWaiting_keeps _ _ _ _)
      fun _ => markWaiting_settles sameUsed_settleRules _ _ _ (fun _ => trivial) _)
  | clearWait parentRunId delegationId =>
    exact perform_kept consistent (onDelegations_accounted fun _ =>
      clearWait_keeps sameUsed_settleRules.resting _ _)
  | transitionDelegation delegationId status resultSummary call =>
    exact perform_kept consistent
      (onDelegations_accounted fun _ =>
        transitionDelegation_settles sameUsed_settleRules _ _ _ _)
  | completeChild childRunId call =>
    exact perform_kept consistent completeChild_accounted
  | failChildBeforeStart delegationId errorCode call =>
    exact perform_follows consistent (failChildBeforeStart_accounted meets)
  | terminateChild childRunId termination errorCode call =>
    have accounted : Accounted tables (step options tables
        (.terminateChild childRunId termination errorCode call)) := by
      apply performThen_keeps terminateRun_accounted
      · intro known
        exact keeps_ite (fun _ => completeChild_accounted) fun _ => keeps_pure none
      · exact accounted_refl consistent.sound
    exact ⟨consistent_of_accounted consistent accounted, grows_of_accounted accounted⟩

theorem consistent_empty : Consistent RunTables.empty where
  sound :=
    { current := by
        intro runId run attemptId found
        cases found
      homed := by
        intro attempt attemptIn
        cases attemptIn }
  agrees := by
    intro runId envelope found
    cases found

/-- Envelopes and attempts agree after every operation and no envelope goes down, as long
as every report covers what was reported and envelopes are opened for unused runs. -/
theorem usage_ledger_kept (options : RunOptions) (ops : List RunOp)
    (meets : EveryStep (step options) KeepsTotals RunTables.empty ops) :
    UsageLedgerKept options ops := by
  have reached : ∀ earlier later, ops = earlier ++ later →
      Consistent (reach options earlier) := by
    intro earlier later split
    rw [split, everyStep_append] at meets
    exact run_invariant_of_everyStep (step options) KeepsTotals Consistent
      (fun tables op fair consistent => (step_follows tables op fair consistent).1)
      RunTables.empty earlier consistent_empty meets.1
  constructor
  · intro earlier later split
    exact (reached earlier later split).agrees
  · intro earlier op later split
    have consistent := reached earlier (op :: later) split
    rw [split, everyStep_append] at meets
    exact (step_follows (reach options earlier) op meets.2.1 consistent).2

/-- The run completes with one turn, and every report covers what was reported. -/
theorem completedOps_kept : UsageLedgerKept mainHost completedOps := by
  have startsUnused : OpensUnused (reach mainHost (completedOps.take 2)) "r1" := by
    intro _
    decide +kernel
  have openedUnused : ((reach mainHost (completedOps.take 3)).delegations.envelopes.find
      "r1").map EnvelopeRow.used = some 0 := by
    decide +kernel
  have covers : ReportCovers (reach mainHost (completedOps.take 3)) "r1" oneTurn := by
    intro run attemptId envelope _ _ found
    rw [found] at openedUnused
    have unused : envelope.used = 0 := Option.some.inj openedUnused
    rw [unused]
    unfold within
    decide
  apply usage_ledger_kept
  exact ⟨trivial, trivial, fun _ _ _ => startsUnused, covers, trivial⟩

def lateFailureOps : List RunOp :=
  completedOps ++
    [.failExecution "r1" 0 "SKILL_PREPARATION_FAILED" "run is not preparable: COMPLETED"
      (callAt 4 ["e4"])]

/-- The envelope of the completed run goes down. -/
theorem late_failure_breaks_ledger : ¬ UsageLedgerKept mainHost lateFailureOps := by
  have turnsBefore : ((reach mainHost completedOps).delegations.envelopes.find "r1").map
      (fun envelope => envelope.used.turns) = some 1 := by
    decide +kernel
  have turnsAfter : ((reach mainHost lateFailureOps).delegations.envelopes.find "r1").map
      (fun envelope => envelope.used.turns) = some 0 := by
    decide +kernel
  obtain ⟨before, foundBefore, isOne⟩ := Option.map_eq_some_iff.mp turnsBefore
  obtain ⟨after, foundAfter, isZero⟩ := Option.map_eq_some_iff.mp turnsAfter
  intro kept
  have grows := kept.2 completedOps _ [] rfl
  obtain ⟨later, foundLater, below⟩ := grows "r1" before foundBefore
  have isAfter : later = after := Option.some.inj (foundLater.symm.trans foundAfter)
  rw [isAfter] at below
  have fewer := below.1
  omega

end OpenRill.Runs.UsageTotals
