import OpenRill.Runs.TerminalRuns

/-!
# What the operations do to the statuses of runs

Of the whole ledger only the status of each run is kept here. An operation either
leaves every status, or sets the status of one run that was in a status it allows.
The operations of other services than the one that executes a run set nothing but
`FAILED`, `CANCELLED` and the `CREATED` of a new run.
-/

namespace OpenRill.Runs.StatusMoves

open Lib.Transaction State Ledger Delegations Lifecycle DelegationService Operations LedgerRules
open TerminalRuns

variable {runId : String} {store : RunStore} {rule : CompletionRule} {input : RunUpdate}
variable {row : RunRow} {options : RunOptions} {Value : Type} {body : LedgerTransaction Value}

abbrev StatusMap := String → Option RunStatus

variable {known : StatusMap}

def statuses (store : RunStore) : StatusMap := fun runId =>
  (store.runs.find runId).map RunRow.status

def setStatus (known : StatusMap) (runId : String) (status : RunStatus) : StatusMap :=
  fun wanted => if wanted = runId then some status else known wanted

@[simp] theorem setStatus_self (known : StatusMap) (runId : String) (status : RunStatus) :
    setStatus known runId status runId = some status := if_pos rfl

theorem setStatus_other {wanted : String} (different : wanted ≠ runId) (status : RunStatus) :
    setStatus known runId status wanted = known wanted :=
  if_neg different

theorem setStatus_same {status : RunStatus} (own : known runId = some status) :
    setStatus known runId status = known := by
  funext wanted
  unfold setStatus
  split
  next same => rw [same, own]
  next => rfl

def Shows (known : StatusMap) (store : RunStore) : Prop := statuses store = known

theorem shows_of_runs {changed : RunStore} (runs : changed.runs = store.runs)
    (shown : Shows known store) : Shows known changed := by
  unfold Shows statuses at shown ⊢
  rw [runs]
  exact shown

theorem nextEventSequence_shows (runId : String) (now : Nat) :
    Keeps (Shows known) (nextEventSequence runId now) := by
  refine keeps_of_known (nextEventSequence_stamps runId now) ?_
  rintro store _ reached shown ⟨-, sameRuns⟩
  rw [← shown]
  funext wanted
  have same := congrArg (Option.map Prod.fst) (sameRuns wanted)
  simpa [statuses, Option.map_map, Function.comp_def] using same

theorem shows_events : EventRules True (Shows known) where
  unrelated _ _ _ runs _ _ _ _ shown := shows_of_runs runs shown
  opened := createConversation_keeps_of (fun _ _ shown => shows_of_runs rfl shown)
  spoken input _ := insertMessage_keeps_of (fun _ _ _ shown => shows_of_runs rfl shown) input
  entered row _ :=
    enterEvent_keeps_of nextEventSequence_shows (fun _ _ shown => shows_of_runs rfl shown) row
  classified runId input now := by
    refine keeps_of_known (classifyRun_keeps_status runId input now) ?_
    rintro store _ reached shown ⟨runs, -⟩
    exact shows_of_runs runs shown

theorem insertAttempt_shows {row : AttemptRow} : Keeps (Shows known) (insertAttempt row) := by
  apply keeps_tryMap
  intro store attempts shown _
  exact shows_of_runs rfl shown

theorem rewriteAttempt_shows (attemptId : String) {rewrite : AttemptRow → AttemptRow}
    {missing : String} : Keeps (Shows known) (rewriteAttempt attemptId rewrite missing) := by
  apply keeps_inspect
  intro _ _
  apply keeps_expect
  intro row _
  exact keeps_change fun _ shown => shows_of_runs rfl shown

theorem setAttempt_shows {attemptId : Option String} {status : AttemptStatus}
    {startedAt endedAt : Option Nat} {reason : Option String} {now : Nat} :
    Keeps (Shows known) (setAttempt attemptId status startedAt endedAt reason now) := by
  cases attemptId with
  | none => exact keeps_pure ()
  | some attemptId => exact rewriteAttempt_shows attemptId

theorem updateRun_moves (rule : CompletionRule) (input : RunUpdate) :
    Ensures (Shows known) (updateRun rule input)
      (fun _ => Shows (setStatus known input.runId input.status)) := by
  apply ensures_at
  intro store shown
  refine ensures_result (updateRun_updates rule input store) ?_
  intro _ reached updated
  rw [← shown]
  funext wanted
  unfold setStatus
  split
  next same =>
    obtain ⟨run, -, written⟩ := updated.ownRun
    rw [same]
    unfold statuses
    rw [written]
    rfl
  next different =>
    unfold statuses
    rw [updated.otherRuns wanted different]

theorem updateRun_shows (same : known input.runId = some input.status) :
    Keeps (Shows known) (updateRun rule input) := by
  have moved : Ensures (Shows known) (updateRun rule input)
      (fun _ => Shows (setStatus known input.runId input.status)) := updateRun_moves rule input
  rw [setStatus_same same] at moved
  exact moved

theorem insertRun_moves :
    Ensures (Shows known) (insertRun row)
      (fun _ store => known row.runId = none ∧
        Shows (setStatus known row.runId row.status) store) := by
  apply ensures_at
  intro store shown
  refine ensures_result (insertRun_inserts row store) ?_
  rintro _ reached ⟨runs, fresh, -⟩
  rw [← shown]
  refine ⟨by simp [statuses, fresh], ?_⟩
  funext wanted
  unfold setStatus statuses
  rw [runs]
  by_cases same : wanted = row.runId
  · rw [if_pos same, if_pos same.symm]
    rfl
  · rw [if_neg same, if_neg fun other => same other.symm]

theorem status_of_found {run : RunRow} (shown : Shows known store)
    (found : store.runs.find runId = some run) :
    run.runId = runId ∧ known runId = some run.status := by
  refine ⟨store.runs.key_of_find found, ?_⟩
  rw [← shown]
  simp [statuses, found]

theorem ensures_of_keeps {State : Type} {invariant after : State → Prop}
    {body : Transaction State RunFailure Value} (kept : Keeps invariant body)
    (implied : ∀ state, invariant state → after state) : Ensures invariant body (fun _ => after) :=
  ensures_mono kept (fun _ holds => holds) fun _ state holds => implied state holds

theorem onLedger_ensures {before : RunStore → Prop} {after : Value → RunStore → Prop}
    (triple : Ensures before body after) :
    Ensures (OnLedger before) (onLedger body) (fun value => OnLedger (after value)) :=
  ensures_focus fun whole value reached holds ran =>
    triple whole.ledger value reached holds ran

theorem lifecycleEvent_then_shows {input : EventInput} {eventId : String}
    {next : EventRow → LedgerTransaction Value} (rest : ∀ row, Keeps (Shows known) (next row)) :
    Keeps (Shows known) (appendEventWithRepositories input eventId >>= next) :=
  appendEvent_then_keeps shows_events input eventId (Or.inl trivial) rest

theorem prepareExecutionAttempt_shows (runId : String) (now : Nat) (createId : Nat → String) :
    Ensures (Shows known) (prepareExecutionAttempt options runId now createId)
      (fun _ store => (known runId = some .created ∨ known runId = some .waitingApproval) ∧
        Shows known store) := by
  apply ensures_inspect_then
  intro store shown
  apply ensures_expect_then
  intro run found
  obtain ⟨isRun, isStatus⟩ := status_of_found shown found
  apply ensures_demand_then
  intro preparable
  have allowed : known runId = some .created ∨ known runId = some .waitingApproval := by
    rw [isStatus]
    simpa using preparable
  have kept : ∀ {body : LedgerTransaction AttemptRow}, Keeps (Shows known) body →
      Ensures (Shows known) body (fun _ store =>
        (known runId = some .created ∨ known runId = some .waitingApproval) ∧ Shows known store) :=
    fun shows => ensures_mono shows (fun _ holds => holds) fun _ _ holds => ⟨allowed, holds⟩
  apply kept
  refine keeps_expect fun _ _ => keeps_expect fun previousId _ => ?_
  refine keeps_expect fun previous _ => ?_
  refine keeps_ite (fun _ => ?_) fun _ => keeps_demand fun _ => keeps_pure previous
  refine keeps_bind insertAttempt_shows fun _ => ?_
  have same : known run.runId = some run.status := by
    rw [isRun]
    exact isStatus
  refine keeps_bind (updateRun_shows same) fun _ => ?_
  exact lifecycleEvent_then_shows fun _ => keeps_inspect fun _ _ => keeps_expect_last _ _

theorem startExecution_moves (input : StartInput) (now : Nat) (createId : Nat → String) :
    Ensures (OnLedger (Shows known)) (startExecution options input now createId)
      (fun _ tables => known input.runId = some .created ∧
        OnLedger (Shows (setStatus known input.runId .running)) tables) := by
  apply ensures_inspect_then
  intro tables shown
  apply ensures_expect_then
  intro run found
  obtain ⟨isRun, isStatus⟩ := status_of_found shown found
  apply ensures_demand_then
  intro created
  refine ensures_bind (onLedger_keeps (keeps_whenever fun _ => insertAttempt_shows)) fun _ => ?_
  apply ensures_expect_then
  intro conversation _
  refine ensures_bind (openEnvelope_keeps _ _) fun _ => ?_
  rw [created] at isStatus
  refine ensures_mono (onLedger_ensures ?_) (fun _ holds => holds)
    fun _ _ moved => ⟨isStatus, moved⟩
  refine ensures_bind (rewriteAttempt_shows _) fun _ => ?_
  refine ensures_bind (rewriteAttempt_shows _) fun _ => ?_
  refine ensures_bind (updateRun_moves _ _) fun _ => ?_
  rw [← isRun]
  exact lifecycleEvent_then_shows fun _ => reread_keeps _ _

theorem transitionRun_moves (input : TransitionInput) (now : Nat) (createId : Nat → String) :
    Ensures (Shows known) (transitionRun options input now createId)
      (fun _ store => (∃ status, known input.runId = some status ∧
          input.status ∈ transitions status) ∧
        Shows (setStatus known input.runId input.status) store) := by
  apply ensures_inspect_then
  intro store shown
  apply ensures_expect_then
  intro run found
  obtain ⟨isRun, isStatus⟩ := status_of_found shown found
  apply ensures_demand_then
  intro allowed
  refine ensures_bind (keeps_whenever fun _ => insertAttempt_shows) fun _ => ?_
  refine ensures_bind (updateRun_moves _ _) fun _ => ?_
  refine ensures_bind setAttempt_shows fun _ => ?_
  rw [← isRun] at isStatus ⊢
  exact ensures_mono (lifecycleEvent_then_shows fun _ => reread_keeps _ _)
    (fun _ moved => moved) fun _ _ moved => ⟨⟨run.status, isStatus, allowed⟩, moved⟩

theorem waitForDelegation_moves (runId delegationId toolCallId : String) (now : Nat)
    (createId : Nat → String) :
    Ensures (OnLedger (Shows known))
      (waitForDelegation options runId delegationId toolCallId now createId)
      (fun _ tables => known runId = some .running ∧
        OnLedger (Shows (setStatus known runId .created)) tables) := by
  apply ensures_inspect_then
  intro tables shown
  apply ensures_expect_then
  intro run found
  obtain ⟨isRun, isStatus⟩ := status_of_found shown found
  apply ensures_expect_then
  intro attemptId _
  apply ensures_demand_then
  intro running
  apply ensures_expect_then
  intro wait _
  apply ensures_demand_then
  intro _
  rw [running] at isStatus
  refine ensures_mono (onLedger_ensures ?_) (fun _ holds => holds)
    fun _ _ moved => ⟨isStatus, moved⟩
  refine ensures_bind (rewriteAttempt_shows _) fun _ => ?_
  refine ensures_bind (updateRun_moves _ _) fun _ => ?_
  rw [← isRun]
  exact lifecycleEvent_then_shows fun _ => reread_keeps _ _

theorem resumeExecution_moves (runId : String) (now : Nat) (createId : Nat → String) :
    Ensures (Shows known) (resumeExecution options runId now createId)
      (fun _ store => known runId = some .waitingApproval ∧
        Shows (setStatus known runId .running) store) := by
  apply ensures_inspect_then
  intro store shown
  apply ensures_expect_then
  intro run found
  obtain ⟨-, isStatus⟩ := status_of_found shown found
  apply ensures_demand_then
  intro waiting
  apply ensures_expect_then
  intro attemptId _
  apply ensures_expect_then
  intro attempt _
  apply ensures_demand_then
  intro _
  refine ensures_bind (updateRun_moves _ _) fun _ => ?_
  refine ensures_bind (rewriteAttempt_shows _) fun _ => ?_
  refine ensures_mono (lifecycleEvent_then_shows fun _ => reread_keeps _ _)
    (fun _ moved => moved) fun _ _ moved => ⟨?_, moved⟩
  rw [isStatus, waiting]

/-- A run that is not running is left, with its status as the classification; a running
one is resumable again or has failed. -/
theorem interruptExecution_moves (runId reason : String) (now : Nat)
    (createId : Nat → String) :
    Ensures (Shows known) (interruptExecution options runId reason now createId)
      (fun classified store =>
        (known runId ≠ some .running ∧ known runId = some classified.status ∧ Shows known store) ∨
        (known runId = some .running ∧
          (classified.status = .created ∧ classified.recoveryState = .resumable ∨
            classified.status = .failed) ∧
          Shows (setStatus known runId classified.status) store)) := by
  apply ensures_inspect_then
  intro store shown
  apply ensures_expect_then
  intro run found
  obtain ⟨isRun, isStatus⟩ := status_of_found shown found
  apply ensures_ite
  · intro idle
    apply ensures_pure
    intro state stillShown
    left
    refine ⟨?_, isStatus, stillShown⟩
    rw [isStatus]
    exact fun running => idle (Option.some.inj running)
  · intro notIdle
    have running : run.status = .running := not_not.mp notIdle
    refine ensures_bind setAttempt_shows fun _ => ?_
    refine ensures_bind (updateRun_moves _ _) fun _ => ?_
    refine ensures_bind (appendEvent_keeps shows_events _ _ (Or.inl trivial)) fun _ => ?_
    simp only [RunUpdate.plain, isRun]
    apply ensures_pure
    intro state moved
    right
    refine ⟨isStatus.trans (congrArg some running), ?_, moved⟩
    simp only [id_eq]
    cases hasRecoverableCheckpoint (listEvents store runId) with
    | true => exact Or.inl ⟨rfl, rfl⟩
    | false => exact Or.inr rfl

theorem updateExecutionUsage_shows (runId : String) (usage : Usage) (reason : Option String)
    (now : Nat) :
    Keeps (OnLedger (Shows known)) (updateExecutionUsage runId usage reason now) := by
  refine keeps_inspect fun tables _ => keeps_expect fun run _ => ?_
  refine keeps_expect fun attemptId _ => ?_
  refine keeps_bind (onLedger_keeps (rewriteAttempt_shows _)) fun _ => ?_
  exact onDelegations_keeps _

def Elsewhere (before after : Option RunStatus) : Prop :=
  after = before ∨ after = some .failed ∨ after = some .cancelled ∨
    (before = none ∧ after = some .created)

def ShowsElsewhere (known : StatusMap) (store : RunStore) : Prop :=
  ∀ runId, Elsewhere (known runId) (statuses store runId)

theorem elsewhere_of_shows (shown : Shows known store) : ShowsElsewhere known store := by
  intro runId
  left
  rw [← shown]

theorem elsewhere_of_keeps (kept : ∀ known, Keeps (Shows known) body) :
    Keeps (ShowsElsewhere known) body := by
  intro store value reached elsewhere done
  have same : statuses reached = statuses store :=
    kept (statuses store) store value reached rfl done
  intro runId
  rw [same]
  exact elsewhere runId

theorem insertRun_elsewhere (created : row.status = .created) :
    Keeps (ShowsElsewhere known) (insertRun row) := by
  intro store value reached elsewhere done
  obtain ⟨fresh, moved⟩ := insertRun_moves store value reached rfl done
  intro wanted
  rw [moved]
  unfold setStatus
  split
  next same =>
    rw [same, created]
    rcases fresh ▸ elsewhere row.runId with kept | failed | cancelled | ⟨-, stored⟩
    · exact Or.inr (Or.inr (Or.inr ⟨kept.symm, rfl⟩))
    · cases failed
    · cases cancelled
    · cases stored
  next => exact elsewhere wanted

theorem updateRun_elsewhere (ended : input.status = .failed ∨ input.status = .cancelled) :
    Keeps (ShowsElsewhere known) (updateRun rule input) := by
  intro store value reached elsewhere done
  have moved : Shows (setStatus (statuses store) input.runId input.status) reached :=
    updateRun_moves rule input store value reached rfl done
  intro wanted
  rw [moved]
  unfold setStatus
  split
  next =>
    rcases ended with failed | cancelled
    · exact Or.inr (Or.inl (congrArg some failed))
    · exact Or.inr (Or.inr (Or.inl (congrArg some cancelled)))
  next => exact elsewhere wanted

theorem elsewhere_rules (rule : CompletionRule) :
    EntryRules rule True False (ShowsElsewhere known) where
  unrelated store changed _ runs _ _ _ elsewhere := by
    have same : statuses changed = statuses store := shows_of_runs runs rfl
    intro runId
    rw [same]
    exact elsewhere runId
  opened input := elsewhere_of_keeps fun _ => shows_events.opened input
  spoken input all := elsewhere_of_keeps fun _ => shows_events.spoken input all
  entered row all := elsewhere_of_keeps fun _ => shows_events.entered row all
  inserted row created _ := insertRun_elsewhere created
  classified runId input now :=
    elsewhere_of_keeps fun _ => shows_events.classified runId input now
  updated _ _ input _ _ _ allowed := updateRun_elsewhere (allowed.resolve_left id)

theorem cancel_moves (input : CancelInput) (now : Nat) (createId : Nat → String) :
    Ensures (Shows known) (cancel options input now createId)
      (fun _ store => ∃ status, known input.runId = some status ∧
        ((status.terminal = true ∧ Shows known store) ∨
          (status.terminal = false ∧ Shows (setStatus known input.runId .cancelled) store))) := by
  refine ensures_bind (authorize_keeps _) fun _ => ?_
  apply ensures_inspect_then
  intro store shown
  apply ensures_expect_then
  intro conversation _
  apply ensures_demand_then
  intro _
  apply ensures_expect_then
  intro run found
  obtain ⟨isRun, isStatus⟩ := status_of_found shown found
  apply ensures_demand_then
  intro _
  apply ensures_ite
  · intro terminal
    exact ensures_pure _ fun _ shown => ⟨run.status, isStatus, Or.inl ⟨terminal, shown⟩⟩
  intro live
  refine ensures_bind (updateRun_moves _ _) fun _ => ?_
  refine ensures_bind setAttempt_shows fun _ => ?_
  rw [← isRun] at isStatus ⊢
  refine ensures_of_keeps (lifecycleEvent_then_shows fun _ => ?_)
    fun _ moved => ⟨run.status, isStatus, Or.inr ⟨by simpa using live, moved⟩⟩
  exact keeps_inspect fun _ _ => keeps_expect fun _ _ => keeps_pure _

theorem step_elsewhere (tables : RunTables) (op : RunOp) (other : ¬ Executes op) :
    OnLedger (ShowsElsewhere (statuses tables.ledger)) (step options tables op) := by
  have rules := @elsewhere_rules (statuses tables.ledger) options.completionRule
  have own : OnLedger (ShowsElsewhere (statuses tables.ledger)) tables :=
    elsewhere_of_shows rfl
  refine step_keeps_entries rules tables op other ?_ own
  rintro delegationId errorCode call rfl
  refine perform_keeps (failChildBeforeStart_ensures rules (fun _ holds => holds) _ _ _ _ ?_) own
  intro _ _ _ input _ _ _ _ _ failed
  exact updateRun_elsewhere (Or.inl failed)

end OpenRill.Runs.StatusMoves
