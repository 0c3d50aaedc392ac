import OpenRill.Runs.Coordinator

/-!
# What an execution does to the status of its run

One lemma for each piece of an execution that writes: its preparation, the beginning of
the kernel and the end of it. A piece that throws leaves every status, since its
transactions before the throw write none. Of a run that another service has ended the
kernel can only report what its ending says, which need not be how the run ended.
-/

namespace OpenRill.Runs.KernelEnds

open Lib Lib.Transaction State Ledger Delegations Lifecycle Operations Projections LedgerRules
open StatusMoves Coordinator

variable {options : RunOptions} {known : StatusMap} {tables : RunTables}

theorem ends_shown {Value : Type} {body : RunTransaction Value} {after : Value → RunTables → Prop}
    (shown : OnLedger (Shows known) tables)
    (triple : Ensures (OnLedger (Shows known)) body after) :
    Ends tables (commit body) after (OnLedger (Shows known)) := by
  refine ends_commit (fun state value reached isTables ran => ?_) shown
  rw [isTables] at ran
  exact triple tables value reached shown ran

theorem executionContext_shows (runId : String) :
    Ensures (OnLedger (Shows known)) (executionContext runId)
      (fun context reached => known runId = some context.run.status ∧
        OnLedger (Shows known) reached) := by
  apply ensures_inspect_then
  intro read shown
  apply ensures_expect_then
  intro run found
  obtain ⟨-, isStatus⟩ := status_of_found shown found
  apply ensures_expect_then
  intro conversation _
  apply ensures_expect_then
  intro attemptId _
  apply ensures_expect_then
  intro attempt _
  exact ensures_pure _ fun _ stillShown => ⟨isStatus, stillShown⟩

theorem contextOf_status {runId : String} {context : ExecutionContext}
    (read : contextOf tables runId = some context) :
    statuses tables.ledger runId = some context.run.status := by
  unfold contextOf at read
  cases ran : (executionContext runId).run tables with
  | error failure =>
    rw [ran] at read
    cases read
  | ok pair =>
    rw [ran] at read
    obtain ⟨value, reached⟩ := pair
    rw [Option.some.injEq] at read
    rw [← read]
    exact (executionContext_shows runId tables value reached rfl ran).1

def statusAfter : Outcome → RunStatus
  | .completed _ _ => .completed
  | .failed _ _ => .failed
  | .waitingApproval _ => .waitingApproval
  | .waitingDelegation _ _ => .created

theorem not_terminal_of_transition {status next : RunStatus} (allowed : next ∈ transitions status) :
    status.terminal = false := by
  cases status <;> simp [transitions, RunStatus.terminal] at allowed ⊢

def Live (status : Option RunStatus) : Prop := ∃ live, status = some live ∧ live.terminal = false

theorem moveRun_moves (runId : String) (usage : Usage) (outcome : Outcome) (call : Call) :
    Ensures (OnLedger (Shows known)) (moveRun options runId usage call outcome)
      (fun _ reached => Live (known runId) ∧
        OnLedger (Shows (setStatus known runId (statusAfter outcome))) reached) := by
  have transition : ∀ input : TransitionInput, input.runId = runId →
      input.status = statusAfter outcome →
      Ensures (OnLedger (Shows known))
        (onLedger (transitionRun options input call.now call.createId))
        (fun _ reached => Live (known runId) ∧
          OnLedger (Shows (setStatus known runId (statusAfter outcome))) reached) := by
    intro input isRun isStatus
    refine ensures_mono (onLedger_ensures (transitionRun_moves input call.now call.createId))
      (fun _ holds => holds) fun _ reached moved => ?_
    obtain ⟨⟨status, isKnown, allowed⟩, shown⟩ := moved
    rw [isRun] at isKnown shown
    rw [isStatus] at shown
    exact ⟨⟨status, isKnown, not_terminal_of_transition allowed⟩, shown⟩
  cases outcome with
  | completed reason completionText => exact transition _ rfl rfl
  | failed errorCode message => exact transition _ rfl rfl
  | waitingApproval requestId => exact transition _ rfl rfl
  | waitingDelegation delegationId toolCallId =>
    refine ensures_mono (waitForDelegation_moves runId delegationId toolCallId call.now
      call.createId) (fun _ holds => holds) fun _ reached moved => ?_
    exact ⟨⟨.running, moved.1, rfl⟩, moved.2⟩

theorem endRun_ends (runId : String) (usage : Usage) (outcome : Outcome) (call : Call)
    (shown : OnLedger (Shows known) tables) :
    Ends tables (endRun options runId usage outcome call)
      (fun _ reached => Live (known runId) ∧
        OnLedger (Shows (setStatus known runId (statusAfter outcome))) reached)
      (OnLedger (Shows known)) := by
  refine ends_bind (ends_shown shown (updateExecutionUsage_shows _ _ _ _)) ?_
  intro _ reported stillShown
  exact ends_shown stillShown (moveRun_moves runId usage outcome call)

/-- How an execution that ends relates to its run: the result says how the run ended, or
that it has not, or the run had ended before. -/
structure Returned (known : StatusMap) (runId : String) (ending : RunStatus)
    (result : ExecutionResult) (reached : RunTables) : Prop where
  own : result.runId = runId
  moved : ∃ status, OnLedger (Shows (setStatus known runId status)) reached ∧
    (result.status.ended = some status ∨
      (result.status.ended = none ∧ status.terminal = false) ∨
      (known runId = some status ∧ status.terminal = true ∧ result.status.ended = some ending))

theorem failRun_ends (runId : String) (usage : Usage) (code message : String) (call : Call)
    (shown : OnLedger (Shows known) tables) :
    Ends tables (failRun options runId usage code message call)
      (Returned known runId .failed) (OnLedger (Shows known)) := by
  refine ends_bind (ends_shown shown (executionContext_shows runId)) ?_
  rintro current read ⟨isStatus, stillShown⟩
  apply ends_ite
  · intro terminal
    refine ends_pure _ ⟨rfl, current.run.status, ?_, Or.inr (Or.inr ⟨isStatus, terminal, rfl⟩)⟩
    rw [setStatus_same isStatus]
    exact stillShown
  · intro _
    refine ends_bind (endRun_ends runId usage _ call stillShown) ?_
    rintro _ reached ⟨-, moved⟩
    exact ends_pure _ ⟨rfl, .failed, moved, Or.inl rfl⟩

def RunningOrEnded (status : Option RunStatus) : Prop :=
  status = some .running ∨ status = some .failed ∨ status = some .cancelled

section

variable (runId : String) (usage : Usage) (call : Call) (inFlight : RunningOrEnded (known runId))
  (shown : OnLedger (Shows known) tables)
include runId usage call inFlight shown

theorem cancelRun_ends :
    Ends tables (cancelRun options runId usage call)
      (Returned known runId .cancelled) (OnLedger (Shows known)) := by
  refine ends_bind (ends_shown shown (executionContext_shows runId)) ?_
  rintro current read ⟨isStatus, stillShown⟩
  refine ends_bind (ends_shown stillShown (updateExecutionUsage_shows _ _ _ _)) ?_
  intro _ reported reportedShown
  apply ends_ite
  · intro _
    refine ends_bind (ends_shown reportedShown
      (onLedger_ensures (transitionRun_moves _ call.now call.createId))) ?_
    rintro _ reached ⟨-, moved⟩
    exact ends_pure _ ⟨rfl, .cancelled, moved, Or.inl rfl⟩
  · intro idle
    refine ends_pure _ ⟨rfl, current.run.status, ?_, Or.inr (Or.inr ⟨isStatus, ?_, rfl⟩)⟩
    · rw [setStatus_same isStatus]
      exact reportedShown
    rw [isStatus] at inFlight
    rcases inFlight with running | failed | cancelled
    · exact absurd (Or.inl (Option.some.inj running)) idle
    · rw [Option.some.inj failed]
      rfl
    · rw [Option.some.inj cancelled]
      rfl

theorem interruptRun_ends :
    Ends tables (interruptRun options runId usage call)
      (Returned known runId .failed) (OnLedger (Shows known)) := by
  refine ends_bind (ends_shown shown (executionContext_shows runId)) ?_
  rintro current read ⟨-, stillShown⟩
  refine ends_bind (ends_shown stillShown
    (onLedger_ensures (interruptExecution_moves runId _ call.now call.createId))) ?_
  intro classified reached moved
  rcases moved with ⟨idle, isClassified, unchanged⟩ | ⟨running, classes, moved⟩
  · -- A run that another service has ended: it is classified as it is.
    have terminal : classified.status.terminal = true := by
      rw [isClassified] at inFlight idle
      rcases inFlight with running | failed | cancelled
      · exact absurd running idle
      · rw [Option.some.inj failed]
        rfl
      · rw [Option.some.inj cancelled]
        rfl
    have notCreated : ¬ (classified.status = .created ∧
        classified.recoveryState = .resumable) := by
      rintro ⟨created, -⟩
      rw [created] at terminal
      cases terminal
    rw [if_neg notCreated]
    refine ends_pure _ ⟨rfl, classified.status, ?_, Or.inr (Or.inr ⟨isClassified, terminal, rfl⟩)⟩
    rw [setStatus_same isClassified]
    exact unchanged
  · apply ends_ite
    · rintro ⟨created, -⟩
      refine ends_pure _ ⟨rfl, classified.status, moved, Or.inr (Or.inl ⟨rfl, ?_⟩)⟩
      rw [created]
      rfl
    · intro notResumable
      refine ends_pure _ ⟨rfl, classified.status, moved, Or.inl ?_⟩
      rcases classes with resumable | failed
      · exact absurd resumable notResumable
      · rw [failed]
        rfl

end

def reports : Ending → RunStatus
  | .cancelled => .cancelled
  | _ => .failed

theorem concludeRun_ends (runId : String) (usage : Usage) {outcome : Outcome}
    {result : ExecutionResult} (call : Call) (own : result.runId = runId)
    (told : result.status.ended = some (statusAfter outcome) ∨
      (result.status.ended = none ∧ (statusAfter outcome).terminal = false))
    (shown : OnLedger (Shows known) tables) :
    Ends tables (concludeRun options runId usage outcome result call)
      (Returned known runId .failed) (OnLedger (Shows known)) := by
  have concluded : Ends tables
      (do
        let _ ← endRun options runId usage outcome call
        pure result)
      (Returned known runId .failed) (OnLedger (Shows known)) := by
    refine ends_bind (endRun_ends runId usage outcome call shown) ?_
    rintro _ reached ⟨-, moved⟩
    refine ends_pure _ ⟨own, statusAfter outcome, moved, ?_⟩
    rcases told with ended | waiting
    · exact Or.inl ended
    · exact Or.inr (Or.inl waiting)
  refine ends_rescue concluded fun failure reached stillShown => ?_
  exact failRun_ends runId usage "AGENT_MODEL_FAILED" (WaitProtocol.failureMessage failure) call
    stillShown

theorem endKernel_ends (runId : String) (usage : Usage) (call : Call) (ending : Ending)
    (inFlight : RunningOrEnded (known runId)) (shown : OnLedger (Shows known) tables) :
    Ends tables (endKernel options runId usage call ending)
      (Returned known runId (reports ending)) (OnLedger (Shows known)) := by
  cases ending with
  | complete reason text =>
    refine concludeRun_ends runId usage call rfl ?_ shown
    exact Or.inl rfl
  | approval requestId =>
    refine concludeRun_ends runId usage call rfl ?_ shown
    exact Or.inr ⟨rfl, rfl⟩
  | delegation delegationId toolCallId =>
    refine concludeRun_ends runId usage call rfl ?_ shown
    exact Or.inr ⟨rfl, rfl⟩
  | hostShutdown => exact interruptRun_ends runId usage call inFlight shown
  | cancelled => exact cancelRun_ends runId usage call inFlight shown
  | error code message => exact failRun_ends runId usage code message call shown

theorem openRoot_ends (initial : ExecutionContext) (resolution : ModelResolution)
    (budget : ExecutionBudget) (call : Call) (shown : OnLedger (Shows known) tables) :
    Ends tables (openRoot options initial resolution budget call)
      (fun _ => OnLedger (Shows known)) (OnLedger (Shows known)) := by
  unfold openRoot
  split
  next => exact ends_pure () shown
  next =>
    refine ends_bind (ends_shown shown (configureRootBudget_keeps _ _)) ?_
    intro _ reached stillShown
    exact ends_pure () stillShown

theorem startKernel_ends (runId : String) (initial : ExecutionContext)
    (resolution : ModelResolution) (call : Call) (shown : OnLedger (Shows known) tables) :
    Ends tables (startKernel options runId initial resolution call)
      (fun _ => OnLedger (Shows (setStatus known runId .running)))
      (OnLedger (Shows known)) := by
  refine ends_bind (ends_shown shown (keeps_expect_last _ _)) ?_
  intro budget resolved stillShown
  refine ends_bind (openRoot_ends initial resolution budget call stillShown) ?_
  intro _ rooted rootedShown
  apply ends_ite
  · intro _
    refine ends_mono (ends_shown rootedShown
      (onLedger_ensures (resumeExecution_moves runId call.now call.createId)))
      (fun _ _ moved => moved.2) fun _ unmoved => unmoved
  · intro _
    refine ends_mono (ends_shown rootedShown (startExecution_moves _ call.now call.createId))
      (fun _ _ moved => moved.2) fun _ unmoved => unmoved

/-- The phase in which an execution is left, with the statuses it leaves. -/
inductive Begun (known : StatusMap) (runId : String) : Phase × RunTables → Prop where
  | preparing (reached : RunTables) (shown : OnLedger (Shows known) reached) :
      Begun known runId (.preparing, reached)
  | failed (reached : RunTables)
      (shown : OnLedger (Shows (setStatus known runId .failed)) reached) :
      Begun known runId (.returned (resultOf runId 0 .failed "SKILL_PREPARATION_FAILED"), reached)
  | rejected (reached : RunTables) (shown : OnLedger (Shows known) reached) :
      Begun known runId (.rejected, reached)

theorem failPreparation_begun (runId message : String) (call : Call)
    (shown : OnLedger (Shows known) tables) :
    Begun known runId (failPreparation options runId message call tables) := by
  have failed : Ends tables
      (endRun options runId 0 (.failed "SKILL_PREPARATION_FAILED" message) call)
      (fun _ reached => Live (known runId) ∧
        OnLedger (Shows (setStatus known runId .failed)) reached)
      (OnLedger (Shows known)) := endRun_ends runId 0 _ call shown
  unfold Ends at failed
  unfold failPreparation
  cases ran : (endRun options runId 0 (.failed "SKILL_PREPARATION_FAILED" message)
      call).run.run tables with
  | mk result reached =>
    rw [ran] at failed
    cases result with
    | error failure => exact .rejected reached failed
    | ok row => exact .failed reached failed.2

theorem prepare_begun (runId : String) (call : Call) (shown : OnLedger (Shows known) tables) :
    Begun known runId (prepare options runId call tables) := by
  unfold prepare
  cases ran : (prepareExecutionAttempt options runId call.now call.createId).run tables.ledger with
  | error failure =>
    exact failPreparation_begun runId (WaitProtocol.failureMessage failure) call shown
  | ok pair =>
    obtain ⟨attempt, reached⟩ := pair
    have prepared := prepareExecutionAttempt_shows runId call.now call.createId tables.ledger
      attempt reached shown ran
    exact .preparing _ prepared.2

end OpenRill.Runs.KernelEnds
