import OpenRill.Automation.Executor
import OpenRill.Automation.RowMoves

/-!
# What a step of a process can do

Every step of a scheduler and of its executor, read off its definition once: how it moves
the marks of the automation runs, and where it leaves the execution in hand. What holds of
all of them is derived from this.
-/

namespace OpenRill.Automation.DeskMoves

open Lib.Checked
open OpenRill.Runs.Delegations (RunTables)
open OpenRill.Runs.Lifecycle (RunOptions)
open Ledger RunWrites Scheduler SchedulerProcess Executor RowMoves

variable {options : SchedulerOptions} {automationRunId : String} {mark after : Option Mark}

def boundOf (mark : Option Mark) : Option String := mark.bind Mark.runId

def Spent (mark : Option Mark) : Prop :=
  ∃ known, mark = some known ∧
    (known.runId ≠ none ∨ known.status ≠ .pending ∧ known.status ≠ .claimed)

inductive Carried : Option Mark → Option Mark → Prop where
  | same (mark : Option Mark) : Carried mark mark
  | inserted (status : AutomationRunStatus) :
      Carried none (some { status := status, runId := none })
  | claimed (runId : Option String) :
      Carried (some { status := .pending, runId := runId })
        (some { status := .claimed, runId := runId })
  | started (runId : Option String) :
      Carried (some { status := .claimed, runId := runId })
        (some { status := .running, runId := runId })
  | requeued (status : AutomationRunStatus) (runId : Option String)
      (unspent : status = .claimed ∨ runId ≠ none) :
      Carried (some { status := status, runId := runId })
        (some { status := .pending, runId := runId })
  | interrupted (runId : Option String) :
      Carried (some { status := .running, runId := runId })
        (some { status := .failed, runId := runId })

theorem carried_boundOf (carried : Carried mark after) : boundOf after = boundOf mark := by
  cases carried <;> rfl

theorem carried_spent (carried : Carried mark after) (spent : Spent mark) : Spent after := by
  obtain ⟨known, rfl, reason⟩ := spent
  cases carried with
  | same => exact ⟨known, rfl, reason⟩
  | claimed runId => exact ⟨_, rfl, reason.imp_right fun other => absurd rfl other.1⟩
  | started runId => exact ⟨_, rfl, reason.imp_right fun other => absurd rfl other.2⟩
  | requeued status runId unspent =>
    refine ⟨_, rfl, Or.inl ?_⟩
    rcases reason with bound | ⟨-, unclaimed⟩
    · exact bound
    · exact unspent.resolve_left unclaimed
  | interrupted runId => exact ⟨_, rfl, Or.inr (by simp)⟩

def isFresh : Execution → Bool
  | .begun none => true
  | .conversing _ _ => true
  | _ => false

def carries : Execution → Option String
  | .begun runId => runId
  | .sent submission => some submission.runId
  | .bound submission => some submission.runId
  | .ready _ runId => some runId
  | .awaiting _ runId _ => some runId
  | .returned (.succeeded runId) => runId
  | .returned (.failed runId _) => runId
  | _ => none

def follows : Execution → Option String
  | .begun runId => runId
  | .bound submission => some submission.runId
  | .ready _ runId => some runId
  | .awaiting _ runId _ => some runId
  | _ => none

variable {state : ProcessState} {tables after : AutomationTables}
variable {zonedParts : String → Nat → Option Schedule.ZonedParts} {scheduler : SchedulerState}

theorem carried_of_grown (grown : Grown (marks tables) (marks after)) (wanted : String) :
    Carried (marks tables wanted) (marks after wanted) := by
  rcases grown wanted with same | ⟨absent, status, -, inserted⟩
  · rw [same]
    exact Carried.same _
  · rw [absent, inserted]
    exact Carried.inserted status

theorem carried_of_same (same : marks after = marks tables) (wanted : String) :
    Carried (marks tables wanted) (marks after wanted) := by
  rw [same]
  exact Carried.same _

theorem carried_of_set {mark : Mark}
    (set : marks after = setMark (marks tables) automationRunId mark)
    (own : Carried (marks tables automationRunId) (some mark)) (wanted : String) :
    Carried (marks tables wanted) (marks after wanted) := by
  rw [set]
  by_cases same : wanted = automationRunId
  · rw [same, setMark_self]
    exact own
  · rw [setMark_other same]
    exact Carried.same _

theorem recover_carried (linked : String → Option LinkedRun) (tables : AutomationTables)
    (now : Nat) (wanted : String) :
    Carried (marks tables wanted) (marks (recoverExpiredRuns linked tables now).1 wanted) := by
  rcases @recoverExpiredRuns_marks tables linked now wanted with
    same | ⟨run, present, -, live, isMark⟩
  · rw [same]
    exact Carried.same _
  rw [isMark, marks_found present, recoveredMark, markOf]
  split
  next requeues =>
    refine Carried.requeued run.status run.runId (requeues.imp_right ?_)
    intro resumes unbound
    simp [unbound] at resumes
  next stays =>
    have running : run.status = .running :=
      live.resolve_left fun claimed => stays (Or.inl claimed)
    rw [running]
    exact Carried.interrupted run.runId

theorem startScheduler_carried (now : Nat) {linked : String → Option LinkedRun} (wanted : String) :
    Carried (marks state.tables wanted)
      (marks (SchedulerProcess.start options state now linked).tables wanted) := by
  unfold SchedulerProcess.start
  split
  · exact Carried.same _
  · have recovered := recover_carried linked state.tables now wanted
    simp only [ProcessState.tables, Scheduler.wake]
    split
    · exact recovered
    · exact recovered

theorem materialized_carried (ownerId : String) (createId : Nat → String) (wanted : String) :
    Carried (marks scheduler.tables wanted)
      (marks (Scheduler.materialize zonedParts scheduler ownerId createId).tables wanted) :=
  carried_of_grown (materialize_walks grown_inserts zonedParts scheduler ownerId createId) wanted

theorem claim_carried (claimedAt : Nat) (wanted : String) :
    Carried (marks state.tables wanted) (marks (claim options state claimedAt).tables wanted) := by
  unfold claim
  split
  next wakeAt claimedRuns =>
    split
    · exact Carried.same _
    split
    · exact Carried.same _
    next candidate =>
      split
      · exact Carried.same _
      next tables done =>
        rcases claimRun_marks done with ⟨-, same⟩ | ⟨runId, -, ⟨row, isRow, -⟩, -⟩
        · exact carried_of_same same wanted
        · cases isRow
      next tables claimed done =>
        rcases claimRun_marks done with ⟨isNone, -⟩ | ⟨runId, known, -, set⟩
        · cases isNone
        · refine carried_of_set set ?_ wanted
          rw [known]
          exact Carried.claimed runId
  next => exact Carried.same _

theorem renew_carried (renewedAt : Nat) (wanted : String) :
    Carried (marks state.tables wanted) (marks (renew options state renewedAt).tables wanted) := by
  unfold renew
  split
  next wakeAt claimedRuns automationRunId =>
    split
    · exact Carried.same _
    next tables done => exact carried_of_same (renewRunLease_marks done) wanted
    next tables renewed done => exact carried_of_same (renewRunLease_marks done) wanted
  next => exact Carried.same _

theorem define_carried (call : DefinitionCall) (wanted : String) :
    Carried (marks scheduler.tables wanted)
      (marks (Scheduler.step zonedParts scheduler call.toOp).tables wanted) := by
  have unmoved : ∀ {before reached : AutomationTables}, reached.runs = before.runs →
      Grown (marks before) (marks reached) := by
    intro before reached same
    rw [marks_of_runs same]
    exact grown_refl _
  exact carried_of_grown (define_walks grown_inserts unmoved zonedParts scheduler call) wanted

theorem schedule_carried {op : ProcessOp} (allowed : schedules op = true) (wanted : String) :
    Carried (marks state.tables wanted)
      (marks (SchedulerProcess.step options state op).tables wanted) := by
  cases op with
  | wake now =>
    simp only [SchedulerProcess.step, SchedulerProcess.wake, ProcessState.tables, Scheduler.wake]
    split
    · split <;> exact Carried.same _
    · exact Carried.same _
  | materialize createId =>
    simp only [SchedulerProcess.step, materializeDue]
    split
    · exact Carried.same _
    · split
      · exact Carried.same _
      · split <;> exact materialized_carried state.ownerId createId wanted
  | claim claimedAt => exact claim_carried claimedAt wanted
  | renew renewedAt => exact renew_carried renewedAt wanted
  | throw => exact Carried.same _
  | close => exact Carried.same _
  | define call => exact define_carried call wanted
  | boot ownerId => cases allowed
  | start now linked => cases allowed
  | markRunning runningAt => cases allowed
  | bindRunId runId boundAt => cases allowed
  | finish result terminalAt => cases allowed

inductive Did (desk : Desk) : Desk → Prop where
  | worked (after : Desk)
      (moved : ∀ wanted, Carried (marks desk.process.tables wanted)
        (marks after.process.tables wanted))
      (execution : after.execution = .idle ∨
        executes after.process.stage = executes desk.process.stage ∧
          after.execution = desk.execution)
      (sent : after.sent = desk.sent) (executed : after.executed = desk.executed) :
      Did desk after
  | began (after : Desk) (automationRunId : String) (runId : Option String)
      (claimed : marks desk.process.tables automationRunId =
        some { status := .claimed, runId := runId })
      (reached : marks after.process.tables =
        setMark (marks desk.process.tables) automationRunId { status := .running, runId := runId })
      (inHand : executes after.process.stage = some automationRunId)
      (execution : after.execution = .begun runId)
      (sent : after.sent = desk.sent) (executed : after.executed = desk.executed) :
      Did desk after
  | went (runs : RunTables) (execution : Execution)
      (fresh : isFresh execution = true → isFresh desk.execution = true)
      (carried : ∀ runId, carries execution = some runId → carries desk.execution = some runId)
      (followed : ∀ runId, follows execution = some runId → follows desk.execution = some runId) :
      Did desk { desk with runs := runs, execution := execution }
  | sent (runs : RunTables) (automationRunId conversationId workspaceId runId : String)
      (fresh : isFresh desk.execution = true)
      (inHand : executes desk.process.stage = some automationRunId) :
      Did desk
        { desk with
          runs := runs
          execution := .sent
            { workspaceId := workspaceId, conversationId := conversationId, runId := runId }
          sent := desk.sent ++
            [{ automationRunId := automationRunId
               conversationId := conversationId
               runId := runId }] }
  | bound (tables : AutomationTables) (automationRunId runId : String) (execution : Execution)
      (carried : carries desk.execution = some runId)
      (inHand : executes desk.process.stage = some automationRunId)
      (fresh : isFresh execution = false) (carriesIt : carries execution = some runId)
      (followed : ∀ other, follows execution = some other → other = runId)
      (reached : marks tables = marks desk.process.tables ∧
          boundOf (marks tables automationRunId) = some runId ∨
        marks desk.process.tables automationRunId =
            some { status := .running, runId := none } ∧
          marks tables =
            setMark (marks desk.process.tables) automationRunId
              { status := .running, runId := some runId }) :
      Did desk { desk with process := desk.process.withTables tables, execution := execution }
  | awaited (automationRunId runId : String) (execution : Execution)
      (inHand : executes desk.process.stage = some automationRunId)
      (followed : follows desk.execution = some runId)
      (carried : carries desk.execution = some runId) (fresh : isFresh execution = false)
      (carriesIt : carries execution = some runId) (followsIt : follows execution = some runId) :
      Did desk
        { desk with
          execution := execution
          executed := desk.executed ++
            [{ automationRunId := automationRunId
               runId := runId }] }
  | finished (after : Desk) (automationRunId : String) (result : Option String)
      (earlier : Option String) (status : FinishStatus)
      (carried : ∀ runId, result = some runId → carries desk.execution = some runId)
      (inHand : executes desk.process.stage = some automationRunId)
      (running : marks desk.process.tables automationRunId =
        some { status := .running, runId := earlier })
      (reached : marks after.process.tables =
        setMark (marks desk.process.tables) automationRunId
          { status := status.toStatus, runId := result.or earlier })
      (execution : after.execution = .idle)
      (sent : after.sent = desk.sent) (executed : after.executed = desk.executed) :
      Did desk after

variable {runOptions : RunOptions} {desk : Desk}

theorem did_nothing : Did desk desk :=
  Did.worked desk (fun _ => Carried.same _) (Or.inr ⟨rfl, rfl⟩) rfl rfl

theorem did_withProcess {process : ProcessState}
    (moved : ∀ wanted, Carried (marks desk.process.tables wanted)
      (marks process.tables wanted)) : Did desk (desk.withProcess process) := by
  refine Did.worked _ moved ?_ rfl rfl
  by_cases same : executes process.stage = executes desk.process.stage
  · exact Or.inr ⟨same, if_pos same⟩
  · exact Or.inl (if_neg same)

theorem did_fail {runId : Option String} {errorCode : String}
    (known : ∀ own, runId = some own → carries desk.execution = some own) :
    Did desk (desk.fails runId errorCode) := by
  refine Did.went desk.runs (.returned (.failed runId errorCode)) ?_ known ?_
  · exact fun fresh => nomatch fresh
  · exact fun _ follows => nomatch follows

theorem thrown_executes (state : ProcessState) : executes (thrown state).stage = none := by
  cases isStage : state.stage <;> simp [thrown, Stage.thrown, isStage, executes]

theorem markRunning_did (runningAt : Nat) :
    Did desk (Executor.markRunning options runningAt desk) := by
  unfold Executor.markRunning
  split
  next wakeAt claimedRuns automationRunId isStage =>
    unfold SchedulerProcess.markRunning
    rw [isStage]
    simp only []
    split
    · refine Did.worked _ (fun _ => Carried.same _) (Or.inl ?_) rfl rfl
      simp only [startedWith, thrown_executes]
    next tables done =>
      rcases markRunRunning_marks done with ⟨-, same⟩ | ⟨row, isRow, -⟩
      · refine Did.worked _ (carried_of_same same) (Or.inl ?_) rfl rfl
        simp only [startedWith, thrown_executes]
      · cases isRow
    next tables running done =>
      rcases markRunRunning_marks done with ⟨isNone, -⟩ | ⟨row, isRow, claimed, reached⟩
      · cases isNone
      · cases isRow
        split
        · refine Did.began _ automationRunId running.runId claimed reached rfl ?_ rfl rfl
          have found : marks tables automationRunId =
              some { status := .running, runId := running.runId } := by
            rw [reached, setMark_self]
          obtain ⟨row, present, isMark⟩ := Option.map_eq_some_iff.mp found
          simp only [startedWith, executes, ProcessState.tables, ProcessState.withTables]
          rw [present]
          exact congrArg (fun mark => Execution.begun mark.runId) isMark
        · refine Did.worked _ (carried_of_set reached ?_) (Or.inl ?_) rfl rfl
          · rw [claimed]
            exact Carried.started running.runId
          · simp only [startedWith, thrown_executes]
  next => exact did_nothing

theorem createConversation_did (template : ConversationTemplate) (call : Runs.Operations.Call) :
    Did desk (createConversation runOptions template call desk) := by
  unfold createConversation
  split
  next isExecution =>
    split
    · refine Did.went _ _ (fun _ => ?_) (fun _ => nofun) (fun _ => nofun)
      rw [isExecution]
      rfl
    · exact did_fail nofun
  next => exact did_nothing

theorem send_did (call : Runs.Operations.Call) : Did desk (send runOptions call desk) := by
  unfold send
  split
  next template conversationId automationRunId isExecution inHand =>
    split
    · refine Did.sent _ automationRunId conversationId template.workspaceId _ ?_ inHand
      rw [isExecution]
      rfl
    · exact did_fail nofun
  next => exact did_nothing

theorem bind_did (boundAt : Nat) : Did desk (Executor.bind boundAt desk) := by
  unfold Executor.bind
  split
  next submission automationRunId isExecution inHand =>
    have known : carries desk.execution = some submission.runId := by
      rw [isExecution]
      rfl
    split
    next tables row done =>
      refine Did.bound tables automationRunId submission.runId (.bound submission) known inHand
        rfl rfl (fun other followed => (Option.some.inj followed).symm) ?_
      rcases bindRunId_marks done with ⟨same, bound⟩ | moved
      · obtain ⟨mark, isMark, isBound⟩ := bound rfl
        refine Or.inl ⟨same, ?_⟩
        rw [same, isMark]
        exact isBound
      · exact Or.inr moved
    · exact did_fail fun own same => by rw [known, same]
    · exact did_fail fun own same => by rw [known, same]
  next => exact did_nothing

theorem classify_did (now : Nat) : Did desk (classify now desk) := by
  unfold classify
  split
  next submission automationRunId isExecution inHand =>
    split
    · refine Did.went _ _ nofun (fun _ => ?_) (fun _ => ?_)
      · rw [isExecution]
        exact id
      · rw [isExecution]
        exact id
    · refine did_fail (fun own same => ?_)
      rw [isExecution]
      exact same
  next => exact did_nothing

theorem resume_did : Did desk (resume desk) := by
  unfold resume
  split
  next runId isExecution =>
    refine Did.went desk.runs _ nofun (fun _ => ?_) fun _ => ?_
    · rw [isExecution]
      exact id
    · rw [isExecution]
      exact id
  next => exact did_nothing

theorem await_did (heard : Nat) : Did desk (await heard desk) := by
  unfold await
  split
  next submission runId automationRunId isExecution inHand =>
    refine Did.awaited automationRunId runId _ inHand ?_ ?_ rfl rfl rfl
    · rw [isExecution]
      rfl
    · rw [isExecution]
      rfl
  next => exact did_nothing

theorem settle_did (outcome : Outcome) : Did desk (settle outcome desk) := by
  unfold settle
  split
  next submission runId heard isExecution =>
    refine Did.went desk.runs _ nofun (fun own => ?_) fun _ => nofun
    rw [isExecution]
    have known : carries (.returned (resultOf runId outcome)) = some runId := by
      cases outcome with
      | resolved status => cases status <;> rfl
      | rejected message => rfl
    rw [known]
    exact id
  next => exact did_nothing

theorem finishInput_runId {owner : String} {terminalAt : Nat} {result : ExecutionResult}
    {input : FinishRunInput}
    (made : finishInput automationRunId owner terminalAt result = some input) :
    input.automationRunId = automationRunId ∧ input.runId = carries (.returned result) := by
  cases result with
  | succeeded runId =>
    cases made
    exact ⟨rfl, rfl⟩
  | failed runId errorCode =>
    simp only [finishInput] at made
    split at made
    · cases made
      exact ⟨rfl, rfl⟩
    · cases made

theorem finish_did (terminalAt : Nat) : Did desk (Executor.finish terminalAt desk) := by
  unfold Executor.finish
  split
  next result isExecution =>
    unfold SchedulerProcess.finish
    split
    next wakeAt claimedRuns automationRunId renewing leaseLost isStage =>
      split
      · exact did_withProcess fun _ => Carried.same _
      split
      · exact did_withProcess fun _ => Carried.same _
      next input made =>
        split
        · exact did_withProcess fun _ => Carried.same _
        next tables done =>
          rcases finishRun_marks done with ⟨-, same⟩ | ⟨row, runId, isRow, -⟩
          · exact did_withProcess (carried_of_same same)
          · cases isRow
        next tables row done =>
          obtain ⟨named, isRunId⟩ := finishInput_runId made
          rcases finishRun_marks done with ⟨isNone, -⟩ | ⟨-, earlier, -, running, reached⟩
          · cases isNone
          rw [named] at running reached
          refine Did.finished _ automationRunId input.runId earlier input.status ?_ ?_
            running reached ?_ rfl rfl
          · rw [isExecution, isRunId]
            exact fun _ => id
          · rw [isStage]
            rfl
          · simp [Desk.withProcess, isStage, executes]
    next => exact did_withProcess fun _ => Carried.same _
  next => exact did_nothing

theorem step_did (op : DeskOp) : Did desk (Executor.step options runOptions desk op) := by
  cases op with
  | schedule op =>
    simp only [Executor.step, schedule]
    split
    next allowed => exact did_withProcess (schedule_carried allowed)
    next => exact did_nothing
  | start now => exact did_withProcess (startScheduler_carried now)
  | markRunning runningAt => exact markRunning_did runningAt
  | createConversation template call => exact createConversation_did template call
  | send call => exact send_did call
  | bind boundAt => exact bind_did boundAt
  | classify now => exact classify_did now
  | resume => exact resume_did
  | await heard => exact await_did heard
  | settle outcome => exact settle_did outcome
  | finish terminalAt => exact finish_did terminalAt

end OpenRill.Automation.DeskMoves
