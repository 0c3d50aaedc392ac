import Mathlib.Logic.Relation
import OpenRill.Goals.Cancellation

/-!
# Every call is a run of moves

A call of a service, of the executor, of a controller or of maintenance takes the
ledger through moves from founded states, and makes only the deeds that the rules it
is held to allow. The rules are conditions on the state before the call.
-/

namespace OpenRill.Goals.Calls

open Lib Lib.Transaction Lib.Runs Ledger TaskFlows Executor GoalService Operations PlanMachine
open Moves Footing Writes Refinement Revisions Cancellation

variable {blockerId : String} {execution : ExecutionRow} {Value : Type} {binding : Binding}

/-- What a run may be held to at each of the named deeds. -/
structure Rules where
  plain : Prop
  succeed : GoalStore → StepExecutionRow → Prop
  block : GoalStore → Option String → Prop
  adopt : GoalStore → Prop
  finish : GoalStore → Prop
  fail : GoalStore → Prop
  cancel : Option ExecutionRow → Prop
  cut : Option ExecutionRow → Table StepExecutionRow.key → Prop

def Rules.free : Rules where
  plain := True
  succeed := fun _ _ => True
  block := fun _ _ => True
  adopt := fun _ => True
  finish := fun _ => True
  fail := fun _ => True
  cancel := fun _ => True
  cut := fun _ _ => True

def Rules.allows (rules : Rules) (store : GoalStore) : Deed → Prop
  | .plain => rules.plain
  | .shift | .ask | .child => True
  | .succeed step => rules.succeed store step
  | .block currentStep => rules.block store currentStep
  | .adopt => rules.adopt store
  | .finish => rules.finish store
  | .fail => rules.fail store
  | .cancel => rules.cancel store.execution
  | .cut => rules.cut store.execution store.stepExecutions

def Stride (rules : Rules) (store reached : GoalStore) : Prop :=
  Founded store ∧ ∃ deed, rules.allows store deed ∧ Move deed store reached

def Led (rules : Rules) : GoalStore → GoalStore → Prop :=
  Relation.ReflTransGen (Stride rules)

variable {rules : Rules} {store middle reached : GoalStore}

theorem Led.refl : Led rules store store := Relation.ReflTransGen.refl

theorem Led.trans (first : Led rules store middle) (rest : Led rules middle reached) :
    Led rules store reached :=
  Relation.ReflTransGen.trans first rest

theorem led_of_move {deed : Deed} (founded : Founded store) (allowed : rules.allows store deed)
    (move : Move deed store reached) : Led rules store reached :=
  Relation.ReflTransGen.single ⟨founded, deed, allowed, move⟩

theorem led_keeps {invariant : GoalStore → Prop}
    (preserved : ∀ deed store reached, rules.allows store deed → Founded store →
      Move deed store reached → invariant store → invariant reached)
    (led : Led rules store reached) (initially : invariant store) : invariant reached := by
  induction led with
  | refl => exact initially
  | tail _ stride ih =>
    obtain ⟨founded, deed, allowed, move⟩ := stride
    exact preserved deed _ _ allowed founded move ih

theorem led_founded (led : Led rules store reached) (founded : Founded store) :
    Founded reached :=
  led_keeps (fun _ _ _ _ _ move => founded_of_move move) led founded

variable {known : GoalStore} {Result : Type}
variable {body : GoalTransaction Value} {after : Value → GoalStore → Prop}

def Conducts (rules : Rules) (known : GoalStore) (body : GoalProcedure Value)
    (after : Value → GoalStore → Prop) : Prop :=
  Ends known body (fun value reached => Led rules known reached ∧ after value reached)
    (Led rules known)

theorem conducts_bind {middle : Value → GoalStore → Prop}
    {ending : Result → GoalStore → Prop} {body : GoalProcedure Value}
    {next : Value → GoalProcedure Result} (first : Conducts rules known body middle)
    (rest : ∀ value reached, Led rules known reached → middle value reached →
      Conducts rules reached (next value) ending) :
    Conducts rules known (body >>= next) ending := by
  refine ends_bind first ?_
  rintro value reached ⟨led, holds⟩
  refine ends_mono (rest value reached led holds) ?_ ?_
  · rintro result final ⟨later, ended⟩
    exact ⟨led.trans later, ended⟩
  · intro final later
    exact led.trans later

theorem conducts_pure (value : Value) (holds : after value known) :
    Conducts rules known (pure value) after :=
  ends_pure value ⟨Led.refl, holds⟩

theorem conducts_mono {body : GoalProcedure Value} {fact : Value → GoalStore → Prop}
    (conducts : Conducts rules known body fact)
    (holds : ∀ value reached, fact value reached → after value reached) :
    Conducts rules known body after := by
  refine ends_mono conducts ?_ fun _ led => led
  rintro value reached ⟨led, facts⟩
  exact ⟨led, holds value reached facts⟩

theorem conducts_read {fact : Value → Prop}
    (reads : Ensures (· = known) body (fun value reached => fact value ∧ reached = known)) :
    Conducts rules known (commit body) (fun value reached => fact value ∧ reached = known) := by
  refine ends_commit (ensures_result reads ?_) Led.refl
  rintro value reached ⟨facts, rfl⟩
  exact ⟨Led.refl, facts, rfl⟩

theorem conducts_move (founded : Founded known)
    (moves : Ensures (· = known) body (fun value reached =>
      (reached = known ∨ ∃ deed, rules.allows known deed ∧ Move deed known reached) ∧
        after value reached)) : Conducts rules known (commit body) after := by
  refine ends_commit (ensures_result moves ?_) Led.refl
  rintro value reached ⟨rfl | ⟨deed, allowed, move⟩, holds⟩
  · exact ⟨Led.refl, holds⟩
  · exact ⟨led_of_move founded allowed move, holds⟩

theorem conducts_ite {condition : Prop} [Decidable condition] {yes no : GoalProcedure Value}
    (taken : condition → Conducts rules known yes after)
    (skipped : ¬ condition → Conducts rules known no after) :
    Conducts rules known (if condition then yes else no) after :=
  ends_ite taken skipped

theorem prepared_led {middle : GoalStore} (founded : Founded known)
    (prepared : Prepared known middle) :
    Led rules known middle ∧ middle.execution = known.execution ∧
      middle.stepExecutions = known.stepExecutions := by
  obtain ⟨flow, children, flowStep, sameLinks, rfl⟩ := prepared
  refine ⟨?_, rfl, rfl⟩
  have asking : Led rules known { known with flow := flow } := by
    rcases flowStep with rfl | ⟨after, asked, rfl⟩
    · exact Led.refl
    · exact @led_of_move rules _ _ .ask founded trivial (asked_moves asked)
  have moving : Move .child { known with flow := flow }
      { known with flow := flow, children := children } :=
    @Move.childMoved { known with flow := flow } children sameLinks
  exact asking.trans (@led_of_move rules _ _ .child (led_founded asking founded) trivial moving)

theorem quiet_of_cancelled {middle reached : GoalStore} {execution : ExecutionRow}
    (founded : Founded known) (present : known.execution = some execution)
    (sameRows : middle.stepExecutions = known.stepExecutions)
    (cancelled : Cancelled middle execution reached) : Quiet reached := by
  obtain ⟨goal, planSteps, table, -, -, -, swept, rfl⟩ := cancelled
  intro row rowIn running
  rw [swept, sameRows] at rowIn
  obtain ⟨old, oldIn, rfl⟩ := List.mem_map.mp rowIn
  by_cases pinned : old.planRevision = execution.planRevision
  · exact (sweptRow_still execution.planRevision old pinned).2.1 running
  · have kept : sweptRow execution.planRevision old = old := by
      unfold sweptRow
      rw [if_neg fun picked => pinned picked.1]
    rw [kept] at running
    exact pinned ((founded.sound.settled execution present).runningPinned old oldIn running)

theorem projectCancelled_ends {middle : GoalStore} {execution : ExecutionRow}
    {flow : Option FlowRow} (founded : Founded middle)
    (present : middle.execution = some execution) (flowClosed : FlowClosed middle.flow flow)
    (allowed : rules.cancel middle.execution) {threw : GoalStore → Prop} :
    Ends { middle with flow := flow } (commit projectCancelled)
      (fun _ reached => Led rules middle reached ∧ Quiet reached) threw := by
  have completes := @projectCancelled_completes { middle with flow := flow } execution
    founded.sound.tasksDistinct present
  refine ends_completed (completes_result completes ?_)
  intro _ reached cancelled
  constructor
  · exact @led_of_move rules middle reached .cancel founded allowed
      (cancelled_moves present flowClosed cancelled)
  · exact @quiet_of_cancelled middle { middle with flow := flow } reached execution founded
      present rfl cancelled

theorem cancel_conducts (founded : Founded known) (host : Host) (caller : Owner)
    (expectedExecutionRevision expectedFlowRevision : Nat)
    (allowed : rules.cancel known.execution) :
    Conducts rules known
      (Executor.cancel host caller expectedExecutionRevision expectedFlowRevision)
      (fun _ reached => Quiet reached) := by
  refine ends_bind (conducts_read (currentRows_reads caller expectedExecutionRevision)) ?_
  rintro rows known ⟨-, ⟨execution, present, rfl, -⟩, rfl⟩
  refine ends_bind (ends_mono (cancelFlow_ends _ expectedFlowRevision host.stopped)
    (fun _ _ ended => ended) ?_) ?_
  · intro middle prepared
    exact (prepared_led founded prepared).1
  intro _ reached ended
  cases ended with
  | @before flow isFlow flowOver same =>
    rw [same]
    exact @projectCancelled_ends rules known execution known.flow founded present
      (FlowClosed.before isFlow flowOver rfl) allowed (Led rules known)
  | @now middle flow currentStep prepared moved shown written =>
    obtain ⟨led, sameExecution, -⟩ := @prepared_led rules known middle founded prepared
    have middlePresent : middle.execution = some execution := sameExecution.trans present
    have middleAllowed : rules.cancel middle.execution := by
      rw [sameExecution]
      exact allowed
    rw [written]
    refine ends_mono (@projectCancelled_ends rules middle execution (some flow)
      (led_founded led founded) middlePresent (FlowClosed.now moved shown rfl) middleAllowed
      (Led rules known)) ?_ fun _ spilled => spilled
    rintro _ final ⟨later, quiet⟩
    exact ⟨led.trans later, quiet⟩

theorem cancelFlow_conducts (founded : Founded known) (expectedRevision : Nat)
    (stopped : ChildRow → TaskStatus) (allowed : rules.cut known.execution known.stepExecutions) :
    Conducts rules known (TaskFlows.cancel binding expectedRevision stopped) (fun _ _ => True) := by
  refine ends_mono (cancelFlow_ends binding expectedRevision stopped) ?_ ?_
  · intro _ reached ended
    refine ⟨?_, trivial⟩
    cases ended with
    | before _ _ same =>
      rw [same]
      exact Led.refl
    | @now middle flow currentStep prepared moved shown written =>
      obtain ⟨led, sameExecution, sameSteps⟩ := @prepared_led rules known middle founded prepared
      rw [written]
      refine led.trans (led_of_move (led_founded led founded) ?_ (Move.cut moved shown))
      change rules.cut middle.execution middle.stepExecutions
      rw [sameExecution, sameSteps]
      exact allowed
  · intro middle prepared
    exact (prepared_led founded prepared).1

def MayProject (rules : Rules) (store : GoalStore) : Prop :=
  ∀ execution step child, store.execution = some execution →
    Pinned (viewOf store) execution step → step.status = .running →
    child ∈ store.children.rows → step.currentTaskId = some child.taskId →
    (child.status = .succeeded → child.terminalOutcome = some .succeeded →
      rules.succeed store step) ∧
    (child.status = .cancelled → rules.cancel store.execution)

theorem mayProject_of_quiet (quiet : Quiet known) : MayProject rules known := by
  intro execution step child _ pinned running
  exact absurd running (quiet step pinned.1)

theorem mayProject_free : MayProject Rules.free known :=
  fun _ _ _ _ _ _ _ _ => ⟨fun _ _ => trivial, fun _ => trivial⟩

section

variable (founded : Founded known) (host : Host) (fits : idFits blockerId = true)
include founded host fits

theorem projectTerminal_conducts {task : ChildRow} {step : StepExecutionRow}
    (present : known.execution = some execution) (pinned : Pinned (viewOf known) execution step)
    (running : step.status = .running)
    (succeeds : task.status = .succeeded → task.terminalOutcome = some .succeeded →
      rules.succeed known step)
    (cancels : task.status = .cancelled → rules.cancel known.execution) :
    Conducts rules known (projectTerminal host blockerId (snapshotOf known execution task step))
      (fun _ reached => Quiet reached) := by
  apply conducts_ite
  · rintro ⟨succeeded, outcome⟩
    apply conducts_move founded
    refine ensures_result (reconcileSuccess_moves founded present pinned running) ?_
    rintro _ reached ⟨move, quiet⟩
    exact ⟨Or.inr ⟨.succeed step, succeeds succeeded outcome, move⟩, quiet⟩
  · intro _
    apply conducts_ite
    · intro _
      apply conducts_move founded
      refine ensures_result (reconcileStop_moves founded host fits (blockedStop_stopping task)
        present pinned running) ?_
      rintro _ reached ⟨move, quiet⟩
      exact ⟨Or.inr ⟨.shift, trivial, move⟩, quiet⟩
    · intro _
      apply conducts_ite
      · intro cancelled
        refine conducts_bind (conducts_read (controlled_reads _)) ?_
        rintro flow known _ ⟨-, rfl⟩
        exact cancel_conducts founded host _ _ _ (cancels cancelled)
      · intro _
        apply conducts_move founded
        refine ensures_result (reconcileStop_moves founded host fits (failedStop_stopping task)
          present pinned running) ?_
        rintro _ reached ⟨move, quiet⟩
        exact ⟨Or.inr ⟨.shift, trivial, move⟩, quiet⟩

theorem reconcileTask_conducts (taskId : String) (may : MayProject rules known) :
    Conducts rules known (reconcileTask host blockerId taskId)
      (fun _ reached => reached = known ∨ Quiet reached) := by
  refine conducts_bind (conducts_read (terminalSnapshot_reads taskId)) ?_
  rintro found known _ ⟨snapped, rfl⟩
  cases found with
  | none => exact conducts_pure () (Or.inl rfl)
  | some snapshot =>
    obtain ⟨execution, task, step, isSnapped, rfl⟩ := snapped snapshot rfl
    apply conducts_ite
    · intro _
      exact conducts_pure () (Or.inl rfl)
    intro ready
    have running : step.status = .running := by
      by_contra notRunning
      exact ready (Or.inr notRunning)
    have settled := founded.sound.settled execution isSnapped.present
    have pinned : Pinned (viewOf known) execution step :=
      ⟨isSnapped.stepIn, settled.runningPinned step isSnapped.stepIn running⟩
    have taken : step.currentTaskId = some task.taskId := by
      rw [isSnapped.isTask]
      exact isSnapped.taken
    obtain ⟨succeeds, cancels⟩ :=
      may execution step task isSnapped.present pinned running isSnapped.taskIn taken
    exact conducts_mono (projectTerminal_conducts founded host fits isSnapped.present pinned
      running succeeds cancels) fun _ _ quiet => Or.inr quiet

end

theorem findTask_reads (taskId : String) {failure : GoalFailure} :
    Ensures (· = known)
      (do
        let store ← inspect id
        expect (store.children.find taskId) failure)
      (fun _ reached => True ∧ reached = known) := by
  apply ensures_read
  exact ensures_mono (ensures_expect _ _) (fun _ isKnown => isKnown)
    fun _ _ holds => ⟨trivial, holds.1⟩

theorem advanceRows_conducts (founded : Founded known) (present : known.execution = some execution)
    (sent : Option String) :
    Conducts rules known (advanceRows (rowsOf known execution) sent) (fun _ _ => True) := by
  apply conducts_ite
  · intro _
    exact conducts_pure _ trivial
  intro _
  apply conducts_ite
  · intro _
    exact conducts_pure _ trivial
  intro _
  apply conducts_ite
  · intro _
    apply conducts_ite
    · intro _
      have admitting : Conducts rules known
          (commit (admitReady (rowsOf known execution) none sent)) (fun _ _ => True) := by
        apply conducts_move founded
        refine ensures_result (admitReady_moves present none sent) ?_
        intro _ reached move
        exact ⟨Or.inr ⟨.shift, trivial, move⟩, trivial⟩
      refine conducts_bind admitting ?_
      intro _ reached _ _
      exact conducts_pure _ trivial
    · intro _
      exact conducts_pure _ trivial
  · intro _
    apply conducts_ite
    · intro _
      exact conducts_pure _ trivial
    · intro _
      exact conducts_pure _ trivial

theorem advance_conducts (founded : Founded known) (host : Host) (caller : Owner)
    (fits : idFits blockerId = true) (sent : Option String) (may : MayProject rules known) :
    Conducts rules known (advance host caller blockerId sent) (fun _ _ => True) := by
  refine conducts_bind (conducts_read (ownedRows_reads caller)) ?_
  rintro rows known _ ⟨⟨execution, present, rfl⟩, rfl⟩
  apply conducts_ite
  · intro _
    exact conducts_pure _ trivial
  intro _
  cases (currentStep (rowsOf known execution)).bind StepExecutionRow.currentTaskId with
  | none => exact advanceRows_conducts founded present sent
  | some taskId =>
    refine conducts_bind (conducts_read (findTask_reads taskId)) ?_
    rintro task known _ ⟨-, rfl⟩
    apply conducts_ite
    · intro _
      exact conducts_pure _ trivial
    intro _
    refine conducts_bind (reconcileTask_conducts founded host fits taskId may) ?_
    intro _ reached led _
    refine conducts_bind (conducts_read executorRows_reads) ?_
    rintro rows reached _ ⟨⟨later, laterPresent, rfl, -⟩, rfl⟩
    exact advanceRows_conducts (led_founded led founded) laterPresent sent

theorem thenAdvance_conducts {deed : Deed} (founded : Founded known)
    (allowed : rules.allows known deed) {body : GoalTransaction Unit}
    (moves : Ensures (· = known) body (fun _ reached => Move deed known reached ∧ Quiet reached))
    (host : Host) (caller : Owner) {blockerId : String} (fits : idFits blockerId = true)
    (sent : Option String) :
    Conducts rules known
      (do
        commit body
        advance host caller blockerId sent) (fun _ _ => True) := by
  have moving : Conducts rules known (commit body) (fun _ reached => Quiet reached) := by
    apply conducts_move founded
    refine ensures_result moves ?_
    rintro _ reached ⟨move, quiet⟩
    exact ⟨Or.inr ⟨deed, allowed, move⟩, quiet⟩
  refine conducts_bind moving ?_
  intro _ reached led quiet
  exact advance_conducts (led_founded led founded) host caller fits sent (mayProject_of_quiet quiet)

theorem startReplay_reads (caller : Owner) :
    Ensures (· = known) (startReplay caller) (fun _ reached => True ∧ reached = known) := by
  apply ensures_read
  apply ensures_demand_then
  intro _
  split
  next => exact ensures_return _ ⟨trivial, rfl⟩
  next =>
    apply ensures_demand_then
    intro _
    exact ensures_return _ ⟨trivial, rfl⟩

section

variable (founded : Founded known)
include founded

theorem start_conducts (host : Host) (caller : Owner) (expectedGoalRevision : Nat)
    (fits : idFits blockerId = true) (sent : Option String) (may : MayProject rules known)
    (allowed : rules.plain) :
    Conducts rules known (start host caller expectedGoalRevision blockerId sent)
      (fun _ _ => True) := by
  refine conducts_bind (conducts_read (startReplay_reads caller)) ?_
  rintro replayed known _ ⟨-, rfl⟩
  apply conducts_ite
  · intro _
    exact advance_conducts founded host caller fits sent may
  · intro _
    exact @thenAdvance_conducts rules known .plain founded allowed _
      (createExecution_moves founded caller expectedGoalRevision) host caller _ fits sent

theorem resume_conducts (host : Host) (caller : Owner)
    (expectedExecutionRevision expectedFlowRevision : Nat) (fits : idFits blockerId = true)
    (sent : Option String) :
    Conducts rules known
      (resume host caller expectedExecutionRevision expectedFlowRevision blockerId sent)
      (fun _ _ => True) :=
  @thenAdvance_conducts rules known .shift founded trivial _
    (resumeWaiting_moves founded caller expectedExecutionRevision expectedFlowRevision)
    host caller _ fits sent

theorem adoptPlanRevision_conducts (host : Host) (caller : Owner) (input : AdoptionInput)
    (fits : idFits blockerId = true) (sent : Option String) (may : MayProject rules known)
    (allowed : rules.adopt known) :
    Conducts rules known (adoptPlanRevision host caller input blockerId sent)
      (fun _ _ => True) := by
  refine conducts_bind (conducts_read (ownedRows_reads caller)) ?_
  rintro rows known _ ⟨⟨execution, present, rfl⟩, rfl⟩
  apply conducts_ite
  · intro _
    exact advance_conducts founded host caller fits sent may
  intro _
  have adopting : Conducts rules known (commit (adoptRevision (rowsOf known execution) input))
      (fun _ reached => Quiet reached) := by
    apply conducts_move founded
    refine ensures_result (adoptRevision_moves founded present input) ?_
    rintro _ reached ⟨move, quiet⟩
    exact ⟨Or.inr ⟨.adopt, allowed, move⟩, quiet⟩
  refine conducts_bind adopting ?_
  intro next reached led quiet
  apply conducts_ite
  · intro _
    exact advance_conducts (led_founded led founded) host caller fits sent
      (mayProject_of_quiet quiet)
  · intro _
    exact conducts_pure _ trivial

theorem replay_reads {running : StepExecutionRow} (pinned : Pinned (viewOf known) execution running)
    (isRunning : running.status = .running) {input : ChildRequest}
    (sameKey : input.requestKey = requestKey known.goal.goalId execution.planRevision
      running.stepId running.attemptCount) (sent : Option String) :
    Ensures (· = known) (runTask binding input sent) (fun _ reached => reached = known) := by
  refine ensures_result (runTask_writes binding input sent) ?_
  rintro admitted reached (⟨-, rfl⟩ | ⟨-, missing, -⟩)
  · rfl
  exfalso
  obtain ⟨child, childIn, -, -, requested⟩ := founded.admitted running pinned.1 isRunning
  unfold GoalStore.childOfRequest at missing
  rw [List.find?_eq_none] at missing
  apply missing child childIn
  rw [requested, sameKey, pinned.2]
  simp

theorem runNextFromController_moves (input : ChildRequest) (sent : Option String) :
    Ensures (· = known) (runNextFromController input sent)
      (fun _ reached => reached = known ∨ Move .shift known reached) := by
  refine ensures_call executorRows_reads ?_
  rintro rows ⟨execution, present, rfl, -⟩
  apply ensures_ite
  · intro _
    exact ensures_result (admitReady_moves present (some input) sent) fun _ _ move => Or.inr move
  intro _
  apply ensures_expect_then
  intro running found
  have isRunning : running.status = .running := by
    have selected := List.find?_some found
    simp only [Bool.and_eq_true, decide_eq_true_eq] at selected
    exact selected.1
  apply ensures_expect_then
  intro plan _
  apply ensures_demand_then
  rintro ⟨sameKey, -, -⟩
  refine ensures_called (replay_reads founded (pinned_of_find found) isRunning sameKey sent) ?_
  rintro _ _ rfl
  exact ensures_return () (Or.inl rfl)

end

def CancelPending (store : GoalStore) : Prop :=
  ∃ flow, store.flow = some flow ∧ flow.status = .cancelled

/-- The flow was asked to stop, and maintenance carries it out. -/
def MayCut (store : GoalStore) (stuck : Bool) : Prop :=
  ∃ flow, store.flow = some flow ∧ flowTerminal flow.status = false ∧
    flow.cancelRequested = true ∧
    ((∀ child ∈ store.children.rows, taskTerminal child.status = true) ∨ stuck = true)

theorem recover_conducts (founded : Founded known) (host : Host) (fits : idFits blockerId = true)
    (sent : Option String) (may : MayProject rules known)
    (allowed : CancelPending known → rules.cancel known.execution) :
    Conducts rules known (recover host blockerId sent) (fun _ _ => True) := by
  refine conducts_bind (conducts_read rowsOfFlow_reads) ?_
  rintro rows known _ ⟨⟨execution, present, rfl⟩, rfl⟩
  apply conducts_ite
  · intro _
    exact conducts_pure _ trivial
  intro _
  have readFlow : Ensures (· = known)
      (do
        let store ← inspect id
        expect store.flow flowNotFound)
      (fun flow reached => known.flow = some flow ∧ reached = known) := by
    apply ensures_read
    exact ensures_mono (ensures_expect _ _) (fun _ isKnown => isKnown)
      fun _ _ holds => ⟨holds.2, holds.1⟩
  refine conducts_bind (conducts_read readFlow) ?_
  rintro flow known _ ⟨isFlow, rfl⟩
  apply conducts_ite
  · intro cancelled
    have flowOver : flowTerminal flow.status = true := by
      rw [cancelled]
      rfl
    refine ends_mono (@projectCancelled_ends rules known execution known.flow founded present
      (FlowClosed.before isFlow flowOver rfl) (allowed ⟨flow, isFlow, cancelled⟩)
      (Led rules known)) ?_ fun _ spilled => spilled
    rintro _ reached ⟨led, -⟩
    exact ⟨led, trivial⟩
  · intro _
    unfold recoverLive
    cases (currentStep (rowsOf known execution)).bind StepExecutionRow.currentTaskId with
    | none =>
      refine conducts_bind (advance_conducts founded host _ fits sent may) ?_
      intro _ reached _ _
      exact conducts_pure _ trivial
    | some taskId =>
      have recovering : Conducts rules known (recoverTask host blockerId taskId)
          (fun _ reached => reached = known ∨ Quiet reached) := by
        refine conducts_bind (conducts_read (findTask_reads taskId)) ?_
        rintro task known _ ⟨-, rfl⟩
        apply conducts_ite
        · intro _
          exact reconcileTask_conducts founded host fits taskId may
        · intro _
          exact conducts_pure () (Or.inl rfl)
      refine conducts_bind recovering ?_
      intro _ reached led settled
      have laterMay : MayProject rules reached := by
        rcases settled with rfl | quiet
        · exact may
        · exact mayProject_of_quiet quiet
      refine conducts_bind (advance_conducts (led_founded led founded) host _ fits sent
        laterMay) ?_
      intro _ final _ _
      exact conducts_pure _ trivial

theorem reconcileFlow_conducts (founded : Founded known) (host : Host) (stuck : Bool)
    (allowed : MayCut known stuck → rules.cut known.execution known.stepExecutions) :
    Conducts rules known (reconcileFlow host stuck) (fun _ _ => True) := by
  have readStore : Ensures (· = known) (inspect id : GoalTransaction GoalStore)
      (fun store reached => store = known ∧ reached = known) := by
    refine ensures_mono (ensures_inspect id) (fun _ isKnown => isKnown) ?_
    rintro store reached ⟨rfl, rfl⟩
    exact ⟨rfl, rfl⟩
  refine conducts_bind (conducts_read readStore) ?_
  rintro _ known _ ⟨rfl, rfl⟩
  have readFlow : Ensures (· = known)
      (expect known.flow flowNotFound : GoalTransaction FlowRow)
      (fun flow reached => known.flow = some flow ∧ reached = known) :=
    ensures_mono (ensures_expect _ _) (fun _ isKnown => isKnown) fun _ _ holds => ⟨holds.2, holds.1⟩
  refine conducts_bind (conducts_read readFlow) ?_
  rintro flow known _ ⟨isFlow, rfl⟩
  apply conducts_ite
  · rintro ⟨live, requested, due⟩
    exact cancelFlow_conducts founded flow.revision host.stopped
      (allowed ⟨flow, isFlow, live, requested, due⟩)
  · intro _
    exact conducts_pure _ trivial

def Rules.decides (rules : Rules) (store : GoalStore) : Decision → Prop
  | .block _ currentStep _ _ =>
    ∀ flow, store.flow = some flow → rules.block store (stepAfter flow currentStep)
  | .finish _ => rules.finish store
  | .fail _ _ => rules.fail store
  | .cancel _ => rules.cancel store.execution
  | .run _ | .wait _ _ | .resume _ | .requestCancel _ => True

def Permitted (rules : Rules) (store : GoalStore) : GoalOp → Prop
  | .serve _ _ | .revisePlan _ _ => rules.plain
  | .start _ _ => MayProject rules store ∧ rules.plain
  | .advance _ | .reconcileTask _ => MayProject rules store
  | .adoptPlanRevision _ _ => MayProject rules store ∧ rules.adopt store
  | .finish _ _ _ => rules.finish store
  | .failExecution _ _ _ _ => rules.fail store
  | .cancel _ _ _ => rules.cancel store.execution
  | .decide _ decision => rules.decides store decision
  | .recover => MayProject rules store ∧ (CancelPending store → rules.cancel store.execution)
  | .reconcileFlow stuck =>
    MayCut store stuck → rules.cut store.execution store.stepExecutions
  | .wait _ _ _ _ | .resume _ _ _ | .resolveBlocker _ _ | .retry _ _ | .childMoves _ => True

theorem permitted_free (op : GoalOp) : Permitted Rules.free known op := by
  cases op with
  | decide expected decision =>
    cases decision with
    | block _ currentStep _ _ => exact fun _ _ => trivial
    | _ => exact trivial
  | start caller revision => exact ⟨mayProject_free, trivial⟩
  | advance caller => exact mayProject_free
  | reconcileTask taskId => exact mayProject_free
  | adoptPlanRevision caller input => exact ⟨mayProject_free, trivial⟩
  | recover => exact ⟨mayProject_free, fun _ => trivial⟩
  | reconcileFlow stuck => exact fun _ => trivial
  | _ => exact trivial

theorem moves_conducts {deed : Deed} {body : GoalTransaction Unit} (founded : Founded known)
    (allowed : rules.allows known deed)
    (moves : Ensures (· = known) body (fun _ reached => Move deed known reached)) :
    Conducts rules known (commit body) (fun _ _ => True) := by
  apply conducts_move founded
  exact ensures_result moves fun _ reached move => ⟨Or.inr ⟨deed, allowed, move⟩, trivial⟩

theorem mayMove_conducts {deed : Deed} {body : GoalTransaction Unit} (founded : Founded known)
    (allowed : rules.allows known deed)
    (moves : Ensures (· = known) body
      (fun _ reached => reached = known ∨ Move deed known reached)) :
    Conducts rules known (commit body) (fun _ _ => True) := by
  apply conducts_move founded
  refine ensures_result moves ?_
  rintro _ reached (same | move)
  · exact ⟨Or.inl same, trivial⟩
  · exact ⟨Or.inr ⟨deed, allowed, move⟩, trivial⟩

theorem validateControllerDecision_reads (expected : Snapshot) :
    Ensures (· = known) (validateControllerDecision expected)
      (fun _ reached => (∃ execution flow, known.execution = some execution ∧
        known.flow = some flow ∧ agrees expected.executionRevision (some execution.revision) = true ∧
        agrees expected.flowRevision (some flow.revision) = true) ∧ reached = known) := by
  refine ensures_call executorRows_reads ?_
  rintro rows ⟨execution, present, rfl, -⟩
  refine ensures_call (controlled_reads _) ?_
  rintro flow ⟨isFlow, -⟩
  refine ensures_mono (ensures_demand _ _) (fun _ isKnown => isKnown) ?_
  rintro _ _ ⟨isKnown, sameExecution, -, sameFlow⟩
  exact ⟨⟨execution, flow, present, isFlow, sameExecution, sameFlow⟩, isKnown⟩

theorem takeDecision_conducts (founded : Founded known) (host : Host)
    (fits : idFits blockerId = true) (sent : Option String) (decision : Decision)
    (allowed : rules.decides known decision) :
    Conducts rules known (takeDecision host blockerId sent decision) (fun _ _ => True) := by
  cases decision with
  | run input =>
    exact @mayMove_conducts rules known .shift _ founded trivial
      (runNextFromController_moves founded input sent)
  | wait expectedRevision reason =>
    refine conducts_bind (conducts_read rowsOfFlow_reads) ?_
    rintro rows known _ ⟨-, rfl⟩
    exact @moves_conducts rules known .shift _ founded trivial
      (wait_moves founded _ _ expectedRevision reason)
  | block expectedRevision currentStep blockedTaskId blockedSummary =>
    apply conducts_move founded
    refine ensures_result (blockFlow_moves expectedRevision currentStep blockedTaskId
      blockedSummary) ?_
    rintro _ reached ⟨flow, isFlow, move⟩
    exact ⟨Or.inr ⟨.block _, allowed flow isFlow, move⟩, trivial⟩
  | resume expectedRevision =>
    refine conducts_bind (conducts_read rowsOfFlow_reads) ?_
    rintro rows known _ ⟨-, rfl⟩
    refine conducts_bind (resume_conducts founded host _ _ expectedRevision fits sent) ?_
    intro _ reached _ _
    exact conducts_pure () trivial
  | finish expectedRevision =>
    refine conducts_bind (conducts_read rowsOfFlow_reads) ?_
    rintro rows known _ ⟨-, rfl⟩
    exact @moves_conducts rules known .finish _ founded allowed (finish_moves _ _ expectedRevision)
  | fail expectedRevision blockedSummary =>
    refine conducts_bind (conducts_read rowsOfFlow_reads) ?_
    rintro rows known _ ⟨-, rfl⟩
    exact @moves_conducts rules known .fail _ founded allowed
      (failExecution_moves _ _ expectedRevision _)
  | requestCancel expectedRevision =>
    exact @mayMove_conducts rules known .ask _ founded trivial
      (requestFlowCancel_moves expectedRevision)
  | cancel expectedRevision =>
    refine conducts_bind (conducts_read rowsOfFlow_reads) ?_
    rintro rows known _ ⟨-, rfl⟩
    exact conducts_mono (cancel_conducts founded host _ _ expectedRevision allowed)
      fun _ _ _ => trivial

theorem decideThrough_conducts (founded : Founded known) (host : Host) (expected : Snapshot)
    (fits : idFits blockerId = true) (sent : Option String) (decision : Decision)
    (allowed : rules.decides known decision) :
    Conducts rules known (decideThrough host expected decision blockerId sent)
      (fun _ _ => True) := by
  refine conducts_bind (conducts_read (validateControllerDecision_reads expected)) ?_
  rintro _ known _ ⟨-, rfl⟩
  exact takeDecision_conducts founded host fits sent decision allowed

theorem led_of_conducts {body : GoalProcedure Value}
    (conducts : Conducts rules known body (fun _ _ => True)) :
    Led rules known (conclude body known) := by
  apply ends_conclude
  exact ends_mono conducts (fun _ _ holds => holds.1) fun _ led => led

theorem step_led (world : World) (founded : Founded known) (call : GoalCall)
    (permitted : Permitted rules known call.op) : Led rules known (step world known call) := by
  obtain ⟨op, blockerId, sent, fits⟩ := call
  cases op with
  | serve caller op =>
    exact led_of_conducts (@mayMove_conducts rules known .plain _ founded permitted
      (serve_moves world.texts caller op))
  | start caller revision =>
    exact led_of_conducts
      (start_conducts founded world.host caller revision fits sent permitted.1 permitted.2)
  | advance caller =>
    exact led_of_conducts (advance_conducts founded world.host caller fits sent permitted)
  | reconcileTask taskId =>
    exact led_of_conducts (conducts_mono
      (reconcileTask_conducts founded world.host fits taskId permitted) fun _ _ _ => trivial)
  | wait caller execution flow reason =>
    exact led_of_conducts (@moves_conducts rules known .shift _ founded trivial
      (wait_moves founded caller execution flow reason))
  | resume caller execution flow =>
    exact led_of_conducts (resume_conducts founded world.host caller execution flow fits sent)
  | resolveBlocker caller input =>
    exact led_of_conducts (@thenAdvance_conducts rules known .shift founded trivial _
      (resumeBlockedStep_moves founded caller input false) world.host caller _ fits sent)
  | retry caller input =>
    exact led_of_conducts (@thenAdvance_conducts rules known .shift founded trivial _
      (resumeBlockedStep_moves founded caller input true) world.host caller _ fits sent)
  | revisePlan caller input =>
    exact led_of_conducts (@mayMove_conducts rules known .plain _ founded permitted
      (revisePlan_moves caller input))
  | adoptPlanRevision caller input =>
    exact led_of_conducts (adoptPlanRevision_conducts founded world.host caller input fits sent
      permitted.1 permitted.2)
  | finish caller execution flow =>
    exact led_of_conducts (@moves_conducts rules known .finish _ founded permitted
      (finish_moves caller execution flow))
  | failExecution caller execution flow summary =>
    exact led_of_conducts (@moves_conducts rules known .fail _ founded permitted
      (failExecution_moves caller execution flow summary))
  | cancel caller execution flow =>
    exact led_of_conducts (conducts_mono
      (cancel_conducts founded world.host caller execution flow permitted) fun _ _ _ => trivial)
  | decide expected decision =>
    exact led_of_conducts
      (decideThrough_conducts founded world.host expected fits sent decision permitted)
  | recover =>
    exact led_of_conducts (recover_conducts founded world.host fits sent permitted.1 permitted.2)
  | reconcileFlow stuck =>
    exact led_of_conducts (reconcileFlow_conducts founded world.host stuck permitted)
  | childMoves move =>
    exact led_of_conducts (@mayMove_conducts rules known .child _ founded trivial
      (moveChild_moves move))

theorem create_writes (texts : GoalTexts) (input : NewGoal) :
    Ensures (· = known) (create texts input)
      (fun _ reached => ∃ objective planSteps revisions added,
        PlanGrown Table.empty planSteps ∧
        Revised PlanRevisions.empty revisions planSteps 1 added ∧
        reached =
          { bareGoal input objective with
            planSteps := planSteps
            planRevisions := revisions }) := by
  refine ensures_call (boundedText_reads input.objective _ 4000) ?_
  intro objective _
  refine ensures_call (normalizeTitles_reads texts 0 _ input.titles) ?_
  intro titles _
  apply ensures_write
  have named : ∀ step ∈ plannedSteps input.stepIds titles, idFits step.stepId = true := by
    intro step stepIn
    obtain ⟨index, isIndex, rfl⟩ := List.mem_mapIdx.mp stepIn
    exact input.stepIdsFit index
  refine ensures_called (insertPlan_writes _ named) ?_
  rintro _ _ ⟨planSteps, grown, present, rfl⟩
  refine ensures_result (snapshotPlan_writes 1 _ present) ?_
  rintro _ _ ⟨revisions, added, revised, rfl⟩
  exact ⟨objective, planSteps, revisions, added, grown, revised, rfl⟩

theorem founded_of_created {world : World} (created : Created world known) : Founded known := by
  obtain ⟨input, before, ran⟩ := created
  obtain ⟨objective, planSteps, revisions, added, -, revised, rfl⟩ :=
    create_writes world.texts input before () known rfl ran
  constructor
  · constructor
    · intro row rowIn
      change row ∈ revisions.steps.rows at rowIn
      rw [revised.appended] at rowIn
      exact Nat.le_of_eq (revised.newest row rowIn)
    · intro _
      rfl
    · intro first firstIn
      exact absurd firstIn (by simp [viewOf, bareGoal, Table.empty])
    · intro first firstIn
      exact absurd firstIn (by simp [viewOf, bareGoal, Table.empty])
    · intro execution present
      exact absurd present (by simp [viewOf, bareGoal])
  · intro row rowIn
    exact absurd rowIn (by simp [bareGoal, Table.empty])
  · intro row rowIn
    exact absurd rowIn (by simp [bareGoal, Table.empty])
  · intro row rowIn
    exact absurd rowIn (by simp [bareGoal, Table.empty])

theorem run_keeps {invariant : GoalStore → Prop} (world : World)
    (preserved : ∀ deed store reached, rules.allows store deed → Founded store →
      Move deed store reached → invariant store → invariant reached)
    (calls : List GoalCall) {first : GoalStore} (founded : Founded first)
    (initially : invariant first)
    (meets : EveryStep (step world) (fun store call => Permitted rules store call.op) first
      calls) : invariant (reach world first calls) := by
  have both := run_invariant_of_everyStep (step world)
    (fun store call => Permitted rules store call.op)
    (fun store => Founded store ∧ invariant store)
    (fun store call permitted holds => by
      have led := step_led world holds.1 call permitted
      exact ⟨led_founded led holds.1, led_keeps preserved led holds.2⟩)
    first calls ⟨founded, initially⟩ meets
  exact both.2

end OpenRill.Goals.Calls
