import OpenRill.Goals.Invariants

/-!
# One decision for each wake snapshot

A wake is bound to the revisions of the execution, of its current step and of its
flow. Every write of the execution or of a step goes with a transition of the flow, so
a decision that writes anything moves the flow past the revision of the snapshot, and
whatever is decided on that snapshot afterwards is stale.
-/

namespace OpenRill.Goals.WakeDecisions

open Lib Lib.Transaction Lib.Runs Ledger TaskFlows Executor Operations PlanMachine Moves
open Refinement Cancellation Calls Invariants

variable {store reached : GoalStore} {rules : Rules}
variable {expected : Snapshot} {flow : FlowRow} {execution : ExecutionRow}

/-- The step the execution is at, as `dispatch` looks it up. -/
def currentStepRow (store : GoalStore) : Option StepExecutionRow :=
  match store.execution with
  | none => none
  | some execution =>
    match execution.currentStepId with
    | none => none
    | some stepId => store.getStepExecution stepId execution.planRevision

/-- The snapshot that `dispatch` binds a wake to; there is none for a flow that is
over or asked to stop. -/
def controllerSnapshot (store : GoalStore) : Option Snapshot :=
  match store.flow with
  | none => none
  | some flow =>
    if flowTerminal flow.status = true ∨ flow.cancelRequested = true then none
    else
      some
        { executionRevision := store.execution.map ExecutionRow.revision
          stepRevision := (currentStepRow store).map StepExecutionRow.revision
          flowRevision := some flow.revision }

def decidedRows (store : GoalStore) :
    Option ExecutionRow × Table StepExecutionRow.key × Option FlowRow × GoalRow :=
  (store.execution, store.stepExecutions, store.flow, store.goal)

/-- A revision of the snapshot is no longer the one of the rows. -/
def Stale (expected : Snapshot) (store : GoalStore) : Prop :=
  agrees expected.executionRevision (store.execution.map ExecutionRow.revision) = false ∨
    agrees expected.stepRevision ((currentStepRow store).map StepExecutionRow.revision) = false ∨
    agrees expected.flowRevision (store.flow.map FlowRow.revision) = false

def staleDecision : GoalFailure :=
  .service .executionStaleDecision
    "controller decision was produced from an older Goal execution snapshot"

theorem currentStep_rowsOf (present : store.execution = some execution) :
    currentStep (rowsOf store execution) = currentStepRow store := by
  have sameStep : (rowsOf store execution).execution.currentStepId = execution.currentStepId :=
    rfl
  unfold currentStep currentStepRow
  rw [present, sameStep]
  cases standing : execution.currentStepId with
  | none => simp [standing]
  | some stepId =>
    simp only [standing]
    exact find_pinned execution stepId

theorem stale_throws (regular : Regular store) (present : store.execution = some execution)
    (stale : Stale expected store) :
    Throws store (validateControllerDecision expected) staleDecision := by
  obtain ⟨flow, isFlow, bound⟩ := regular.bound.bound execution present
  refine throws_called
    (executorRows_completes present (regular.founded.sound.settled execution present)) ?_
  rintro rows store ⟨rfl, rfl⟩
  refine throws_called (controlled_completes isFlow bound) ?_
  rintro flow store ⟨rfl, rfl⟩
  apply throws_demand
  rintro ⟨sameExecution, sameStep, sameFlow⟩
  rw [currentStep_rowsOf present] at sameStep
  rcases stale with otherExecution | otherStep | otherFlow
  · rw [present, Option.map_some] at otherExecution
    have both : true = false := sameExecution.symm.trans otherExecution
    contradiction
  · rw [sameStep] at otherStep
    contradiction
  · rw [isFlow, Option.map_some, sameFlow] at otherFlow
    contradiction

variable {deed : Deed}

/-- What a move does to the flow: a transition raises its revision, the start of an
execution makes it, and without either no row that a decision writes changes, unless
the flow is over. -/
inductive FlowStep (deed : Deed) (store reached : GoalStore) : Prop where
  | risen {before after : FlowRow}
      (source : store.flow = some before)
      (target : reached.flow = some after)
      (revision : before.revision < after.revision)
  | begun
      (plain : deed = .plain)
      (unstarted : store.execution = none)
  | still
      (same : reached.flow = store.flow)
      (rows : deed = .plain ∨ decidedRows reached = decidedRows store ∨
        ∃ flow, store.flow = some flow ∧ flowTerminal flow.status = true)

theorem flowStep_of_moved {flowStatus : FlowStatus} {currentStep : Option String}
    (flowMoved : FlowMoved store.flow flowStatus currentStep flow)
    (written : reached.flow = some flow) : FlowStep deed store reached := by
  obtain ⟨source, isSource, -, -, -, revision⟩ := flowMoved.source
  apply FlowStep.risen isSource written
  omega

theorem flowStep_of_move (move : Move deed store reached) : FlowStep deed store reached := by
  cases move with
  | touched _ _ => exact FlowStep.still rfl (Or.inl rfl)
  | closed _ _ _ _ => exact FlowStep.still rfl (Or.inl rfl)
  | revised _ _ _ _ _ _ _ _ _ => exact FlowStep.still rfl (Or.inl rfl)
  | started unstarted _ _ _ _ _ _ _ _ _ _ _ => exact FlowStep.begun rfl unstarted
  | childMoved _ => exact FlowStep.still rfl (Or.inr (Or.inl rfl))
  | shifted _ _ _ _ _ _ _ _ flowMoved _ _ _ _ => exact flowStep_of_moved flowMoved rfl
  | succeeded _ _ _ _ _ _ _ _ flowMoved _ _ _ => exact flowStep_of_moved flowMoved rfl
  | adopted _ _ _ _ _ _ _ flowMoved _ _ _ _ _ => exact flowStep_of_moved flowMoved rfl
  | finished _ _ flowMoved _ _ _ _ => exact flowStep_of_moved flowMoved rfl
  | failed _ flowMoved _ _ _ => exact flowStep_of_moved flowMoved rfl
  | asked flowMoved _ _ => exact flowStep_of_moved flowMoved rfl
  | held _ _ flowMoved _ => exact flowStep_of_moved flowMoved rfl
  | cut flowMoved _ => exact flowStep_of_moved flowMoved rfl
  | cancelled _ _ flowClosed _ _ _ =>
    cases flowClosed with
    | before isFlow ended same => exact FlowStep.still same (Or.inr (Or.inr ⟨_, isFlow, ended⟩))
    | now moved _ written => exact flowStep_of_moved moved written

def FlowLater (before after : Option FlowRow) : Prop :=
  ∀ flow, before = some flow →
    after = some flow ∨ ∃ later, after = some later ∧ flow.revision < later.revision

theorem flowLater_refl (flow : Option FlowRow) : FlowLater flow flow :=
  fun _ isFlow => Or.inl isFlow

theorem flowLater_trans {first second third : Option FlowRow} (before : FlowLater first second)
    (after : FlowLater second third) : FlowLater first third := by
  intro flow isFlow
  rcases before flow isFlow with same | ⟨later, isLater, higher⟩
  · exact after flow same
  · right
    rcases after later isLater with same | ⟨last, isLast, further⟩
    · exact ⟨later, same, higher⟩
    · exact ⟨last, isLast, by omega⟩

theorem flowLater_of_move (move : Move deed store reached) (bound : Bound store) :
    FlowLater store.flow reached.flow := by
  cases flowStep_of_move move with
  | @risen before after source target revision =>
    intro flow isFlow
    rw [source, Option.some.injEq] at isFlow
    subst isFlow
    exact Or.inr ⟨after, target, revision⟩
  | begun _ unstarted =>
    intro flow isFlow
    rw [bound.unbound unstarted] at isFlow
    contradiction
  | still same _ =>
    rw [same]
    exact flowLater_refl store.flow

theorem flowLater_of_led (led : Led rules store reached) (bound : Bound store) :
    FlowLater store.flow reached.flow := by
  have both := @led_keeps rules store reached
    (fun state => Bound state ∧ FlowLater store.flow state.flow)
    (fun _ _ _ _ _ move holds => ⟨bound_of_move move holds.1,
      flowLater_trans holds.2 (flowLater_of_move move holds.1)⟩)
    led ⟨bound, flowLater_refl store.flow⟩
  exact both.2

def decisionRules : Rules :=
  { Rules.free with plain := False }

theorem decided_or_later (led : Led decisionRules store reached) (isFlow : store.flow = some flow)
    (live : flowTerminal flow.status = false) :
    decidedRows reached = decidedRows store ∨
      ∃ later, reached.flow = some later ∧ flow.revision < later.revision := by
  refine @led_keeps decisionRules store reached (fun state =>
    decidedRows state = decidedRows store ∨
      ∃ later, state.flow = some later ∧ flow.revision < later.revision) ?_ led (Or.inl rfl)
  intro deed state next allowed _ move holds
  have notPlain : deed ≠ .plain := by
    intro plain
    rw [plain] at allowed
    exact allowed
  cases flowStep_of_move move with
  | @risen before after source target revision =>
    right
    refine ⟨after, target, ?_⟩
    rcases holds with same | ⟨later, isLater, higher⟩
    · have sameFlow : state.flow = store.flow := congrArg (fun rows => rows.2.2.1) same
      rw [sameFlow, isFlow, Option.some.injEq] at source
      rw [source]
      exact revision
    · rw [isLater, Option.some.injEq] at source
      rw [← source] at revision
      omega
  | begun plain _ => exact absurd plain notPlain
  | still same rows =>
    rcases holds with sameRows | ⟨later, isLater, higher⟩
    · rcases rows with plain | kept | ⟨old, isOver, ended⟩
      · exact absurd plain notPlain
      · exact Or.inl (kept.trans sameRows)
      · exfalso
        have sameFlow : state.flow = store.flow := congrArg (fun rows => rows.2.2.1) sameRows
        rw [sameFlow, isFlow, Option.some.injEq] at isOver
        rw [isOver, ended] at live
        contradiction
    · right
      exact ⟨later, same.trans isLater, higher⟩

theorem decides_led (world : World) (regular : Regular store) (call : GoalCall)
    {decision : Decision} (isDecision : call.op = .decide expected decision) :
    Led decisionRules store (step world store call) := by
  apply step_led world regular.founded call
  rw [isDecision]
  cases decision <;> simp [Permitted, Rules.decides, decisionRules, Rules.free]

theorem snapshot_flow (snapshot : controllerSnapshot store = some expected) :
    ∃ flow, store.flow = some flow ∧ flowTerminal flow.status = false ∧
      expected.flowRevision = some flow.revision := by
  unfold controllerSnapshot at snapshot
  split at snapshot
  next => contradiction
  next flow isFlow =>
    split at snapshot
    next => contradiction
    next live =>
      cases snapshot
      refine ⟨flow, isFlow, ?_, rfl⟩
      simpa using fun ended => live (Or.inl ended)

theorem stale_of_later {later : FlowRow} (isExpected : expected.flowRevision = some flow.revision)
    (isLater : store.flow = some later) (higher : flow.revision < later.revision) :
    Stale expected store := by
  right
  right
  rw [isExpected, isLater]
  have different : flow.revision ≠ later.revision := by omega
  simp [agrees, different]

theorem regular_of_reach (world : World) (calls : List GoalCall) (regular : Regular store) :
    Regular (reach world store calls) := by
  apply run_invariant (step world) Regular
  · intro state call holds
    exact regular_of_led (step_led world holds.founded call (permitted_free call.op)) holds
  · exact regular

theorem flowLater_of_reach (world : World) (calls : List GoalCall) (regular : Regular store) :
    FlowLater store.flow (reach world store calls).flow := by
  apply run_relates (step world) Regular fun first last => FlowLater first.flow last.flow
  · intro state
    exact flowLater_refl state.flow
  · intro first second third before after
    exact flowLater_trans before after
  · intro state call holds
    exact regular_of_led (step_led world holds.founded call (permitted_free call.op)) holds
  · intro state call holds
    exact flowLater_of_led (step_led world holds.founded call (permitted_free call.op)) holds.bound
  · exact regular

theorem stale_refused (world : World) (regular : Regular store)
    (present : store.execution = some execution) (stale : Stale expected store)
    (decision : Decision) (blockerId : String) (sent : Option String) :
    (decideThrough world.host expected decision blockerId sent).run.run store =
      (.error staleDecision, store) :=
  run_of_throws (stale_throws regular present stale)

theorem execution_of_flow (bound : Bound store) (isFlow : store.flow = some flow) :
    ∃ execution, store.execution = some execution := by
  cases present : store.execution with
  | some execution => exact ⟨execution, rfl⟩
  | none =>
    rw [bound.unbound present] at isFlow
    contradiction

theorem one_decision_per_snapshot (world : World) (first : GoalStore) (before : List GoalCall)
    (expected : Snapshot) (created : Created world first)
    (snapshot : controllerSnapshot (reach world first before) = some expected)
    (earlier : List GoalCall) :
    (Stale expected (reach world (reach world first before) earlier) →
      ∀ decision blockerId sent,
        (decideThrough world.host expected decision blockerId sent).run.run
            (reach world (reach world first before) earlier) =
          (.error staleDecision, reach world (reach world first before) earlier)) ∧
    (∀ (call : GoalCall) (decision : Decision) (later : List GoalCall),
      call.op = .decide expected decision →
      decidedRows (step world (reach world (reach world first before) earlier) call) ≠
        decidedRows (reach world (reach world first before) earlier) →
      ∀ another blockerId sent,
        (decideThrough world.host expected another blockerId sent).run.run
            (reach world (step world (reach world (reach world first before) earlier) call) later) =
          (.error staleDecision,
            reach world (step world (reach world (reach world first before) earlier) call)
              later)) := by
  have regularBound := regular_of_run world before created
  obtain ⟨flow, isFlow, live, isExpected⟩ := snapshot_flow snapshot
  generalize reach world first before = wake at *
  have regular := regular_of_reach world earlier regularBound
  have arrived := flowLater_of_reach world earlier regularBound
  generalize reach world wake earlier = made at *
  constructor
  · intro stale decision blockerId sent
    rcases arrived flow isFlow with same | ⟨moved, isMoved, -⟩
    · obtain ⟨execution, present⟩ := execution_of_flow regular.bound same
      exact stale_refused world regular present stale decision blockerId sent
    · obtain ⟨execution, present⟩ := execution_of_flow regular.bound isMoved
      exact stale_refused world regular present stale decision blockerId sent
  · intro call decision later isDecision changed another blockerId sent
    have led := decides_led world regular call isDecision
    have regularDecided := regular_of_led led regular
    have past : ∃ decided, (step world made call).flow = some decided ∧
        flow.revision < decided.revision := by
      rcases arrived flow isFlow with same | ⟨moved, isMoved, higher⟩
      · exact (decided_or_later led same live).resolve_left changed
      · rcases flowLater_of_led led regular.bound moved isMoved with kept | ⟨last, isLast, further⟩
        · exact ⟨moved, kept, higher⟩
        · exact ⟨last, isLast, by omega⟩
    obtain ⟨decided, isDecided, higher⟩ := past
    have regularLater := regular_of_reach world later regularDecided
    have final : ∃ last, (reach world (step world made call) later).flow = some last ∧
        flow.revision < last.revision := by
      rcases flowLater_of_reach world later regularDecided decided isDecided with
        kept | ⟨last, isLast, further⟩
      · exact ⟨decided, kept, higher⟩
      · exact ⟨last, isLast, by omega⟩
    obtain ⟨last, isLast, past⟩ := final
    obtain ⟨execution, present⟩ := execution_of_flow regularLater.bound isLast
    exact stale_refused world regularLater present (stale_of_later isExpected isLast past)
      another blockerId sent

def sampleSnapshot : Snapshot where
  executionRevision := some 2
  stepRevision := some 2
  flowRevision := some 2

def sampleFailure : GoalCall := sampleCall (.decide sampleSnapshot (.fail 2 none)) none

/-- Once a wake failed the goal, what else it decides on its snapshot is refused. -/
theorem sample_decision_refused :
    controllerSnapshot sampleRunning = some sampleSnapshot ∧
      ∀ another, (decideThrough sampleWorld.host sampleSnapshot another "b1" none).run.run
          (step sampleWorld sampleRunning sampleFailure) =
        (.error staleDecision, step sampleWorld sampleRunning sampleFailure) := by
  have snapshot : controllerSnapshot sampleRunning = some sampleSnapshot := by decide +kernel
  refine ⟨snapshot, ?_⟩
  intro another
  have facts := one_decision_per_snapshot sampleWorld (sampleCreated ["Draft"])
    [sampleCall (.start sampleOwner 1) (some "t1")] sampleSnapshot sample_created
    (by rw [sample_started]; exact snapshot) []
  rw [sample_started] at facts
  exact facts.2 sampleFailure (.fail 2 none) [] rfl (by decide +kernel) another "b1" none

end OpenRill.Goals.WakeDecisions
