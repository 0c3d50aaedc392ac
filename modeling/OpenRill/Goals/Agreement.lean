import OpenRill.Goals.Invariants

/-!
# The execution, its flow and its blockers agree

A move that changes the execution takes the flow to the matching status and names the
same step on it. Only a cancellation of the flow runs ahead, and only a controller that
blocks a stopped flow may name another step there. An open blocker stops its step while
the execution goes on; one that is open when the execution ends stays so.
-/

namespace OpenRill.Goals.Agreement

open Lib Lib.Transaction Lib.Runs Ledger TaskFlows Executor Operations PlanMachine Moves Footing
open Calls Invariants

variable {store reached : GoalStore} {execution : ExecutionRow} {flowStatus : FlowStatus}
variable {flow : FlowRow}

def flowStatusOf : ExecutionStatus → FlowStatus
  | .queued => .queued
  | .running => .running
  | .waiting => .waiting
  | .blocked => .blocked
  | .succeeded => .succeeded
  | .failed => .failed
  | .cancelled => .cancelled

/-- The flow has the status of its execution, or was cancelled ahead of it. -/
def StatusesAgree (store : GoalStore) : Prop :=
  ∀ execution flow, store.execution = some execution → store.flow = some flow →
    flow.status = flowStatusOf execution.status ∨
      (flow.status = .cancelled ∧ executionTerminal execution.status = false)

def CancelledAgree (store : GoalStore) : Prop :=
  ∀ execution, store.execution = some execution → execution.status = .cancelled →
    ∃ flow, store.flow = some flow ∧ flow.status = .cancelled

theorem flowTerminal_of_execution (status : ExecutionStatus) :
    flowTerminal (flowStatusOf status) = executionTerminal status := by
  cases status <;> rfl

theorem flowStatusOf_shift {before after : StepStatus} {status : ExecutionStatus}
    (shift : Shift before after status flowStatus) : flowStatus = flowStatusOf status := by
  cases shift <;> rfl

theorem same_of_live (agree : StatusesAgree store) (present : store.execution = some execution)
    (isFlow : store.flow = some flow) (live : flowTerminal flow.status = false) :
    flow.status = flowStatusOf execution.status ∧ executionTerminal execution.status = false := by
  rcases agree execution flow present isFlow with same | ⟨cancelled, -⟩
  · refine ⟨same, ?_⟩
    rw [← flowTerminal_of_execution, ← same]
    exact live
  · rw [cancelled] at live
    contradiction

theorem statusesAgree_of_written {execution : ExecutionRow} {flow : FlowRow}
    (present : reached.execution = some execution) (isFlow : reached.flow = some flow)
    (same : flow.status = flowStatusOf execution.status) : StatusesAgree reached := by
  intro after other isAfter isOther
  rw [present, Option.some.injEq] at isAfter
  rw [isFlow, Option.some.injEq] at isOther
  rw [← isAfter, ← isOther]
  exact Or.inl same

theorem statusesAgree_of_kept (agree : StatusesAgree store)
    (execution : reached.execution = store.execution) (flow : reached.flow = store.flow) :
    StatusesAgree reached := by
  unfold StatusesAgree
  rw [execution, flow]
  exact agree

theorem statusesAgree_of_steady {currentStep : Option String} (agree : StatusesAgree store)
    (flowMoved : FlowMoved store.flow flowStatus currentStep flow)
    (steady : ∀ before, store.flow = some before → flowStatus = before.status) :
    StatusesAgree { store with flow := some flow } := by
  intro execution other present isOther
  cases isOther
  obtain ⟨before, isBefore, live, -⟩ := flowMoved.source
  rw [flowMoved.reached, steady before isBefore]
  exact Or.inl (same_of_live agree present isBefore live).1

theorem statusesAgree_of_move {deed : Deed} (move : Move deed store reached)
    (agree : StatusesAgree store) : StatusesAgree reached := by
  cases move with
  | touched _ _ => exact statusesAgree_of_kept agree rfl rfl
  | closed _ _ _ _ => exact statusesAgree_of_kept agree rfl rfl
  | childMoved _ => exact statusesAgree_of_kept agree rfl rfl
  | revised _ _ _ _ _ _ _ _ _ => exact statusesAgree_of_kept agree rfl rfl
  | started _ _ _ _ _ queued _ _ _ flowQueued _ _ =>
    apply statusesAgree_of_written rfl rfl
    rw [queued, flowQueued]
    rfl
  | shifted _ _ shift _ _ _ _ _ flowMoved _ _ _ _ =>
    apply statusesAgree_of_written rfl rfl
    rw [flowMoved.reached]
    exact flowStatusOf_shift shift
  | succeeded _ _ _ _ _ _ _ _ flowMoved _ _ _ =>
    apply statusesAgree_of_written rfl rfl
    rw [flowMoved.reached]
    rfl
  | @adopted _ _ _ _ _ _ _ next _ _ _ _ _ _ _ flowMoved _ _ _ _ _ =>
    apply statusesAgree_of_written rfl rfl
    rw [flowMoved.reached]
    cases next <;> rfl
  | finished _ _ flowMoved _ _ _ _ =>
    apply statusesAgree_of_written rfl rfl
    rw [flowMoved.reached]
    rfl
  | failed _ flowMoved _ _ _ =>
    apply statusesAgree_of_written rfl rfl
    rw [flowMoved.reached]
    rfl
  | asked flowMoved _ steady => exact statusesAgree_of_steady agree flowMoved steady
  | @held _ execution flow _ present blocked flowMoved _ =>
    apply @statusesAgree_of_written { store with flow := some flow } execution flow present rfl
    rw [flowMoved.reached, blocked]
    rfl
  | cut flowMoved _ =>
    intro execution other present isOther
    cases isOther
    obtain ⟨before, isBefore, live, -⟩ := flowMoved.source
    exact Or.inr ⟨flowMoved.reached, (same_of_live agree present isBefore live).2⟩
  | @cancelled _ _ _ execution _ _ present _ flowClosed _ _ _ =>
    intro after other isAfter isOther
    cases isAfter
    unfold cancelledExecution
    cases flowClosed with
    | @before flow isFlow ended same =>
      rw [same, isFlow, Option.some.injEq] at isOther
      subst isOther
      left
      split
      next isOver =>
        rcases agree execution flow present isFlow with matching | ⟨-, live⟩
        · exact matching
        · rw [isOver] at live
          contradiction
      next live =>
        rcases agree execution flow present isFlow with matching | ⟨isCancelled, -⟩
        · rw [matching, flowTerminal_of_execution] at ended
          exact absurd ended live
        · exact isCancelled
    | @now flow _ moved _ written =>
      rw [written, Option.some.injEq] at isOther
      subst isOther
      obtain ⟨before, isBefore, live, -⟩ := moved.source
      have goesOn := (same_of_live agree present isBefore live).2
      rw [goesOn, if_neg (by simp)]
      exact Or.inl moved.reached

theorem cancelledAgree_of_statuses (bound : Bound store) (agree : StatusesAgree store) :
    CancelledAgree store := by
  intro execution present cancelled
  obtain ⟨flow, isFlow, -⟩ := bound.bound execution present
  refine ⟨flow, isFlow, ?_⟩
  rcases agree execution flow present isFlow with same | ⟨isCancelled, -⟩
  · rw [same, cancelled]
    rfl
  · exact isCancelled

/-- While neither is over the flow stands at the step of its execution, unless the
execution has a status that is left out. -/
def StepsAgree (exempt : ExecutionStatus → Prop) (store : GoalStore) : Prop :=
  ∀ execution flow, store.execution = some execution → store.flow = some flow →
    executionTerminal execution.status = false → flowTerminal flow.status = false →
    ¬ exempt execution.status → execution.currentStepId = flow.currentStep

/-- A controller that blocks the flow names the step that it shows or the one that the
execution is at. -/
def namedRules : Rules :=
  { Rules.free with
    block := fun store currentStep =>
      (∀ flow, store.flow = some flow → currentStep = flow.currentStep) ∨
        ∃ execution, store.execution = some execution ∧
          currentStep = shownStep execution.currentStepId }

theorem shownStep_of_fits {stepId : String} (fits : idFits stepId = true) :
    shownStep (some stepId) = some stepId := by
  have trimmed := idFits_trimmed fits
  have named : stepId ≠ "" := by
    unfold idFits at fits
    simp only [Bool.and_eq_true, decide_eq_true_eq] at fits
    exact fits.1.2
  unfold shownStep
  rw [Option.bind_some, trimmed, if_neg named]

variable {exempt : ExecutionStatus → Prop}

theorem stepsAgree_of_written {execution : ExecutionRow} {flow : FlowRow}
    (present : reached.execution = some execution) (isFlow : reached.flow = some flow)
    (same : executionTerminal execution.status = false → flowTerminal flow.status = false →
      ¬ exempt execution.status → execution.currentStepId = flow.currentStep) :
    StepsAgree exempt reached := by
  intro after other isAfter isOther
  rw [present, Option.some.injEq] at isAfter
  rw [isFlow, Option.some.injEq] at isOther
  rw [← isAfter, ← isOther]
  exact same

theorem stepsAgree_of_kept (agree : StepsAgree exempt store)
    (execution : reached.execution = store.execution) (flow : reached.flow = store.flow) :
    StepsAgree exempt reached := by
  unfold StepsAgree
  rw [execution, flow]
  exact agree

theorem current_of_blocked (regular : Regular store) (present : store.execution = some execution)
    (blocked : execution.status = .blocked) :
    ∃ stepId, execution.currentStepId = some stepId ∧ idFits stepId = true := by
  have live : executionTerminal execution.status = false := by
    rw [blocked]
    rfl
  rcases (regular.founded.sound.settled execution present).standing live with
    ⟨row, focus⟩ | unfocused
  · exact ⟨row.stepId, focus.current, named_step regular.aligned focus.pinned.1⟩
  · have running := unfocused.running
    rw [blocked] at running
    contradiction

theorem stepsAgree_of_move {deed : Deed} (regular : Regular store)
    (move : Move deed store reached)
    (named : exempt .blocked ∨ namedRules.allows store deed)
    (agree : StepsAgree exempt store) : StepsAgree exempt reached := by
  cases move with
  | touched _ _ => exact stepsAgree_of_kept agree rfl rfl
  | closed _ _ _ _ => exact stepsAgree_of_kept agree rfl rfl
  | childMoved _ => exact stepsAgree_of_kept agree rfl rfl
  | revised _ _ _ _ _ _ _ _ _ => exact stepsAgree_of_kept agree rfl rfl
  | @started _ _ _ _ first rest _ _ plan _ _ _ current _ _ _ standsAt _ =>
    apply stepsAgree_of_written rfl rfl
    intro _ _ _
    have firstIn : first ∈ planOf store.planRevisions store.goal.planRevision := by
      rw [plan]
      exact List.mem_cons_self
    have fits := named_definition regular.aligned ((mem_planOf _ _ first).mp firstIn).1
    rw [current, standsAt, shownStep_of_fits fits]
  | @shifted _ _ _ execution step _ _ _ _ _ _ _ pinned _ _ _ _ _ _ flowMoved _ _ _ _ =>
    apply stepsAgree_of_written rfl rfl
    intro _ _ _
    have fits := named_step regular.aligned pinned.1
    rw [flowMoved.standsAt, shownStep_of_fits fits]
  | @succeeded _ _ _ _ _ next _ _ _ _ _ _ _ successor _ flowMoved _ _ _ =>
    apply stepsAgree_of_written rfl rfl
    intro _ _ _
    rw [flowMoved.standsAt]
    cases next with
    | none => rfl
    | some row =>
      have fits := named_step regular.aligned (successor row rfl).1.1
      rw [Option.map_some, shownStep_of_fits fits]
  | @adopted _ _ _ execution _ _ projected next _ _ _ _ isProjected _ chosen flowMoved _ _ _ _ _ =>
    apply stepsAgree_of_written rfl rfl
    intro _ _ _
    rw [flowMoved.standsAt]
    cases found : projected.find? (fun step => step.status = .ready) with
    | none =>
      rw [chosen, found]
      rfl
    | some row =>
      have rowIn := List.mem_of_find?_eq_some found
      rw [isProjected] at rowIn
      obtain ⟨definition, definitionIn, drawn⟩ :=
        drawnFrom_launched (drawnFrom_projected _) (launchedBy_of_mem rowIn)
      have fits := named_definition regular.aligned ((mem_planOf _ _ definition).mp definitionIn).1
      rw [show definition.stepId = row.stepId from congrArg Prod.snd drawn.1] at fits
      rw [chosen, found, Option.map_some, shownStep_of_fits fits]
  | finished _ _ _ _ _ _ _ =>
    apply stepsAgree_of_written rfl rfl
    intro live
    contradiction
  | failed _ _ _ _ _ =>
    apply stepsAgree_of_written rfl rfl
    intro live
    contradiction
  | @asked _ flow flowStatus _ flowMoved shown steady =>
    intro execution other present isOther live active unexempt
    cases isOther
    obtain ⟨before, isBefore, wasLive, -⟩ := flowMoved.source
    rw [(shown before isBefore).2]
    exact agree execution before present isBefore live wasLive unexempt
  | @held _ execution flow currentStep present blocked flowMoved _ =>
    apply @stepsAgree_of_written { store with flow := some flow } exempt execution flow present
      rfl
    intro live _ unexempt
    rw [blocked] at unexempt
    rcases named with left | ⟨sameStep | ⟨other, isOther, isCurrent⟩⟩
    · exact absurd left unexempt
    · obtain ⟨before, isBefore, wasLive, -⟩ := flowMoved.source
      rw [flowMoved.standsAt, sameStep before isBefore]
      apply agree execution before present isBefore live wasLive
      rw [blocked]
      exact unexempt
    · rw [present, Option.some.injEq] at isOther
      subst isOther
      obtain ⟨stepId, isStep, fits⟩ := current_of_blocked regular present blocked
      rw [flowMoved.standsAt, isCurrent, isStep, shownStep_of_fits fits]
  | cut flowMoved _ =>
    intro execution other _ isOther _ active
    cases isOther
    rw [flowMoved.reached] at active
    contradiction
  | @cancelled _ _ _ execution _ _ _ _ _ _ _ _ =>
    intro after other isAfter _ live
    cases isAfter
    rw [(cancelledExecution_ended execution).1] at live
    contradiction

/-- Exactly one blocker of the current step is open at the pinned revision. -/
def HeldBack (store : GoalStore) (execution : ExecutionRow) : Prop :=
  ∃ blocker, OpenAt store.blockers execution.planRevision blocker ∧
    execution.currentStepId = some blocker.stepId ∧
    ∀ row, OpenAt store.blockers execution.planRevision row →
      row.stepId = blocker.stepId → row = blocker

/-- The execution is blocked just when its current step is held back, unless it has a
status that is left out. -/
def BlockersAgree (exempt : ExecutionStatus → Prop) (store : GoalStore) : Prop :=
  ∀ execution, store.execution = some execution → ¬ exempt execution.status →
    (execution.status = .blocked ↔ HeldBack store execution)

def Terminal (status : ExecutionStatus) : Prop := executionTerminal status = true

theorem blockersAgree_of_guarded (guarded : Guarded store) : BlockersAgree Terminal store := by
  intro execution present unexempt
  have live : executionTerminal execution.status = false := by
    simpa [Terminal] using unexempt
  constructor
  · intro blocked
    obtain ⟨blocker, isOpen, current, unique⟩ := guarded.blocked execution present blocked
    exact ⟨blocker, isOpen, current, fun row openRow _ => unique row openRow⟩
  · rintro ⟨blocker, isOpen, -, -⟩
    by_contra unblocked
    exact guarded.clear execution present live unblocked blocker isOpen

def Nothing (_ : ExecutionStatus) : Prop := False

def Stopped (status : ExecutionStatus) : Prop := status = .blocked

/-- A block of a controller names no step, or the one the execution is at. -/
def NamesCurrent (store : GoalStore) (call : GoalCall) : Prop :=
  match call.op with
  | .decide _ (.block _ (some currentStep) _ _) =>
    ∃ execution, store.execution = some execution ∧ currentStep = execution.currentStepId
  | _ => True

theorem permitted_of_namesCurrent {call : GoalCall} (names : NamesCurrent store call) :
    Permitted namedRules store call.op := by
  unfold NamesCurrent at names
  have projects : MayProject namedRules store :=
    fun _ _ _ _ _ _ _ _ => ⟨fun _ _ => trivial, fun _ => trivial⟩
  cases op : call.op with
  | decide expected decision =>
    cases decision with
    | block revision currentStep taskId summary =>
      intro flow isFlow
      cases currentStep with
      | none =>
        left
        intro other isOther
        rw [isFlow, Option.some.injEq] at isOther
        rw [← isOther]
        rfl
      | some step =>
        right
        rw [op] at names
        obtain ⟨execution, present, isCurrent⟩ := names
        refine ⟨execution, present, ?_⟩
        rw [isCurrent]
        rfl
    | _ => exact trivial
  | start _ _ => exact ⟨projects, trivial⟩
  | advance _ => exact projects
  | reconcileTask _ => exact projects
  | adoptPlanRevision _ _ => exact ⟨projects, trivial⟩
  | recover => exact ⟨projects, fun _ => trivial⟩
  | reconcileFlow _ => exact fun _ => trivial
  | _ => exact trivial

theorem statusesAgree_of_run (world : World) (calls : List GoalCall)
    (created : Created world store) : StatusesAgree (reach world store calls) := by
  have free : EveryStep (step world) (fun store call => Permitted Rules.free store call.op)
      store calls :=
    everyStep_of_forall _ (fun _ call => permitted_free call.op) store calls
  apply run_preserves world (fun _ _ _ _ _ move holds => statusesAgree_of_move move holds)
    calls created _ free
  intro execution flow present
  rw [unstarted_of_created created] at present
  contradiction

theorem execution_flow_agree (world : World) (first : GoalStore) (calls : List GoalCall)
    (created : Created world first) :
    StatusesAgree (reach world first calls) ∧ StepsAgree Stopped (reach world first calls) ∧
      (EveryStep (step world) NamesCurrent first calls →
        StepsAgree Nothing (reach world first calls)) ∧
      BlockersAgree Terminal (reach world first calls) ∧
      CancelledAgree (reach world first calls) := by
  have unstarted := unstarted_of_created created
  have regular := regular_of_run world calls created
  have free : EveryStep (step world) (fun store call => Permitted Rules.free store call.op)
      first calls :=
    everyStep_of_forall _ (fun _ call => permitted_free call.op) first calls
  have statuses := statusesAgree_of_run world calls created
  have initially : ∀ exempt, StepsAgree exempt first := by
    intro exempt execution flow present
    rw [unstarted] at present
    contradiction
  refine ⟨statuses, ?_, ?_, blockersAgree_of_guarded regular.guarded,
    cancelledAgree_of_statuses regular.bound statuses⟩
  · exact run_preserves world (fun _ _ _ _ holds move agree =>
      @stepsAgree_of_move _ _ Stopped _ holds move (Or.inl rfl) agree) calls created
      (initially Stopped) free
  intro names
  have permitted : EveryStep (step world)
      (fun store call => Permitted namedRules store call.op) first calls :=
    everyStep_mono (fun _ _ => permitted_of_namesCurrent) names
  exact run_preserves world (fun _ _ _ allowed holds move agree =>
    stepsAgree_of_move holds move (Or.inr allowed) agree) calls created (initially _) permitted

theorem sample_agree :
    StepsAgree Nothing (reach sampleWorld (sampleCreated ["Draft"]) sampleStopped) ∧
      BlockersAgree Terminal (reach sampleWorld (sampleCreated ["Draft"]) sampleStopped) := by
  obtain ⟨-, -, steps, blockers, -⟩ :=
    execution_flow_agree sampleWorld (sampleCreated ["Draft"]) sampleStopped sample_created
  exact ⟨steps ⟨trivial, trivial, trivial, trivial⟩, blockers⟩

def anySnapshot : Snapshot where
  executionRevision := none
  stepRevision := none
  flowRevision := none

def sampleStoppedFailed : List GoalCall :=
  sampleStopped ++ [sampleCall (.failExecution sampleOwner 3 3 "stop") none]

def sampleMisnamed : List GoalCall :=
  sampleStopped ++
    [sampleCall (.decide anySnapshot (.block 3 (some (some "elsewhere")) "t1" "held")) none]

theorem sample_disagree :
    Created sampleWorld (sampleCreated ["Draft"]) ∧
      ¬ BlockersAgree Nothing (reach sampleWorld (sampleCreated ["Draft"]) sampleStoppedFailed) ∧
      ¬ StepsAgree Nothing (reach sampleWorld (sampleCreated ["Draft"]) sampleMisnamed) := by
  refine ⟨sample_created, ?_, ?_⟩
  · rw [show reach sampleWorld (sampleCreated ["Draft"]) sampleStoppedFailed =
      reach sampleWorld sampleRunning sampleStoppedFailed.tail from sample_continued _]
    intro agree
    have failed : (reach sampleWorld sampleRunning sampleStoppedFailed.tail).execution.map
        (fun execution => (execution.status, execution.planRevision, execution.currentStepId)) =
          some (.failed, 1, some "s1") := by
      decide +kernel
    have opened : ∃ blocker ∈ (reach sampleWorld sampleRunning
        sampleStoppedFailed.tail).blockers.rows, (blocker.planRevision = 1 ∧
          blocker.status = .opened ∧ blocker.stepId = "s1") ∧
          ∀ row ∈ (reach sampleWorld sampleRunning sampleStoppedFailed.tail).blockers.rows,
            row = blocker := by
      decide +kernel
    obtain ⟨execution, present, isExecution⟩ := Option.map_eq_some_iff.mp failed
    rw [Prod.mk.injEq, Prod.mk.injEq] at isExecution
    obtain ⟨isFailed, revision, current⟩ := isExecution
    obtain ⟨blocker, blockerIn, ⟨atRevision, isOpen, ofStep⟩, only⟩ := opened
    have held : HeldBack (reach sampleWorld sampleRunning sampleStoppedFailed.tail) execution := by
      refine ⟨blocker, ⟨blockerIn, ?_, isOpen⟩, ?_, fun row openRow _ => only row openRow.mem⟩
      · rw [revision, atRevision]
      · rw [current, ofStep]
    have blocked := (agree execution present fun nothing => nothing).mpr held
    rw [isFailed] at blocked
    contradiction
  · rw [show reach sampleWorld (sampleCreated ["Draft"]) sampleMisnamed =
      reach sampleWorld sampleRunning sampleMisnamed.tail from sample_continued _]
    intro agree
    have rows : (reach sampleWorld sampleRunning sampleMisnamed.tail).execution.map
          (fun execution => (execution.status, execution.currentStepId)) =
            some (.blocked, some "s1") ∧
        (reach sampleWorld sampleRunning sampleMisnamed.tail).flow.map
          (fun flow => (flow.status, flow.currentStep)) = some (.blocked, some "elsewhere") := by
      decide +kernel
    obtain ⟨execution, present, isExecution⟩ := Option.map_eq_some_iff.mp rows.1
    obtain ⟨flow, isFlow, shows⟩ := Option.map_eq_some_iff.mp rows.2
    rw [Prod.mk.injEq] at isExecution shows
    have same := agree execution flow present isFlow (by rw [isExecution.1]; rfl)
      (by rw [shows.1]; rfl) fun nothing => nothing
    rw [isExecution.2, shows.2] at same
    contradiction

end OpenRill.Goals.Agreement
