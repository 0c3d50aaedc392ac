import OpenRill.Goals.Invariants

/-!
# Nothing is left under way in a goal that ended

A finish finds every step done and a cancellation sweeps the steps it finds. A failure
and the cancellation of maintenance write no step: they leave nothing under way when
nothing is, and then a late event of a child finds no step to project.
-/

namespace OpenRill.Goals.Quiescence

open Lib Lib.Runs Lib.Transaction Ledger TaskFlows Executor Operations PlanMachine Moves Footing
open Refinement Calls Invariants

variable {store reached : GoalStore} {world : World} {execution : ExecutionRow} {flow : FlowRow}
variable {flowStatus : FlowStatus}

def UnderWay (status : StepStatus) : Prop :=
  status = .ready ∨ status = .running ∨ status = .waiting

def Still (execution : Option ExecutionRow) (table : Table StepExecutionRow.key) : Prop :=
  ∀ pinned, execution = some pinned → ∀ step ∈ table.rows,
    step.planRevision = pinned.planRevision → ¬ UnderWay step.status

def Ended (store : GoalStore) : Prop :=
  (∃ execution, store.execution = some execution ∧
      executionTerminal execution.status = true) ∨
    ∃ flow, store.flow = some flow ∧ flowTerminal flow.status = true

def StillEnded (store : GoalStore) : Prop :=
  Ended store → Still store.execution store.stepExecutions

def FlowLive (store : GoalStore) : Prop :=
  ∃ flow, store.flow = some flow ∧ flowTerminal flow.status = false

/-- A failure and the cancellation of maintenance come when nothing is under way. -/
def stillRules : Rules :=
  { Rules.free with
    fail := fun store => FlowLive store → Still store.execution store.stepExecutions
    cut := Still }

theorem not_ended (present : reached.execution = some execution)
    (live : executionTerminal execution.status = false) (isFlow : reached.flow = some flow)
    (active : flowTerminal flow.status = false) : ¬ Ended reached := by
  rintro (⟨other, isOther, ended⟩ | ⟨other, isOther, ended⟩)
  · rw [present, Option.some.injEq] at isOther
    rw [← isOther, live] at ended
    contradiction
  · rw [isFlow, Option.some.injEq] at isOther
    rw [← isOther, active] at ended
    contradiction

theorem stillEnded_of_flowMoved {currentStep : Option String} (still : StillEnded store)
    (flowMoved : FlowMoved store.flow flowStatus currentStep flow)
    (active : flowTerminal flowStatus = false) : StillEnded { store with flow := some flow } := by
  rintro (terminal | ⟨other, isOther, ended⟩)
  · exact still (Or.inl terminal)
  · cases isOther
    rw [flowMoved.reached, active] at ended
    contradiction

theorem flowStatus_of_shift {before after : StepStatus} {status : ExecutionStatus}
    (shift : Shift before after status flowStatus) : flowTerminal flowStatus = false := by
  cases shift <;> rfl

theorem still_of_finished (present : store.execution = some execution)
    (allDone : ∀ row, Pinned (viewOf store) execution row → finished row.status = true) :
    Still store.execution store.stepExecutions := by
  intro pinned isPinned step stepIn revision underWay
  rw [present, Option.some.injEq] at isPinned
  subst isPinned
  have done := allDone step ⟨stepIn, revision⟩
  rcases underWay with ready | running | waiting
  · rw [ready] at done
    contradiction
  · rw [running] at done
    contradiction
  · rw [waiting] at done
    contradiction

theorem still_of_execution {changed : ExecutionRow} {table : Table StepExecutionRow.key}
    (still : Still (some execution) table)
    (samePlan : changed.planRevision = execution.planRevision) : Still (some changed) table := by
  intro pinned isPinned step stepIn revision
  cases isPinned
  exact still execution rfl step stepIn (revision.trans samePlan)

theorem stillEnded_of_move {deed : Deed} (move : Move deed store reached)
    (allowed : stillRules.allows store deed) (still : StillEnded store) : StillEnded reached := by
  cases move with
  | touched _ _ => exact still
  | closed _ _ _ _ => exact still
  | childMoved _ => exact still
  | revised _ _ _ _ _ _ _ _ _ => exact still
  | @started _ execution flow _ _ _ _ _ _ _ _ queued _ _ _ flowQueued _ _ =>
    intro ended
    exfalso
    exact not_ended rfl (by rw [queued]; rfl) rfl (by rw [flowQueued]; rfl) ended
  | @shifted _ _ _ execution step next status flowStatus flow _ _ _ _ shift _ _ _ _ _ flowMoved _
      _ _ _ =>
      intro ended
      exfalso
      refine not_ended rfl (fits_of_shift shift).2 rfl ?_ ended
      rw [flowMoved.reached]
      exact flowStatus_of_shift shift
  | succeeded _ _ _ _ _ _ _ _ flowMoved _ _ _ =>
    intro ended
    exfalso
    exact not_ended rfl rfl rfl (by rw [flowMoved.reached]; rfl) ended
  | @adopted _ _ _ _ _ _ _ next _ _ _ _ _ _ _ flowMoved _ _ _ _ _ =>
    intro ended
    exfalso
    refine not_ended rfl ?_ rfl ?_ ended
    · cases next <;> rfl
    · rw [flowMoved.reached]
      cases next <;> rfl
  | finished present allDone _ _ _ _ _ =>
    intro _
    have nothing := still_of_finished present allDone
    rw [present] at nothing
    exact still_of_execution nothing rfl
  | failed present flowMoved _ _ _ =>
    intro _
    obtain ⟨flow, isFlow, live, -⟩ := flowMoved.source
    have nothing := allowed ⟨flow, isFlow, live⟩
    rw [present] at nothing
    exact still_of_execution nothing rfl
  | @cancelled _ _ _ execution table _ present swept _ _ _ _ =>
    intro _ pinned isPinned step stepIn revision underWay
    cases isPinned
    rw [swept] at stepIn
    obtain ⟨old, -, rfl⟩ := List.mem_map.mp stepIn
    rw [(cancelledExecution_ended execution).2,
      (sweptRow_same execution.planRevision old).2.1] at revision
    obtain ⟨notReady, notRunning, notWaiting⟩ :=
      sweptRow_still execution.planRevision old revision
    rcases underWay with ready | running | waiting
    · exact notReady ready
    · exact notRunning running
    · exact notWaiting waiting
  | @asked _ flow flowStatus _ flowMoved _ steady =>
    apply stillEnded_of_flowMoved still flowMoved
    obtain ⟨before, isBefore, live, -⟩ := flowMoved.source
    rw [steady before isBefore]
    exact live
  | held _ _ flowMoved _ => exact stillEnded_of_flowMoved still flowMoved rfl
  | cut _ _ =>
    intro _
    exact allowed

variable {child : ChildRow}

/-- Once the goal ended and its children did, nothing is under way, and the
reconciliation of a child returns and changes nothing. -/
def Quiescent (world : World) (store : GoalStore) : Prop :=
  Ended store →
    ((∀ child ∈ store.children.rows, taskTerminal child.status = true) →
      Still store.execution store.stepExecutions) ∧
    ∀ child ∈ store.children.rows, ∀ blockerId,
      (reconcileTask world.host blockerId child.taskId).run.run store = (.ok (), store)

section

variable (regular : Regular store)
include regular

theorem execution_of_step {step : StepExecutionRow} (stepIn : step ∈ store.stepExecutions.rows) :
    ∃ execution, store.execution = some execution := by
  cases present : store.execution with
  | some execution => exact ⟨execution, rfl⟩
  | none =>
    have noRows : store.stepExecutions.rows = [] := regular.founded.sound.unstarted present
    rw [noRows] at stepIn
    contradiction

theorem reconcileTask_quiet (quiet : Quiet store) (host : Host) (blockerId : String)
    (childIn : child ∈ store.children.rows) :
    (reconcileTask host blockerId child.taskId).run.run store = (.ok (), store) := by
  have found := store.children.find_of_mem childIn
  have snapped : Completes store (terminalSnapshot child.taskId)
      (fun snapshot reached => (∀ terminal, snapshot = some terminal →
        terminal.stepExecution ∈ store.stepExecutions.rows) ∧ reached = store) := by
    apply completes_read
    split
    next => exact completes_return none ⟨by simp, rfl⟩
    next step taken =>
      have stepIn : step ∈ store.stepExecutions.rows := List.mem_of_find?_eq_some taken
      obtain ⟨execution, present⟩ := execution_of_step regular stepIn
      apply completes_expect present
      apply completes_expect found
      refine completes_return _ ⟨?_, rfl⟩
      intro terminal isTerminal
      cases isTerminal
      exact stepIn
  apply run_of_completes snapped
  rintro snapshot store ⟨stepsIn, rfl⟩
  cases snapshot with
  | none => rfl
  | some terminal =>
    have resting := quiet terminal.stepExecution (stepsIn terminal rfl)
    simp only
    rw [if_pos (Or.inr resting)]
    rfl

theorem quiet_of_still (still : Still store.execution store.stepExecutions) : Quiet store := by
  intro step stepIn running
  obtain ⟨execution, present⟩ := execution_of_step regular stepIn
  have revision := (regular.founded.sound.settled execution present).runningPinned step stepIn
    running
  exact still execution present step stepIn revision (Or.inr (Or.inl running))

theorem reconcileTask_noop (still : Still store.execution store.stepExecutions) (host : Host)
    (blockerId : String) (childIn : child ∈ store.children.rows) :
    (reconcileTask host blockerId child.taskId).run.run store = (.ok (), store) :=
  reconcileTask_quiet regular (quiet_of_still regular still) host blockerId childIn

theorem quiescent_of_still (still : StillEnded store) : Quiescent world store := by
  intro ended
  constructor
  · intro _
    exact still ended
  · intro child childIn blockerId
    exact reconcileTask_noop regular (still ended) world.host blockerId childIn

end

/-- A call that fails the execution, or cancels a flow that was asked to stop past the
executor, finds nothing under way. -/
def EndsStill (store : GoalStore) (call : GoalCall) : Prop :=
  match call.op with
  | .failExecution _ _ _ _ => FlowLive store → Still store.execution store.stepExecutions
  | .decide _ (.fail _ _) => FlowLive store → Still store.execution store.stepExecutions
  | .reconcileFlow stuck => MayCut store stuck → Still store.execution store.stepExecutions
  | _ => True

theorem permitted_of_endsStill {call : GoalCall} (still : EndsStill store call) :
    Permitted stillRules store call.op := by
  unfold EndsStill at still
  have projects : MayProject stillRules store :=
    fun _ _ _ _ _ _ _ _ => ⟨fun _ _ => trivial, fun _ => trivial⟩
  cases op : call.op with
  | decide expected decision =>
    cases decision with
    | fail revision summary =>
      rw [op] at still
      exact still
    | block _ _ _ _ => exact fun _ _ => trivial
    | _ => exact trivial
  | failExecution caller execution flow summary =>
    rw [op] at still
    exact still
  | reconcileFlow stuck =>
    rw [op] at still
    exact still
  | start _ _ => exact ⟨projects, trivial⟩
  | advance _ => exact projects
  | reconcileTask _ => exact projects
  | adoptPlanRevision _ _ => exact ⟨projects, trivial⟩
  | recover => exact ⟨projects, fun _ => trivial⟩
  | _ => exact trivial

theorem stillEnded_of_created (created : Created world store) : StillEnded store := by
  obtain ⟨input, before, ran⟩ := created
  obtain ⟨objective, planSteps, revisions, added, -, -, isStore⟩ :=
    create_writes world.texts input before () store rfl ran
  clear ran
  subst isStore
  intro _ pinned isPinned
  contradiction

theorem ended_goal_quiescent (world : World) (first : GoalStore) (calls : List GoalCall)
    (created : Created world first) (still : EveryStep (step world) EndsStill first calls) :
    Quiescent world (reach world first calls) := by
  have permitted : EveryStep (step world)
      (fun store call => Permitted stillRules store call.op) first calls :=
    everyStep_mono (fun _ _ => permitted_of_endsStill) still
  apply quiescent_of_still (regular_of_run world calls created)
  exact run_preserves world
    (fun _ _ _ allowed _ move holds => stillEnded_of_move move allowed holds)
    calls created (stillEnded_of_created created) permitted

theorem ended_of_any
    (terminal : store.execution.any (fun row => executionTerminal row.status) = true) :
    Ended store := by
  left
  exact (Option.any_eq_true _ _).mp terminal

theorem sample_quiescent :
    Quiescent sampleWorld (reach sampleWorld (sampleCreated ["Draft"]) sampleFinished) ∧
      Ended (reach sampleWorld (sampleCreated ["Draft"]) sampleFinished) := by
  have ended : Ended (reach sampleWorld (sampleCreated ["Draft"]) sampleFinished) := by
    apply ended_of_any
    decide +kernel
  exact ⟨ended_goal_quiescent sampleWorld (sampleCreated ["Draft"]) sampleFinished sample_created
    ⟨trivial, trivial, trivial, trivial, trivial⟩, ended⟩

def sampleAbandoned : List GoalCall :=
  [sampleCall (.start sampleOwner 1) (some "t1"),
    sampleCall (.failExecution sampleOwner 2 2 "stop") none, sampleDelivery]

theorem sample_not_quiescent :
    Created sampleWorld (sampleCreated ["Draft"]) ∧
      ¬ Quiescent sampleWorld (reach sampleWorld (sampleCreated ["Draft"]) sampleAbandoned) := by
  refine ⟨sample_created, ?_⟩
  rw [show reach sampleWorld (sampleCreated ["Draft"]) sampleAbandoned =
    reach sampleWorld sampleRunning sampleAbandoned.tail from sample_continued _]
  intro quiescent
  have ended : Ended (reach sampleWorld sampleRunning sampleAbandoned.tail) :=
    ended_of_any (by decide +kernel)
  have thrown : ∃ child ∈ (reach sampleWorld sampleRunning sampleAbandoned.tail).children.rows,
      ((reconcileTask sampleWorld.host "b2" child.taskId).run.run
        (reach sampleWorld sampleRunning sampleAbandoned.tail)).1.isOk = false := by
    decide +kernel
  obtain ⟨child, childIn, failed⟩ := thrown
  rw [(quiescent ended).2 child childIn "b2"] at failed
  contradiction

end OpenRill.Goals.Quiescence
