import OpenRill.Goals.Executor

/-!
# The plan machine

The rows that decide how a plan proceeds, and what every write of them keeps. A
write changes one step, its execution and its flow together, or it starts,
replaces or ends the execution. `Sound` says that one step of the pinned revision
is in progress, and that it is the first that is not finished.
-/

namespace OpenRill.Goals.PlanMachine

open Lib Lib.Text Ledger Executor

variable {next row step : StepExecutionRow} {table : Table StepExecutionRow.key}
variable {revisions : PlanRevisions} {added : List PlanRevisionStepRow} {status : ExecutionStatus}
variable {flowStatus : FlowStatus} {execution : ExecutionRow} {flow : FlowRow}
variable {currentStep : Option String}

/-- The rows that decide how a plan proceeds. -/
structure ExecutionView where
  owner : Owner
  planRevision : Nat
  planRevisions : PlanRevisions
  execution : Option ExecutionRow
  stepExecutions : Table StepExecutionRow.key
  flow : Option FlowRow

variable {view : ExecutionView}

def viewOf (store : GoalStore) : ExecutionView where
  owner := store.goal.owner
  planRevision := store.goal.planRevision
  planRevisions := store.planRevisions
  execution := store.execution
  stepExecutions := store.stepExecutions
  flow := store.flow

def planOf (revisions : PlanRevisions) (planRevision : Nat) : List PlanRevisionStepRow :=
  orderBy PlanRevisionStepRow.ordinal
    (revisions.steps.rows.filter (fun row => row.planRevision = planRevision))

def Pinned (view : ExecutionView) (execution : ExecutionRow) (row : StepExecutionRow) : Prop :=
  row ∈ view.stepExecutions.rows ∧ row.planRevision = execution.planRevision

def stepCount (table : Table StepExecutionRow.key) (planRevision : Nat) : Nat :=
  table.rows.countP (fun row => row.planRevision = planRevision)

/-- How a step changes, and what its execution and its flow become with it. -/
inductive Shift : StepStatus → StepStatus → ExecutionStatus → FlowStatus → Prop where
  | admitted : Shift .ready .running .running .running
  | waited : Shift .ready .waiting .waiting .waiting
  | resumed : Shift .waiting .ready .queued .queued
  | unblocked : Shift .blocked .ready .queued .queued
  | retried : Shift .failed .ready .queued .queued
  | blocked : Shift .running .blocked .blocked .blocked
  | failed : Shift .running .failed .blocked .blocked

def shownStep (currentStep : Option String) : Option String :=
  currentStep.bind (fun step => if trim step = "" then none else some (trim step))

/-- The flow keeps its owner and its controller, comes to a status and a step, and
its revision rises. -/
structure FlowMoved (before : Option FlowRow) (status : FlowStatus)
    (currentStep : Option String) (after : FlowRow) : Prop where
  source : ∃ flow, before = some flow ∧ flowTerminal flow.status = false ∧
    after.owner = flow.owner ∧ after.controllerId = flow.controllerId ∧
    after.revision = flow.revision + 1
  reached : after.status = status
  standsAt : after.currentStep = currentStep

/-- The step keeps its place and its limit; only an admission counts an attempt. -/
structure SamePlace (before after : StepExecutionRow) : Prop where
  key : after.key = before.key
  ordinal : after.ordinal = before.ordinal
  limit : after.maxAttempts = before.maxAttempts
  attempts : after.attemptCount = before.attemptCount + if after.status = .running then 1 else 0

def TaskFree (table : Table StepExecutionRow.key) (row : StepExecutionRow) : Prop :=
  row.currentTaskId ≠ none → ∀ other ∈ table.rows, other.key ≠ row.key →
    other.currentTaskId ≠ row.currentTaskId

def cancelledRow (row : StepExecutionRow) : StepExecutionRow :=
  { row with status := .cancelled, revision := row.revision + 1 }

def readiedRow (row : StepExecutionRow) : StepExecutionRow :=
  { row with status := .ready, currentTaskId := none, revision := row.revision + 1 }

def afterSuccess (table : Table StepExecutionRow.key) (done : StepExecutionRow)
    (next : Option StepExecutionRow) : Table StepExecutionRow.key :=
  match next with
  | none => table.update done
  | some row => (table.update done).update (readiedRow row)

variable {old before after : StepExecutionRow}

theorem mem_of_mem_update (oldIn : old ∈ table.rows) (sameKey : next.key = old.key)
    (row : StepExecutionRow) :
    row ∈ (table.update next).rows ↔ row = next ∨ (row ∈ table.rows ∧ row.key ≠ old.key) := by
  have present : table.find next.key = some old := by
    rw [sameKey]
    exact table.find_of_mem oldIn
  rw [table.mem_update_iff next present row, sameKey]

theorem stepCount_update (oldIn : old ∈ table.rows) (sameKey : next.key = old.key)
    (planRevision : Nat) :
    stepCount (table.update next) planRevision = stepCount table planRevision := by
  have present : table.find next.key = some old := by
    rw [sameKey]
    exact table.find_of_mem oldIn
  have exchanged := table.countP_update next present fun row => row.planRevision = planRevision
  have sameRevision : next.planRevision = old.planRevision := congrArg Prod.fst sameKey
  simp only [sameRevision] at exchanged
  unfold stepCount
  omega

theorem planRevision_of_key (same : after.key = before.key) :
    after.planRevision = before.planRevision :=
  congrArg Prod.fst same

theorem stepId_of_key (same : after.key = before.key) : after.stepId = before.stepId :=
  congrArg Prod.snd same

theorem mem_planOf (revisions : PlanRevisions) (planRevision : Nat)
    (row : PlanRevisionStepRow) :
    row ∈ planOf revisions planRevision ↔
      row ∈ revisions.steps.rows ∧ row.planRevision = planRevision := by
  simp [planOf]

theorem planOf_ascending (revisions : PlanRevisions) (planRevision : Nat) :
    (planOf revisions planRevision).Pairwise
      (fun first second => first.ordinal < second.ordinal) := by
  have rising := orderBy_ascending PlanRevisionStepRow.ordinal
    (revisions.steps.rows.filter fun row => row.planRevision = planRevision)
  have placed : ((planOf revisions planRevision).map PlanRevisionStepRow.place).Nodup := by
    have listed : (planOf revisions planRevision).Perm
        (revisions.steps.rows.filter fun row => row.planRevision = planRevision) :=
      List.perm_insertionSort _ _
    rw [(listed.map PlanRevisionStepRow.place).nodup_iff]
    exact revisions.placesNodup.sublist (List.filter_sublist.map _)
  rw [List.Nodup, List.pairwise_map] at placed
  have both := List.Pairwise.and rising placed
  refine List.Pairwise.imp_of_mem ?_ both
  intro first second firstIn secondIn facts
  have firstRevision := ((mem_planOf revisions planRevision first).mp firstIn).2
  have secondRevision := ((mem_planOf revisions planRevision second).mp secondIn).2
  have different : first.ordinal ≠ second.ordinal := by
    intro same
    apply facts.2
    simp [PlanRevisionStepRow.place, firstRevision, secondRevision, same]
  omega

theorem planOf_appended {longer : PlanRevisions} {planRevision : Nat}
    (appended : longer.steps.rows = revisions.steps.rows ++ added)
    (later : ∀ row ∈ added, row.planRevision ≠ planRevision) :
    planOf longer planRevision = planOf revisions planRevision := by
  unfold planOf
  rw [appended, List.filter_append]
  have noneAdded : added.filter (fun row => row.planRevision = planRevision) = [] := by
    rw [List.filter_eq_nil_iff]
    intro row rowIn
    simpa using later row rowIn
  rw [noneAdded, List.append_nil]

theorem initialSteps_eq_readyFirst (plan : List PlanRevisionStepRow) :
    initialSteps plan = readyFirst (plan.map (initialStep .pending)) := by
  cases plan with
  | nil => rfl
  | cons first rest => simp [initialSteps, readyFirst, initialStep]

def Behind (ready other : StepExecutionRow) : Prop :=
  (other.status = .pending ∧ ready.ordinal < other.ordinal) ∨ finished other.status = true

variable {rows : List StepExecutionRow}

theorem mem_readyFirst (rowIn : row ∈ readyFirst rows) :
    ∃ source ∈ rows, row = source ∨
      (source.status = .pending ∧ row = { source with status := .ready }) := by
  induction rows with
  | nil => simp [readyFirst] at rowIn
  | cons first rest ih =>
    unfold readyFirst at rowIn
    split at rowIn
    next pending =>
      rcases List.mem_cons.mp rowIn with isFirst | inRest
      · exact ⟨first, by simp, Or.inr ⟨pending, isFirst⟩⟩
      · exact ⟨row, by simp [inRest], Or.inl rfl⟩
    next notPending =>
      rcases List.mem_cons.mp rowIn with isFirst | inRest
      · exact ⟨first, by simp, Or.inl isFirst⟩
      · obtain ⟨source, sourceIn, shape⟩ := ih inRest
        exact ⟨source, by simp [sourceIn], shape⟩

theorem length_readyFirst : (readyFirst rows).length = rows.length := by
  induction rows with
  | nil => rfl
  | cons first rest ih =>
    unfold readyFirst
    split
    next => rfl
    next => simp [ih]

theorem finished_of_no_ready
    (fresh : ∀ row ∈ rows, row.status = .pending ∨ finished row.status = true)
    (missed : (readyFirst rows).find? (fun step => step.status = .ready) = none) :
    ∀ row ∈ readyFirst rows, finished row.status = true := by
  induction rows with
  | nil => simp [readyFirst]
  | cons first rest ih =>
    unfold readyFirst at missed ⊢
    split at missed
    next pending => simp at missed
    next notPending =>
      rw [List.find?_cons] at missed
      split at missed
      next => contradiction
      next =>
        rw [if_neg notPending]
        intro row rowIn
        rcases List.mem_cons.mp rowIn with isFirst | inRest
        · rw [isFirst]
          exact (fresh first (by simp)).resolve_left notPending
        · exact ih (fun other otherIn => fresh other (by simp [otherIn])) missed row inRest

theorem behind_of_ready
    (ascending : rows.Pairwise (fun first second => first.ordinal < second.ordinal))
    (fresh : ∀ row ∈ rows, row.status = .pending ∨ finished row.status = true)
    {ready : StepExecutionRow}
    (found : (readyFirst rows).find? (fun step => step.status = .ready) = some ready) :
    ∀ row ∈ readyFirst rows, row = ready ∨ Behind ready row := by
  induction rows with
  | nil => simp [readyFirst] at found
  | cons first rest ih =>
    rw [List.pairwise_cons] at ascending
    unfold readyFirst at found ⊢
    split at found
    next pending =>
      simp only [List.find?_cons, decide_true, Option.some.injEq] at found
      subst found
      rw [if_pos pending]
      intro row rowIn
      rcases List.mem_cons.mp rowIn with isReady | inRest
      · exact Or.inl isReady
      · right
        rcases fresh row (by simp [inRest]) with waits | done
        · exact Or.inl ⟨waits, ascending.1 row inRest⟩
        · exact Or.inr done
    next notPending =>
      rw [if_neg notPending]
      have firstDone : finished first.status = true :=
        (fresh first (by simp)).resolve_left notPending
      rw [List.find?_cons] at found
      split at found
      next isReady =>
        exfalso
        have readyStatus : first.status = .ready := by simpa using isReady
        rw [readyStatus] at firstDone
        simp [finished] at firstDone
      next =>
        intro row rowIn
        rcases List.mem_cons.mp rowIn with isFirst | inRest
        · right
          right
          rw [isFirst]
          exact firstDone
        · exact ih ascending.2 (fun other otherIn => fresh other (by simp [otherIn])) found
            row inRest

variable {before after : StepStatus}

/-- The statuses of the step in progress under each status of the execution. -/
def fits : ExecutionStatus → StepStatus → Bool
  | .queued, .ready => true
  | .running, .ready => true
  | .running, .running => true
  | .waiting, .waiting => true
  | .blocked, .blocked => true
  | .blocked, .failed => true
  | _, _ => false

/-- The step in progress: the current one, in front of all that wait. -/
structure Focus (view : ExecutionView) (execution : ExecutionRow) (row : StepExecutionRow) :
    Prop where
  pinned : Pinned view execution row
  current : execution.currentStepId = some row.stepId
  fitting : fits execution.status row.status = true
  behind : ∀ other, Pinned view execution other → other = row ∨ Behind row other

/-- A running execution whose pinned revision has no step in progress. -/
structure Unfocused (view : ExecutionView) (execution : ExecutionRow) : Prop where
  running : execution.status = .running
  idle : ∀ row, Pinned view execution row → row.status = .pending ∨ finished row.status = true

/-- An execution that is over cannot proceed: its flow is, or nothing can run. -/
def Over (view : ExecutionView) (execution : ExecutionRow) : Prop :=
  (∃ flow, view.flow = some flow ∧ flowTerminal flow.status = true) ∨
    ∀ row, Pinned view execution row →
      row.status ≠ .ready ∧ row.status ≠ .running ∧ row.status ≠ .waiting

structure Settled (view : ExecutionView) (execution : ExecutionRow) : Prop where
  pinnedKnown : execution.planRevision ≤ view.planRevision
  stepsKnown : ∀ row ∈ view.stepExecutions.rows, row.planRevision ≤ execution.planRevision
  runningPinned : ∀ row ∈ view.stepExecutions.rows, row.status = .running →
    row.planRevision = execution.planRevision
  snapshot : stepCount view.stepExecutions execution.planRevision =
    (planOf view.planRevisions execution.planRevision).length
  standing : executionTerminal execution.status = false →
    (∃ row, Focus view execution row) ∨ Unfocused view execution
  ended : executionTerminal execution.status = true → Over view execution

def PlacesDistinct (rows : List StepExecutionRow) : Prop :=
  ∀ first ∈ rows, ∀ second ∈ rows, first.planRevision = second.planRevision →
    first.ordinal = second.ordinal → first.key = second.key

def TasksDistinct (rows : List StepExecutionRow) : Prop :=
  ∀ first ∈ rows, ∀ second ∈ rows, first.currentTaskId ≠ none →
    first.currentTaskId = second.currentTaskId → first.key = second.key

structure Sound (view : ExecutionView) : Prop where
  plansKnown : ∀ row ∈ view.planRevisions.steps.rows, row.planRevision ≤ view.planRevision
  unstarted : view.execution = none → view.stepExecutions.rows = []
  placesDistinct : PlacesDistinct view.stepExecutions.rows
  tasksDistinct : TasksDistinct view.stepExecutions.rows
  settled : ∀ execution, view.execution = some execution → Settled view execution

theorem fits_of_shift (shift : Shift before after status flowStatus) :
    fits status after = true ∧ executionTerminal status = false := by
  cases shift <;> exact ⟨rfl, rfl⟩

def Engaged (status : StepStatus) : Prop :=
  status ≠ .pending ∧ finished status = false

theorem engaged_of_shift (shift : Shift before after status flowStatus) : Engaged before := by
  unfold Engaged
  cases shift <;> decide

theorem source_of_shift (shift : Shift before after status flowStatus) :
    (before = .blocked ∨ before = .failed) ∨
      before = .ready ∨ before = .running ∨ before = .waiting := by
  cases shift <;> simp

theorem focus_of_engaged (settled : Settled view execution)
    (live : executionTerminal execution.status = false) (pinned : Pinned view execution row)
    (engaged : Engaged row.status) : Focus view execution row := by
  rcases settled.standing live with ⟨other, focus⟩ | unfocused
  · rcases focus.behind row pinned with same | waits | done
    · rw [same]
      exact focus
    · exact absurd waits.1 engaged.1
    · rw [engaged.2] at done
      contradiction
  · rcases unfocused.idle row pinned with waits | done
    · exact absurd waits engaged.1
    · rw [engaged.2] at done
      contradiction

theorem live_of_flow (settled : Settled view execution)
    (flowMoved : FlowMoved view.flow flowStatus currentStep flow)
    (pinned : Pinned view execution row)
    (active : row.status = .ready ∨ row.status = .running ∨ row.status = .waiting) :
    executionTerminal execution.status = false := by
  by_cases terminal : executionTerminal execution.status = true
  · exfalso
    rcases settled.ended terminal with ⟨other, isFlow, ended⟩ | swept
    · obtain ⟨source, isSource, running, -⟩ := flowMoved.source
      rw [isFlow] at isSource
      cases isSource
      rw [running] at ended
      contradiction
    · obtain ⟨notReady, notRunning, notWaiting⟩ := swept row pinned
      rcases active with ready | running | waiting
      · exact notReady ready
      · exact notRunning running
      · exact notWaiting waiting
  · simpa using terminal

theorem placesDistinct_update (distinct : PlacesDistinct table.rows) (stepIn : step ∈ table.rows)
    (sameKey : next.key = step.key) (sameOrdinal : next.ordinal = step.ordinal) :
    PlacesDistinct (table.update next).rows := by
  have sameRevision := planRevision_of_key sameKey
  intro first firstIn second secondIn revisions ordinals
  rcases (mem_of_mem_update stepIn sameKey first).mp firstIn with isNext | ⟨firstOld, -⟩
  · rcases (mem_of_mem_update stepIn sameKey second).mp secondIn with isToo | ⟨secondOld, other⟩
    · rw [isNext, isToo]
    · subst isNext
      rw [sameKey]
      exact distinct step stepIn second secondOld (by rw [← sameRevision, revisions])
        (by rw [← sameOrdinal, ordinals])
  · rcases (mem_of_mem_update stepIn sameKey second).mp secondIn with isNext | ⟨secondOld, -⟩
    · subst isNext
      rw [sameKey]
      exact distinct first firstOld step stepIn (by rw [revisions, sameRevision])
        (by rw [ordinals, sameOrdinal])
    · exact distinct first firstOld second secondOld revisions ordinals

section

variable (distinct : TasksDistinct table.rows) (stepIn : step ∈ table.rows)
  (sameKey : next.key = step.key)
include distinct stepIn sameKey

theorem tasksDistinct_update (taskFree : TaskFree table next) :
    TasksDistinct (table.update next).rows := by
  intro first firstIn second secondIn taken same
  rcases (mem_of_mem_update stepIn sameKey first).mp firstIn with isNext | ⟨firstOld, other⟩
  · rcases (mem_of_mem_update stepIn sameKey second).mp secondIn with isToo | ⟨secondOld, other⟩
    · rw [isNext, isToo]
    · subst isNext
      exact absurd same.symm (taskFree taken second secondOld (by rw [sameKey]; exact other))
  · rcases (mem_of_mem_update stepIn sameKey second).mp secondIn with isNext | ⟨secondOld, -⟩
    · subst isNext
      rw [same] at taken
      exact absurd same (taskFree taken first firstOld (by rw [sameKey]; exact other))
    · exact distinct first firstOld second secondOld taken same

theorem taskFree_of_same (sameTask : next.currentTaskId = step.currentTaskId) :
    TaskFree table next := by
  intro taken other otherIn different same
  rw [sameTask] at taken same
  rw [sameKey] at different
  exact different (distinct step stepIn other otherIn taken same.symm).symm

end

variable {changed : ExecutionRow}

theorem settled_of_update {after : ExecutionView} (settled : Settled view execution)
    (samePlans : after.planRevision = view.planRevision ∧ after.planRevisions = view.planRevisions)
    (samePlan : changed.planRevision = execution.planRevision)
    (table : after.stepExecutions = view.stepExecutions.update next)
    (pinned : Pinned view execution step) (sameKey : next.key = step.key)
    (standing : executionTerminal changed.status = false →
      (∃ row, Focus after changed row) ∨ Unfocused after changed)
    (ended : executionTerminal changed.status = true → Over after changed) :
    Settled after changed := by
  have nextRevision : next.planRevision = execution.planRevision :=
    (planRevision_of_key sameKey).trans pinned.2
  constructor
  · rw [samePlan, samePlans.1]
    exact settled.pinnedKnown
  · intro row rowIn
    rw [table] at rowIn
    rw [samePlan]
    rcases (mem_of_mem_update pinned.1 sameKey row).mp rowIn with isNext | ⟨old, -⟩
    · rw [isNext, nextRevision]
    · exact settled.stepsKnown row old
  · intro row rowIn running
    rw [table] at rowIn
    rw [samePlan]
    rcases (mem_of_mem_update pinned.1 sameKey row).mp rowIn with isNext | ⟨old, -⟩
    · rw [isNext, nextRevision]
    · exact settled.runningPinned row old running
  · rw [table, samePlan, samePlans.2, stepCount_update pinned.1 sameKey]
    exact settled.snapshot
  · exact standing
  · exact ended

theorem sound_shifted (sound : Sound view) (present : view.execution = some execution)
    (pinned : Pinned view execution step) (shift : Shift step.status next.status status flowStatus)
    (stopped : step.status = .blocked ∨ step.status = .failed → execution.status = .blocked)
    (place : SamePlace step next) (taskFree : TaskFree view.stepExecutions next)
    (flowMoved : FlowMoved view.flow flowStatus currentStep flow) :
    Sound
      { view with
        execution := some
          { execution with
            status := status
            currentStepId := some step.stepId
            revision := execution.revision + 1 }
        stepExecutions := view.stepExecutions.update next
        flow := some flow } := by
  have settled := sound.settled execution present
  have live : executionTerminal execution.status = false := by
    by_cases halted : step.status = .blocked ∨ step.status = .failed
    · rw [stopped halted]
      rfl
    · exact live_of_flow settled flowMoved pinned ((source_of_shift shift).resolve_left halted)
  have focus := focus_of_engaged settled live pinned (engaged_of_shift shift)
  constructor
  · exact sound.plansKnown
  · intro missing
    contradiction
  · exact placesDistinct_update sound.placesDistinct pinned.1 place.key place.ordinal
  · exact tasksDistinct_update sound.tasksDistinct pinned.1 place.key taskFree
  intro changed isChanged
  cases isChanged
  refine settled_of_update settled ⟨rfl, rfl⟩ rfl rfl pinned place.key ?_ ?_
  · intro _
    left
    refine ⟨next, ⟨?_, ?_⟩, ?_, (fits_of_shift shift).1, ?_⟩
    · exact (mem_of_mem_update pinned.1 place.key next).mpr (Or.inl rfl)
    · exact (planRevision_of_key place.key).trans pinned.2
    · rw [stepId_of_key place.key]
    intro other otherPinned
    rcases (mem_of_mem_update pinned.1 place.key other).mp otherPinned.1 with
      isNext | ⟨old, different⟩
    · exact Or.inl isNext
    right
    rcases focus.behind other ⟨old, otherPinned.2⟩ with same | behind
    · exact absurd (congrArg StepExecutionRow.key same) different
    · rcases behind with waits | done
      · exact Or.inl ⟨waits.1, by rw [place.ordinal]; exact waits.2⟩
      · exact Or.inr done
  · intro terminal
    rw [(fits_of_shift shift).2] at terminal
    contradiction

theorem sound_succeeded {done : StepExecutionRow} {next : Option StepExecutionRow}
    (sound : Sound view) (present : view.execution = some execution)
    (pinned : Pinned view execution step) (running : step.status = .running)
    (place : SamePlace step done) (isDone : done.status = .succeeded)
    (task : done.currentTaskId = step.currentTaskId)
    (flowMoved : FlowMoved view.flow .running currentStep flow)
    (successor : ∀ row, next = some row → Pinned view execution row ∧
      row.status = .pending ∧ row.ordinal = step.ordinal + 1) :
    Sound
      { view with
        execution := some
          { execution with
            status := .running
            currentStepId := next.map StepExecutionRow.stepId
            revision := execution.revision + 1 }
        stepExecutions := afterSuccess view.stepExecutions done next
        flow := some flow } := by
  have settled := sound.settled execution present
  have live := live_of_flow settled flowMoved pinned (Or.inr (Or.inl running))
  have focus := focus_of_engaged settled live pinned (by simp [Engaged, running, finished])
  have doneRevision : done.planRevision = execution.planRevision :=
    (planRevision_of_key place.key).trans pinned.2
  have firstPlaces :=
    placesDistinct_update sound.placesDistinct pinned.1 place.key place.ordinal
  have firstTasks := tasksDistinct_update sound.tasksDistinct pinned.1 place.key
    (taskFree_of_same sound.tasksDistinct pinned.1 place.key task)
  -- after the first write no step is in progress: the others wait or are finished
  have others : ∀ other ∈ (view.stepExecutions.update done).rows,
      other.planRevision = execution.planRevision →
        (other.status = .pending ∧ step.ordinal < other.ordinal) ∨
          finished other.status = true := by
    intro other otherIn revision
    rcases (mem_of_mem_update pinned.1 place.key other).mp otherIn with isNext | ⟨old, different⟩
    · right
      rw [isNext, isDone]
      rfl
    · rcases focus.behind other ⟨old, revision⟩ with same | behind
      · exact absurd (congrArg StepExecutionRow.key same) different
      · exact behind
  cases next with
  | none =>
    constructor
    · exact sound.plansKnown
    · intro missing
      contradiction
    · exact firstPlaces
    · exact firstTasks
    intro changed isChanged
    cases isChanged
    refine settled_of_update settled ⟨rfl, rfl⟩ rfl rfl pinned place.key ?_ ?_
    · intro _
      right
      refine ⟨rfl, ?_⟩
      intro row rowPinned
      rcases others row rowPinned.1 rowPinned.2 with waits | ended
      · exact Or.inl waits.1
      · exact Or.inr ended
    · intro terminal
      contradiction
  | some row =>
    obtain ⟨rowPinned, waits, behindStep⟩ := successor row rfl
    have rowKey : row.key ≠ step.key := by
      intro same
      have sameRow := view.stepExecutions.row_unique rowPinned.1 pinned.1 same
      rw [sameRow, running] at waits
      contradiction
    have rowIn : row ∈ (view.stepExecutions.update done).rows :=
      (mem_of_mem_update pinned.1 place.key row).mpr (Or.inr ⟨rowPinned.1, rowKey⟩)
    have readyKey : (readiedRow row).key = row.key := rfl
    constructor
    · exact sound.plansKnown
    · intro missing
      contradiction
    · exact placesDistinct_update firstPlaces rowIn readyKey rfl
    · refine tasksDistinct_update firstTasks rowIn readyKey ?_
      intro taken
      exact absurd rfl taken
    intro changed isChanged
    cases isChanged
    have middle : Settled
        { view with stepExecutions := view.stepExecutions.update done }
        { execution with status := .running } := by
      refine settled_of_update settled ⟨rfl, rfl⟩ rfl rfl pinned place.key ?_ ?_
      · intro _
        right
        refine ⟨rfl, ?_⟩
        intro other otherPinned
        rcases others other otherPinned.1 otherPinned.2 with waiting | ended
        · exact Or.inl waiting.1
        · exact Or.inr ended
      · intro terminal
        contradiction
    have readied : Pinned { view with stepExecutions := view.stepExecutions.update done }
        { execution with status := .running } row := ⟨rowIn, rowPinned.2⟩
    refine settled_of_update middle ⟨rfl, rfl⟩ rfl rfl readied readyKey ?_ ?_
    · intro _
      left
      refine ⟨readiedRow row, ⟨?_, ?_⟩, rfl, rfl, ?_⟩
      · exact (mem_of_mem_update rowIn readyKey _).mpr (Or.inl rfl)
      · exact rowPinned.2
      intro other otherPinned
      rcases (mem_of_mem_update rowIn readyKey other).mp otherPinned.1 with
        isReady | ⟨old, different⟩
      · exact Or.inl isReady
      right
      rcases others other old otherPinned.2 with waiting | ended
      · left
        refine ⟨waiting.1, ?_⟩
        have apart : other.ordinal ≠ row.ordinal := by
          intro same
          exact different (firstPlaces other old row rowIn
            (otherPinned.2.trans rowPinned.2.symm) same)
        have readyOrdinal : (readiedRow row).ordinal = row.ordinal := rfl
        omega
      · exact Or.inr ended
    · intro terminal
      contradiction

theorem pairwise_readyFirst {plan : List PlanRevisionStepRow}
    (project : PlanRevisionStepRow → StepExecutionRow)
    (ascending : plan.Pairwise (fun first second => first.ordinal < second.ordinal))
    (ordinals : ∀ definition, (project definition).ordinal = definition.ordinal) :
    (plan.map project).Pairwise (fun first second => first.ordinal < second.ordinal) := by
  rw [List.pairwise_map]
  exact ascending.imp fun lower => by rw [ordinals, ordinals]; exact lower

theorem map_ordinal_readyFirst (rows : List StepExecutionRow) :
    (readyFirst rows).map StepExecutionRow.ordinal = rows.map StepExecutionRow.ordinal := by
  induction rows with
  | nil => rfl
  | cons first rest ih =>
    unfold readyFirst
    split
    next => rfl
    next => simp [ih]

theorem sound_launched {execution : ExecutionRow} {flow : Option FlowRow}
    {table : Table StepExecutionRow.key} {project : PlanRevisionStepRow → StepExecutionRow}
    (sound : Sound view)
    (older : ∀ row ∈ view.stepExecutions.rows,
      row.planRevision < view.planRevision ∧ row.status ≠ .running)
    (projects : ∀ definition, (project definition).stepId = definition.stepId ∧
      (project definition).planRevision = definition.planRevision ∧
      (project definition).ordinal = definition.ordinal ∧
      (project definition).currentTaskId = none ∧
      ((project definition).status = .pending ∨ finished (project definition).status = true))
    (filled : table.rows = view.stepExecutions.rows ++
      readyFirst ((planOf view.planRevisions view.planRevision).map project))
    (pinnedTo : execution.planRevision = view.planRevision)
    (chosen : execution.currentStepId =
      ((readyFirst ((planOf view.planRevisions view.planRevision).map project)).find?
        (fun step => step.status = .ready)).map StepExecutionRow.stepId)
    (status : execution.status =
      if execution.currentStepId.isSome then .queued else .running) :
    Sound { view with execution := some execution, stepExecutions := table, flow := flow } := by
  have planRows : ∀ row ∈ readyFirst ((planOf view.planRevisions view.planRevision).map project),
      ∃ definition ∈ planOf view.planRevisions view.planRevision,
        row.planRevision = view.planRevision ∧ row.ordinal = definition.ordinal ∧
          row.currentTaskId = none ∧ row.status ≠ .running := by
    intro row rowIn
    obtain ⟨source, sourceIn, shape⟩ := mem_readyFirst rowIn
    obtain ⟨definition, definitionIn, rfl⟩ := List.mem_map.mp sourceIn
    obtain ⟨-, revision, ordinal, task, fresh⟩ := projects definition
    have definitionRevision := ((mem_planOf _ _ definition).mp definitionIn).2
    refine ⟨definition, definitionIn, ?_⟩
    rcases shape with same | ⟨-, readied⟩
    · rw [same, revision, definitionRevision]
      refine ⟨rfl, ordinal, task, ?_⟩
      rcases fresh with waits | done
      · rw [waits]
        decide
      · intro running
        rw [running] at done
        simp [finished] at done
    · rw [readied]
      exact ⟨revision.trans definitionRevision, ordinal, task, by simp⟩
  have ascending := pairwise_readyFirst project
    (planOf_ascending view.planRevisions view.planRevision)
    fun definition => (projects definition).2.2.1
  have fresh : ∀ row ∈ (planOf view.planRevisions view.planRevision).map project,
      row.status = .pending ∨ finished row.status = true := by
    intro row rowIn
    obtain ⟨definition, -, rfl⟩ := List.mem_map.mp rowIn
    exact (projects definition).2.2.2.2
  have pinnedNew : ∀ row, row ∈ table.rows → row.planRevision = execution.planRevision →
      row ∈ readyFirst ((planOf view.planRevisions view.planRevision).map project) := by
    intro row rowIn revision
    rw [filled] at rowIn
    rcases List.mem_append.mp rowIn with old | new
    · have before := (older row old).1
      omega
    · exact new
  constructor
  · exact sound.plansKnown
  · intro missing
    contradiction
  · change PlacesDistinct table.rows
    rw [filled]
    have ordinalsNodup :
        ((readyFirst ((planOf view.planRevisions view.planRevision).map project)).map
          StepExecutionRow.ordinal).Nodup := by
      rw [map_ordinal_readyFirst, List.Nodup, List.pairwise_map]
      exact ascending.imp fun lower => Nat.ne_of_lt lower
    intro first firstIn second secondIn revisions ordinals
    rcases List.mem_append.mp firstIn with firstOld | firstNew
    · rcases List.mem_append.mp secondIn with secondOld | secondNew
      · exact sound.placesDistinct first firstOld second secondOld revisions ordinals
      · obtain ⟨-, -, revision, -⟩ := planRows second secondNew
        have before := (older first firstOld).1
        omega
    · rcases List.mem_append.mp secondIn with secondOld | secondNew
      · obtain ⟨-, -, revision, -⟩ := planRows first firstNew
        have before := (older second secondOld).1
        omega
      · have same := List.inj_on_of_nodup_map ordinalsNodup firstNew secondNew ordinals
        rw [same]
  · change TasksDistinct table.rows
    rw [filled]
    intro first firstIn second secondIn taken same
    rcases List.mem_append.mp firstIn with firstOld | firstNew
    · rcases List.mem_append.mp secondIn with secondOld | secondNew
      · exact sound.tasksDistinct first firstOld second secondOld taken same
      · obtain ⟨-, -, -, -, task, -⟩ := planRows second secondNew
        exact absurd (same.trans task) taken
    · obtain ⟨-, -, -, -, task, -⟩ := planRows first firstNew
      exact absurd task taken
  · intro launched isLaunched
    cases isLaunched
    constructor
    · exact Nat.le_of_eq pinnedTo
    · intro row rowIn
      rw [filled] at rowIn
      rw [pinnedTo]
      rcases List.mem_append.mp rowIn with old | new
      · exact Nat.le_of_lt (older row old).1
      · obtain ⟨-, -, revision, -⟩ := planRows row new
        exact Nat.le_of_eq revision
    · intro row rowIn running
      rw [filled] at rowIn
      rcases List.mem_append.mp rowIn with old | new
      · exact absurd running (older row old).2
      · obtain ⟨-, -, -, -, -, notRunning⟩ := planRows row new
        exact absurd running notRunning
    · change stepCount table _ = _
      unfold stepCount
      rw [pinnedTo, filled, List.countP_append]
      have noneOld : view.stepExecutions.rows.countP
          (fun row => row.planRevision = view.planRevision) = 0 := by
        rw [List.countP_eq_zero]
        intro row rowIn
        have before := (older row rowIn).1
        simp only [decide_eq_true_eq]
        omega
      have allNew : (readyFirst ((planOf view.planRevisions view.planRevision).map
          project)).countP (fun row => row.planRevision = view.planRevision) =
          (readyFirst ((planOf view.planRevisions view.planRevision).map project)).length := by
        rw [List.countP_eq_length]
        intro row rowIn
        obtain ⟨-, -, revision, -⟩ := planRows row rowIn
        simpa using revision
      rw [noneOld, allNew, length_readyFirst, List.length_map, Nat.zero_add]
    · intro _
      cases found : (readyFirst ((planOf view.planRevisions view.planRevision).map
          project)).find? (fun step => step.status = .ready) with
      | none =>
        right
        rw [found] at chosen
        rw [chosen] at status
        refine ⟨status, ?_⟩
        intro row rowPinned
        exact Or.inr (finished_of_no_ready fresh found row (pinnedNew row rowPinned.1 rowPinned.2))
      | some ready =>
        left
        rw [found] at chosen
        rw [chosen] at status
        have readyIn := List.mem_of_find?_eq_some found
        have isReady : ready.status = .ready := by simpa using List.find?_some found
        obtain ⟨-, -, revision, -⟩ := planRows ready readyIn
        refine ⟨ready, ⟨?_, ?_⟩, chosen, ?_, ?_⟩
        · change ready ∈ table.rows
          rw [filled]
          exact List.mem_append_right _ readyIn
        · exact revision.trans pinnedTo.symm
        · rw [status, isReady]
          rfl
        · intro other otherPinned
          exact behind_of_ready ascending fresh found other
            (pinnedNew other otherPinned.1 otherPinned.2)
    · intro terminal
      rw [status] at terminal
      split at terminal <;> contradiction

theorem sound_revised (sound : Sound view)
    (appended : revisions.steps.rows = view.planRevisions.steps.rows ++ added)
    (newest : ∀ row ∈ added, row.planRevision = view.planRevision + 1) :
    Sound { view with planRevision := view.planRevision + 1, planRevisions := revisions } := by
  constructor
  · intro row rowIn
    rw [appended] at rowIn
    rcases List.mem_append.mp rowIn with old | new
    · exact Nat.le_succ_of_le (sound.plansKnown row old)
    · exact Nat.le_of_eq (newest row new)
  · exact sound.unstarted
  · exact sound.placesDistinct
  · exact sound.tasksDistinct
  · intro execution present
    have settled := sound.settled execution present
    have samePlan : planOf revisions execution.planRevision =
        planOf view.planRevisions execution.planRevision := by
      apply planOf_appended appended
      intro row rowIn same
      have revision := newest row rowIn
      have known := settled.pinnedKnown
      omega
    constructor
    · exact Nat.le_succ_of_le settled.pinnedKnown
    · exact settled.stepsKnown
    · exact settled.runningPinned
    · change stepCount view.stepExecutions execution.planRevision =
        (planOf revisions execution.planRevision).length
      rw [samePlan]
      exact settled.snapshot
    · intro live
      rcases settled.standing live with ⟨row, focus⟩ | unfocused
      · exact Or.inl ⟨row, focus.pinned, focus.current, focus.fitting, focus.behind⟩
      · exact Or.inr ⟨unfocused.running, unfocused.idle⟩
    · exact settled.ended

theorem sound_reflowed (sound : Sound view) (present : view.execution = some execution)
    (samePlan : changed.planRevision = execution.planRevision)
    (standing : executionTerminal changed.status = false → changed = execution)
    (ended : executionTerminal changed.status = true →
      Over { view with flow := some flow } changed) :
    Sound { view with execution := some changed, flow := some flow } := by
  have settled := sound.settled execution present
  constructor
  · exact sound.plansKnown
  · intro missing
    contradiction
  · exact sound.placesDistinct
  · exact sound.tasksDistinct
  intro reached isReached
  cases isReached
  constructor
  · rw [samePlan]
    exact settled.pinnedKnown
  · rw [samePlan]
    exact settled.stepsKnown
  · rw [samePlan]
    exact settled.runningPinned
  · rw [samePlan]
    exact settled.snapshot
  · intro live
    have same := standing live
    subst same
    rcases settled.standing live with ⟨row, focus⟩ | unfocused
    · exact Or.inl ⟨row, focus.pinned, focus.current, focus.fitting, focus.behind⟩
    · exact Or.inr ⟨unfocused.running, unfocused.idle⟩
  · exact ended

def sweptRow (planRevision : Nat) (row : StepExecutionRow) : StepExecutionRow :=
  if row.planRevision = planRevision ∧ cancellable row.status = true then cancelledRow row
  else row

theorem sweptRow_same (planRevision : Nat) (row : StepExecutionRow) :
    (sweptRow planRevision row).key = row.key ∧
      (sweptRow planRevision row).planRevision = row.planRevision ∧
      (sweptRow planRevision row).ordinal = row.ordinal ∧
      (sweptRow planRevision row).currentTaskId = row.currentTaskId := by
  unfold sweptRow
  split
  next => exact ⟨rfl, rfl, rfl, rfl⟩
  next => exact ⟨rfl, rfl, rfl, rfl⟩

theorem sweptRow_still (planRevision : Nat) (row : StepExecutionRow)
    (sameRevision : row.planRevision = planRevision) :
    (sweptRow planRevision row).status ≠ .ready ∧
      (sweptRow planRevision row).status ≠ .running ∧
      (sweptRow planRevision row).status ≠ .waiting := by
  unfold sweptRow
  split
  next => simp [cancelledRow]
  next kept =>
    have ended : cancellable row.status = false := by
      by_contra open_
      exact kept ⟨sameRevision, by simpa using open_⟩
    revert ended
    cases row.status <;> simp [cancellable, finished]

theorem sound_swept {execution closed : ExecutionRow} {table : Table StepExecutionRow.key}
    {flow : Option FlowRow} (sound : Sound view) (present : view.execution = some execution)
    (samePlan : closed.planRevision = execution.planRevision)
    (terminal : executionTerminal closed.status = true)
    (swept : table.rows = view.stepExecutions.rows.map (sweptRow execution.planRevision)) :
    Sound { view with execution := some closed, stepExecutions := table, flow := flow } := by
  have settled := sound.settled execution present
  have source : ∀ row ∈ table.rows, ∃ old ∈ view.stepExecutions.rows,
      row = sweptRow execution.planRevision old := by
    intro row rowIn
    rw [swept] at rowIn
    obtain ⟨old, oldIn, same⟩ := List.mem_map.mp rowIn
    exact ⟨old, oldIn, same.symm⟩
  constructor
  · exact sound.plansKnown
  · intro missing
    contradiction
  · intro first firstIn second secondIn revisions ordinals
    obtain ⟨firstOld, firstOldIn, rfl⟩ := source first firstIn
    obtain ⟨secondOld, secondOldIn, rfl⟩ := source second secondIn
    obtain ⟨firstKey, firstRevision, firstOrdinal, -⟩ := sweptRow_same execution.planRevision firstOld
    obtain ⟨secondKey, secondRevision, secondOrdinal, -⟩ :=
      sweptRow_same execution.planRevision secondOld
    rw [firstKey, secondKey]
    apply sound.placesDistinct firstOld firstOldIn secondOld secondOldIn
    · rw [← firstRevision, ← secondRevision, revisions]
    · rw [← firstOrdinal, ← secondOrdinal, ordinals]
  · intro first firstIn second secondIn taken same
    obtain ⟨firstOld, firstOldIn, rfl⟩ := source first firstIn
    obtain ⟨secondOld, secondOldIn, rfl⟩ := source second secondIn
    obtain ⟨firstKey, -, -, firstTask⟩ := sweptRow_same execution.planRevision firstOld
    obtain ⟨secondKey, -, -, secondTask⟩ := sweptRow_same execution.planRevision secondOld
    rw [firstTask] at taken same
    rw [secondTask] at same
    rw [firstKey, secondKey]
    exact sound.tasksDistinct firstOld firstOldIn secondOld secondOldIn taken same
  · intro reached isReached
    cases isReached
    constructor
    · rw [samePlan]
      exact settled.pinnedKnown
    · intro row rowIn
      obtain ⟨old, oldIn, rfl⟩ := source row rowIn
      rw [(sweptRow_same execution.planRevision old).2.1, samePlan]
      exact settled.stepsKnown old oldIn
    · intro row rowIn running
      obtain ⟨old, oldIn, rfl⟩ := source row rowIn
      by_cases pinned : old.planRevision = execution.planRevision
      · rw [(sweptRow_same execution.planRevision old).2.1, samePlan]
        exact pinned
      · have kept : sweptRow execution.planRevision old = old := by
          unfold sweptRow
          rw [if_neg fun picked => pinned picked.1]
        rw [kept] at running
        exact absurd (settled.runningPinned old oldIn running) pinned
    · change stepCount table _ = _
      rw [samePlan]
      have sameCount : stepCount table execution.planRevision =
          stepCount view.stepExecutions execution.planRevision := by
        unfold stepCount
        rw [swept, List.countP_map]
        apply List.countP_congr
        intro row _
        simp [(sweptRow_same execution.planRevision row).2.1]
      rw [sameCount]
      exact settled.snapshot
    · intro live
      rw [terminal] at live
      contradiction
    · intro _
      right
      intro row rowPinned
      obtain ⟨old, oldIn, isOld⟩ := source row rowPinned.1
      have revision : old.planRevision = execution.planRevision := by
        rw [← (sweptRow_same execution.planRevision old).2.1, ← isOld, ← samePlan]
        exact rowPinned.2
      rw [isOld]
      exact sweptRow_still execution.planRevision old revision

end OpenRill.Goals.PlanMachine
