import Mathlib.Logic.Relation
import OpenRill.Wakes.SourceTasks

/-!
# What the status of a delivery says

A delivery becomes DELIVERED only when its wake Run ended with a decision of the
controller, and stays so; its source task always shows its status. A suppression keeps
the wake Run on the row, and the completion of that run asks only whether the delivery is
DELIVERED: it takes a delivery out of NOT_APPLICABLE. In every run that completes no wake
Run of a suppressed delivery both statuses are final.
-/

namespace OpenRill.Wakes.DeliveryStatus

open Lib Lib.Runs Lib.Transaction State Goals.Ledger Delivery OneWake SourceTasks

variable {spared : Prop} {tables known reached : SourceTables}
variable {row next : DeliveryRow} {tasks : Table SourceTaskRow.taskId} {task : SourceTaskRow}
variable {selected : DeliveryStatus → Prop}

def Decided (tables : SourceTables) (row : DeliveryRow) : Prop :=
  ∃ wakeRunId run, row.wakeRunId = some wakeRunId ∧
    tables.wakes.runs.find wakeRunId = some run ∧ run.status.terminal = true ∧
    (successfulControllerDecision run.events).isSome = true

def Truthful (tables : SourceTables) : Prop :=
  ∀ row ∈ tables.wakes.deliveries.rows, row.deliveryStatus = .delivered → Decided tables row

def Mirrored (tables : SourceTables) : Prop :=
  ∀ row ∈ tables.wakes.deliveries.rows, ∃ task, tables.tasks.find row.taskId = some task ∧
    taskTerminal task.status = true ∧ task.deliveryStatus = row.deliveryStatus

def Single (tables : SourceTables) : Prop :=
  ∀ first ∈ tables.wakes.deliveries.rows, ∀ second ∈ tables.wakes.deliveries.rows,
    first.taskId = second.taskId → first = second

def Final (status : DeliveryStatus) : Prop := status = .delivered ∨ status = .notApplicable

def Stays (selected : DeliveryStatus → Prop) (before after : SourceTables) : Prop :=
  ∀ row ∈ before.wakes.deliveries.rows, selected row.deliveryStatus →
    ∃ later ∈ after.wakes.deliveries.rows,
      later.deliveryId = row.deliveryId ∧ later.deliveryStatus = row.deliveryStatus

def SparesCompletion (tables : SourceTables) (wakeRunId : String) : Prop :=
  ∀ delivery wake, getByWakeRun tables.wakes wakeRunId = some delivery →
    tables.wakes.runs.find wakeRunId = some wake → wake.status.terminal = true →
    delivery.deliveryStatus ≠ .notApplicable

def SparesDispatch (tables : SourceTables) (deliveryId : String) : Prop :=
  ∀ current wakeRunId, tables.wakes.deliveries.find deliveryId = some current →
    current.deliveryStatus = .sessionQueued → current.wakeRunId = some wakeRunId →
    SparesCompletion tables wakeRunId

def EachSpares (options : WakeOptions) :
    List String → List DispatchCall → SourceTables → Prop
  | deliveryId :: deliveryIds, call :: calls, tables =>
    SparesDispatch tables deliveryId ∧
      ((SourceTasks.dispatch options deliveryId call tables).2 = .returned →
        EachSpares options deliveryIds calls
          (SourceTasks.dispatch options deliveryId call tables).1)
  | _, _, _ => True

/-- No wake Run of a suppressed delivery is completed. -/
def Spares (options : WakeOptions) (tables : SourceTables) : SourceOp → Prop
  | .wake (.dispatch deliveryId _) => SparesDispatch tables deliveryId
  | .wake (.deliverRun taskId calls) =>
    EachSpares options (undelivered tables.wakes taskId) calls tables
  | .wake (.drain limit calls) =>
    EachSpares options (actionable tables.wakes limit) calls tables
  | .wake (.completeWakeRun wakeRunId _ _) => SparesCompletion tables wakeRunId
  | _ => True

/-- How the status of a delivery moves. `spared` says that no suppressed delivery is
completed. -/
inductive StatusMoved (spared : Prop) (runs : Table WakeRunRow.runId)
    (row next : DeliveryRow) : Prop where
  | waiting
      (open_ : ¬ Final row.deliveryStatus)
      (still : next.deliveryStatus ≠ .delivered)
  | completed {wakeRunId : String} {wake : WakeRunRow}
      (records : next.wakeRunId = some wakeRunId)
      (found : runs.find wakeRunId = some wake)
      (ended : wake.status.terminal = true)
      (undelivered : row.deliveryStatus ≠ .delivered)
      (spares : spared → row.deliveryStatus ≠ .notApplicable)
      (moved : next.deliveryStatus = .delivered →
        (successfulControllerDecision wake.events).isSome = true)

inductive Write (spared : Prop) : SourceTables → SourceTables → Prop where
  | around {before : SourceTables} {wakes : WakeTables}
      (same : wakes.deliveries = before.wakes.deliveries)
      (grown : RunsGrow before.wakes.runs wakes.runs) :
      Write spared before { before with wakes := wakes }
  | created {before : SourceTables} {task : SourceTaskRow}
      {tasks : Table SourceTaskRow.taskId}
      (inserted : before.tasks.insert task = some tasks) :
      Write spared before { before with tasks := tasks }
  | ended {before : SourceTables} {task next : SourceTaskRow}
      (present : before.tasks.find next.taskId = some task)
      (active : taskTerminal task.status = false) :
      Write spared before { before with tasks := before.tasks.update next }
  | delivered {before : SourceTables} {task next : SourceTaskRow} {row : DeliveryRow}
      {deliveries : Table DeliveryRow.deliveryId}
      (present : before.tasks.find next.taskId = some task)
      (active : taskTerminal task.status = false)
      (terminal : taskTerminal next.status = true)
      (shows : next.deliveryStatus = .pending)
      (inserted : before.wakes.deliveries.insert row = some deliveries)
      (ofTask : row.taskId = next.taskId)
      (pending : row.deliveryStatus = .pending) :
      Write spared before
        { before with
          wakes := { before.wakes with deliveries := deliveries }
          tasks := before.tasks.update next }
  | touched {before : SourceTables} {row next : DeliveryRow}
      (found : before.wakes.deliveries.find next.deliveryId = some row)
      (ofTask : next.taskId = row.taskId)
      (sameRun : next.wakeRunId = row.wakeRunId)
      (sameStatus : next.deliveryStatus = row.deliveryStatus) :
      Write spared before
        { before with
          wakes := { before.wakes with
            deliveries := before.wakes.deliveries.update next } }
  | moved {before : SourceTables} {row next : DeliveryRow} {task : SourceTaskRow}
      {tasks : Table SourceTaskRow.taskId}
      (found : before.wakes.deliveries.find next.deliveryId = some row)
      (ofTask : next.taskId = row.taskId)
      (status : StatusMoved spared before.wakes.runs row next)
      (present : before.tasks.find row.taskId = some task)
      (shown : tasks = if task.deliveryStatus = next.deliveryStatus then before.tasks
        else before.tasks.update
          { task with deliveryStatus := next.deliveryStatus, revision := task.revision + 1 }) :
      Write spared before
        { wakes := { before.wakes with
            deliveries := before.wakes.deliveries.update next }
          tasks := tasks }

abbrev Writes (spared : Prop) : SourceTables → SourceTables → Prop :=
  Relation.ReflTransGen (Write spared)

theorem decision_of_prefix {events later : List RunEvent} (isPrefix : events <+: later)
    (decided : (successfulControllerDecision events).isSome = true) :
    (successfulControllerDecision later).isSome = true := by
  obtain ⟨more, rfl⟩ := isPrefix
  unfold successfulControllerDecision at decided ⊢
  obtain ⟨name, isName⟩ := Option.isSome_iff_exists.mp decided
  obtain ⟨event, found, -⟩ := Option.bind_eq_some_iff.mp isName
  rw [List.reverse_append, List.find?_append]
  cases newer : more.reverse.find? (fun event =>
      event.eventType == "tool.completed" &&
        event.toolName.any (fun name => decide (name ∈ controllerDecisionTools)) &&
        event.isError == some false) with
  | none =>
    exact decided
  | some last =>
    rw [Option.some_or, Option.bind_some]
    have selected := List.find?_some newer
    cases named : last.toolName with
    | none => simp [named] at selected
    | some name => rfl

theorem decided_of_grown (grown : RunsGrow known.wakes.runs
    reached.wakes.runs) (sameRun : next.wakeRunId = row.wakeRunId) (decided : Decided known row) :
    Decided reached next := by
  obtain ⟨wakeRunId, run, records, found, ended, decision⟩ := decided
  obtain ⟨later, foundLater, ends, isPrefix⟩ := grown wakeRunId run found
  exact ⟨wakeRunId, later, sameRun.trans records, foundLater, ends ended,
    decision_of_prefix isPrefix decision⟩

structure Recorded (tables : SourceTables) : Prop where
  truthful : Truthful tables
  mirrored : Mirrored tables
  single : Single tables

theorem recorded_empty : Recorded SourceTables.empty where
  truthful := by
    intro row rowIn
    simp [SourceTables.empty, WakeTables.empty, Table.empty] at rowIn
  mirrored := by
    intro row rowIn
    simp [SourceTables.empty, WakeTables.empty, Table.empty] at rowIn
  single := by
    intro first firstIn
    simp [SourceTables.empty, WakeTables.empty, Table.empty] at firstIn

theorem other_of_active (mirrored : Mirrored known) {taskId : String}
    (rowIn : row ∈ known.wakes.deliveries.rows) (present : known.tasks.find taskId = some task)
    (active : taskTerminal task.status = false) : taskId ≠ row.taskId := by
  intro same
  obtain ⟨own, found, terminal, -⟩ := mirrored row rowIn
  rw [← same, present, Option.some.injEq] at found
  rw [← found, active] at terminal
  contradiction

theorem shown_of_updated (mirrored : Mirrored known) {next : SourceTaskRow}
    (present : known.tasks.find next.taskId = some task) (active : taskTerminal task.status = false)
    (rowIn : row ∈ known.wakes.deliveries.rows) :
    ∃ task, (known.tasks.update next).find row.taskId = some task ∧
      taskTerminal task.status = true ∧ task.deliveryStatus = row.deliveryStatus := by
  rw [known.tasks.find_update next present, if_neg (other_of_active mirrored rowIn present active)]
  exact mirrored row rowIn

theorem recorded_update (recorded : Recorded known)
    (found : known.wakes.deliveries.find next.deliveryId = some row)
    (ofTask : next.taskId = row.taskId)
    (decided : next.deliveryStatus = .delivered → Decided known next)
    (shown : ∃ task, tasks.find row.taskId = some task ∧ taskTerminal task.status = true ∧
      task.deliveryStatus = next.deliveryStatus)
    (others : ∀ taskId, taskId ≠ row.taskId → tasks.find taskId = known.tasks.find taskId) :
    Recorded
      { wakes := { known.wakes with
          deliveries := known.wakes.deliveries.update next }
        tasks := tasks } := by
  have members := fun other =>
    known.wakes.deliveries.mem_update_iff next found other
  have rowIn := known.wakes.deliveries.mem_of_find found
  constructor
  · intro other otherIn isDelivered
    rcases (members other).mp otherIn with rfl | ⟨inside, -⟩
    · exact decided isDelivered
    · exact recorded.truthful other inside isDelivered
  · intro other otherIn
    rcases (members other).mp otherIn with rfl | ⟨inside, different⟩
    · rw [ofTask]
      exact shown
    have foreign : other.taskId ≠ row.taskId := by
      intro same
      apply different
      rw [recorded.single other inside row rowIn same]
      exact known.wakes.deliveries.key_of_find found
    rw [others other.taskId foreign]
    exact recorded.mirrored other inside
  · intro first firstIn second secondIn same
    have alone : ∀ other ∈ known.wakes.deliveries.rows, other.deliveryId ≠ next.deliveryId →
        next.taskId ≠ other.taskId := by
      intro other otherIn different same
      apply different
      rw [← recorded.single row rowIn other otherIn (ofTask.symm.trans same)]
      exact known.wakes.deliveries.key_of_find found
    rcases (members first).mp firstIn with rfl | ⟨firstInside, firstOther⟩
    · rcases (members second).mp secondIn with rfl | ⟨secondInside, secondOther⟩
      · rfl
      · exact absurd same (alone second secondInside secondOther)
    · rcases (members second).mp secondIn with rfl | ⟨secondInside, secondOther⟩
      · exact absurd same.symm (alone first firstInside firstOther)
      · exact recorded.single first firstInside second secondInside same

theorem recorded_of_write (write : Write spared known reached) (recorded : Recorded known) :
    Recorded reached := by
  cases write with
  | @around wakes same grown =>
    constructor
    · intro row rowIn isDelivered
      rw [same] at rowIn
      exact decided_of_grown grown rfl (recorded.truthful row rowIn isDelivered)
    · intro row rowIn
      rw [same] at rowIn
      exact recorded.mirrored row rowIn
    · intro first firstIn second secondIn
      rw [same] at firstIn secondIn
      exact recorded.single first firstIn second secondIn
  | @created task tasks inserted =>
    refine ⟨recorded.truthful, ?_, recorded.single⟩
    intro row rowIn
    obtain ⟨own, found, shown⟩ := recorded.mirrored row rowIn
    exact ⟨own, known.tasks.kept_insert tasks task inserted found, shown⟩
  | ended present active =>
    refine ⟨recorded.truthful, ?_, recorded.single⟩
    intro row rowIn
    exact shown_of_updated recorded.mirrored present active rowIn
  | @delivered task next row deliveries present active terminal shows inserted ofTask pending =>
    have members := known.wakes.deliveries.mem_insert_iff deliveries row inserted
    constructor
    · intro other otherIn isDelivered
      rcases (members other).mp otherIn with inside | rfl
      · exact recorded.truthful other inside isDelivered
      · rw [pending] at isDelivered
        contradiction
    · intro other otherIn
      rcases (members other).mp otherIn with inside | rfl
      · exact shown_of_updated recorded.mirrored present active inside
      · refine ⟨next, ?_, terminal, shows.trans pending.symm⟩
        rw [known.tasks.find_update next present, if_pos ofTask.symm]
    · have alone : ∀ other ∈ known.wakes.deliveries.rows, row.taskId ≠ other.taskId := by
        intro other otherIn same
        exact other_of_active recorded.mirrored otherIn present active (ofTask.symm.trans same)
      intro first firstIn second secondIn same
      rcases (members first).mp firstIn with firstInside | rfl
      · rcases (members second).mp secondIn with secondInside | rfl
        · exact recorded.single first firstInside second secondInside same
        · exact absurd same.symm (alone first firstInside)
      · rcases (members second).mp secondIn with secondInside | rfl
        · exact absurd same (alone second secondInside)
        · rfl
  | @touched row next found ofTask sameRun sameStatus =>
    have rowIn := known.wakes.deliveries.mem_of_find found
    apply recorded_update recorded found ofTask
    · intro isDelivered
      exact decided_of_grown (runsGrow_refl _) sameRun
        (recorded.truthful row rowIn (sameStatus.symm.trans isDelivered))
    · obtain ⟨task, present, terminal, shows⟩ := recorded.mirrored row rowIn
      exact ⟨task, present, terminal, shows.trans sameStatus.symm⟩
    · intro _ _
      rfl
  | @moved row next task tasks found ofTask status present shown =>
    have rowIn := known.wakes.deliveries.mem_of_find found
    have isKey := known.tasks.key_of_find present
    obtain ⟨own, foundOwn, terminal, -⟩ := recorded.mirrored row rowIn
    rw [present, Option.some.injEq] at foundOwn
    subst foundOwn
    apply recorded_update recorded found ofTask
    · intro isDelivered
      cases status with
      | waiting open_ still => exact absurd isDelivered still
      | @completed wakeRunId wake records foundWake ended undelivered spares moved =>
        exact ⟨wakeRunId, wake, records, foundWake, ended, moved isDelivered⟩
    · rw [shown]
      split
      next same => exact ⟨task, present, terminal, same⟩
      next =>
        refine ⟨{ task with
          deliveryStatus := next.deliveryStatus
          revision := task.revision + 1 }, ?_, terminal, rfl⟩
        rw [known.tasks.find_update _ (isKey.symm ▸ present), if_pos isKey]
    · intro taskId other
      rw [shown]
      split
      · rfl
      · rw [known.tasks.find_update _ (isKey.symm ▸ present), if_neg]
        intro same
        exact other (same.symm.trans isKey)

theorem recorded_of_writes (writes : Writes spared known reached) (recorded : Recorded known) :
    Recorded reached := by
  induction writes with
  | refl => exact recorded
  | tail _ write holds => exact recorded_of_write write holds

theorem stays_refl (selected : DeliveryStatus → Prop) (tables : SourceTables) :
    Stays selected tables tables :=
  fun row rowIn _ => ⟨row, rowIn, rfl, rfl⟩

theorem stays_trans {first second third : SourceTables} (earlier : Stays selected first second)
    (later : Stays selected second third) : Stays selected first third := by
  intro row rowIn holds
  obtain ⟨middle, middleIn, sameId, sameStatus⟩ := earlier row rowIn holds
  obtain ⟨last, lastIn, lastId, lastStatus⟩ := later middle middleIn (sameStatus ▸ holds)
  exact ⟨last, lastIn, lastId.trans sameId, lastStatus.trans sameStatus⟩

theorem stays_update (found : known.wakes.deliveries.find next.deliveryId = some row)
    (keeps : selected row.deliveryStatus → next.deliveryStatus = row.deliveryStatus) :
    Stays selected known
      { wakes := { known.wakes with
          deliveries := known.wakes.deliveries.update next }
        tasks := tasks } := by
  intro other otherIn holds
  have members := fun row => known.wakes.deliveries.mem_update_iff next found row
  by_cases same : other.deliveryId = next.deliveryId
  · have isRow : other = row := by
      have isKey := known.wakes.deliveries.key_of_find found
      exact known.wakes.deliveries.row_unique otherIn
        (known.wakes.deliveries.mem_of_find found) (same.trans isKey.symm)
    subst isRow
    exact ⟨next, (members next).mpr (Or.inl rfl), same.symm, keeps holds⟩
  · exact ⟨other, (members other).mpr (Or.inr ⟨otherIn, same⟩), rfl, rfl⟩

section

variable (leaves : ∀ runs row next, StatusMoved spared runs row next → ¬ selected
  row.deliveryStatus)

include leaves

theorem stays_of_write (write : Write spared known reached) : Stays selected known reached := by
  cases write with
  | @around wakes same _ =>
    intro row rowIn _
    refine ⟨row, ?_, rfl, rfl⟩
    rw [same]
    exact rowIn
  | created _ => exact fun row rowIn _ => ⟨row, rowIn, rfl, rfl⟩
  | ended _ _ => exact fun row rowIn _ => ⟨row, rowIn, rfl, rfl⟩
  | @delivered task next row deliveries _ _ _ _ inserted _ _ =>
    intro other otherIn _
    have members := known.wakes.deliveries.mem_insert_iff deliveries row inserted
    exact ⟨other, (members other).mpr (Or.inl otherIn), rfl, rfl⟩
  | touched found _ _ sameStatus =>
    apply stays_update found
    intro _
    exact sameStatus
  | moved found _ status _ _ =>
    apply stays_update found
    intro holds
    exact absurd holds (leaves _ _ _ status)

theorem stays_of_writes (writes : Writes spared known reached) : Stays selected known reached := by
  induction writes with
  | refl => exact stays_refl selected known
  | tail _ write holds => exact stays_trans holds (stays_of_write leaves write)

end

theorem leaves_final (spares : spared) (runs : Table WakeRunRow.runId) (row next : DeliveryRow)
    (moved : StatusMoved spared runs row next) : ¬ Final row.deliveryStatus := by
  cases moved with
  | waiting open_ _ => exact open_
  | completed _ _ _ undelivered unsuppressed _ =>
    rintro (isDelivered | isSuppressed)
    · exact undelivered isDelivered
    · exact unsuppressed spares isSuppressed

variable {Value : Type} {body : WakeTransaction Value}

theorem onWakes_ensures {after : Value → WakeTables → Prop}
    (triple : Ensures (fun state => state = known.wakes) body after) :
    Ensures (fun state => state = known) (onWakes body)
      (fun value reached => ∃ wakes, after value wakes ∧
        reached = { known with wakes := wakes }) := by
  apply ensures_focus
  intro whole value wakes isKnown ran
  subst isKnown
  exact ⟨wakes, triple whole.wakes value wakes rfl ran, rfl⟩

theorem onWakes_unchanged (triple : Ensures (fun state => state = known.wakes) body
      (fun _ reached => reached = known.wakes)) :
    Ensures (fun state => state = known) (onWakes body) (fun _ reached => reached = known) := by
  refine ensures_result (onWakes_ensures triple) ?_
  rintro _ _ ⟨_, rfl, rfl⟩
  rfl

theorem updateDeliveryState_writes (taskId : String) (status : DeliveryStatus) :
    Ensures (fun state => state = known) (updateDeliveryState taskId status)
      (fun _ reached => ∃ task, known.tasks.find taskId = some task ∧
        reached = { known with
          tasks := if task.deliveryStatus = status then known.tasks
            else known.tasks.update
              { task with deliveryStatus := status, revision := task.revision + 1 } }) := by
  apply ensures_read
  apply ensures_expect_then
  intro task present
  apply ensures_whenever
  · intro different
    apply ensures_change
    intro state isKnown
    subst isKnown
    exact ⟨task, present, by rw [if_neg different]⟩
  · intro same state isKnown
    subst isKnown
    exact ⟨task, present, by rw [if_pos (not_not.mp same)]⟩

theorem createTask_writes (taskId : String) (policy : NotifyPolicy) :
    Ensures (fun state => state = known) (createTask taskId policy)
      (fun _ reached => Write spared known reached) := by
  apply ensures_tryChange
  intro state after isKnown written
  subst isKnown
  obtain ⟨tasks, inserted, rfl⟩ := Option.map_eq_some_iff.mp written
  exact Write.created inserted

theorem syncTask_writes (input : NewDelivery) :
    Ensures (fun state => state = known) (syncTask input)
      (fun _ reached => Writes spared known reached) := by
  apply ensures_read
  apply ensures_expect_then
  intro task present
  have isKey := known.tasks.key_of_find present
  have own : known.tasks.find task.taskId = some task :=
    known.tasks.find_self present
  apply ensures_whenever
  · intro active
    apply ensures_write
    apply ensures_whenever
    · intro delivers
      have terminal : taskTerminal input.taskStatus = true := by
        unfold willDeliver at delivers
        rw [Bool.and_eq_true] at delivers
        exact delivers.1
      apply ensures_focus
      intro whole value wakes isWhole ran
      subst isWhole
      have recorded : Ensures (fun state => state = known.wakes) (recordDelivery input)
          (fun _ reached => ∃ flow deliveries,
            known.wakes.deliveries.insert (pendingDelivery input flow) = some deliveries ∧
              reached = { known.wakes with deliveries := deliveries }) := by
        apply ensures_read
        apply ensures_expect_then
        intro flow _
        apply ensures_tryChange
        intro state after isKnown written
        subst isKnown
        obtain ⟨deliveries, inserted, rfl⟩ := Option.map_eq_some_iff.mp written
        exact ⟨flow, deliveries, inserted, rfl⟩
      obtain ⟨flow, deliveries, inserted, rfl⟩ := recorded _ _ _ rfl ran
      apply Relation.ReflTransGen.single
      exact Write.delivered own active terminal (by rw [if_pos delivers]) inserted isKey.symm rfl
    · intro _ state isState
      subst isState
      apply Relation.ReflTransGen.single
      exact Write.ended own active
  · intro _ state isKnown
    subst isKnown
    exact Relation.ReflTransGen.refl

theorem moved_writes (input : DeliveryUpdate) {wakes : WakeTables}
    (found : known.wakes.deliveries.find input.deliveryId = some row)
    (status : StatusMoved spared known.wakes.runs row (row.updatedBy input)) (isWakes : wakes =
      { known.wakes with
        deliveries := known.wakes.deliveries.update (row.updatedBy input) })
    (present : known.tasks.find row.taskId = some task)
    (shown : tasks = if task.deliveryStatus = input.deliveryStatus then known.tasks
      else known.tasks.update
        { task with deliveryStatus := input.deliveryStatus, revision := task.revision + 1 }) :
    Write spared known { wakes := wakes, tasks := tasks } := by
  have own : known.wakes.deliveries.find (row.updatedBy input).deliveryId = some row :=
    known.wakes.deliveries.find_self found
  subst isWakes
  exact @Write.moved spared known row (row.updatedBy input) task tasks own rfl status present shown

theorem updateBoth_writes (input : DeliveryUpdate) (refusal : Option String)
    (found : known.wakes.deliveries.find input.deliveryId = some row)
    (status : StatusMoved spared known.wakes.runs row (row.updatedBy input)) :
    Ensures (fun state => state = known)
      (do
        let updated ← onWakes (updateDelivery input)
        whenever (updated.isSome = true) (updateDeliveryState row.taskId input.deliveryStatus)
        onWakes (otherLedgers refusal)
        pure updated)
      (fun _ reached => Writes spared known reached) := by
  refine ensures_called (onWakes_ensures (updateDelivery_writes input known.wakes)) ?_
  rintro updated _ ⟨wakes, wrote, rfl⟩
  have second : Ensures (fun state => state = { known with wakes := wakes })
      (whenever (updated.isSome = true) (updateDeliveryState row.taskId input.deliveryStatus))
      (fun _ reached => Writes spared known reached) := by
    apply ensures_whenever
    · intro isUpdated
      refine ensures_result (updateDeliveryState_writes row.taskId input.deliveryStatus) ?_
      rintro _ _ ⟨task, present, rfl⟩
      rcases wrote with ⟨missed, -⟩ | ⟨other, isOther, -, isWakes⟩
      · rw [missed] at isUpdated
        contradiction
      · rw [found, Option.some.injEq] at isOther
        subst isOther
        apply Relation.ReflTransGen.single
        exact moved_writes input found status isWakes present rfl
    · intro missed state isState
      subst isState
      rcases wrote with ⟨-, rfl⟩ | ⟨other, -, isUpdated, -⟩
      · exact Relation.ReflTransGen.refl
      · rw [isUpdated] at missed
        simp at missed
  refine ensures_called second ?_
  intro _ reached writes
  refine ensures_called (onWakes_unchanged (otherLedgers_unchanged _ _)) ?_
  rintro _ _ rfl
  exact ensures_return _ writes

theorem recordFailure_writes (deliveryId message : String) (call : DispatchCall)
    (open_ : ∀ row, known.wakes.deliveries.find deliveryId = some row →
      row.deliveryStatus ≠ .notApplicable) :
    Ensures (fun state => state = known)
      (SourceTasks.recordFailure deliveryId message call)
      (fun _ reached => Writes spared known reached) := by
  apply ensures_inspect_then
  intro state isKnown
  subst isKnown
  split
  next => exact ensures_return _ Relation.ReflTransGen.refl
  next fresh found =>
    have isKey := state.wakes.deliveries.key_of_find found
    apply ensures_ite
    · intro _
      exact ensures_return _ Relation.ReflTransGen.refl
    intro undelivered
    apply updateBoth_writes (failure fresh message call.now)
    · change state.wakes.deliveries.find fresh.deliveryId = some fresh
      rw [isKey]
      exact found
    · apply StatusMoved.waiting
      · rintro (isDelivered | isSuppressed)
        · exact undelivered isDelivered
        · exact open_ fresh found isSuppressed
      · exact fun same => DeliveryStatus.noConfusion same

theorem completeWakeRun_writes (wakeRunId : String) (now : Nat) (refusal : Option String)
    (spares : spared → SparesCompletion known wakeRunId) :
    Ensures (fun state => state = known)
      (SourceTasks.completeWakeRun wakeRunId now refusal)
      (fun _ reached => Writes spared known reached) := by
  apply ensures_inspect_then
  intro state isKnown
  subst isKnown
  split
  next => exact ensures_return _ Relation.ReflTransGen.refl
  next delivery isDelivery =>
    apply ensures_ite
    · intro _
      exact ensures_return _ Relation.ReflTransGen.refl
    intro undelivered
    split
    next => exact ensures_return _ Relation.ReflTransGen.refl
    next wake isWake =>
      apply ensures_ite
      · intro ended
        have deliveryIn := List.mem_of_find?_eq_some isDelivery
        apply updateBoth_writes (completion delivery wake now)
        · exact state.wakes.deliveries.find_of_mem deliveryIn
        have isKey := state.wakes.runs.key_of_find isWake
        refine @StatusMoved.completed spared _ delivery _ wakeRunId wake ?_ isWake ended
          undelivered ?_ ?_
        · change some wake.runId = some wakeRunId
          rw [isKey]
        · intro holds
          exact spares holds delivery wake isDelivery isWake ended
        intro isDelivered
        change (if (successfulControllerDecision wake.events).isSome = true then
          Delivery.DeliveryStatus.delivered else .failed) = .delivered at isDelivered
        by_cases decided : (successfulControllerDecision wake.events).isSome = true
        · exact decided
        · rw [if_neg decided] at isDelivered
          contradiction
      · intro _
        exact ensures_return _ Relation.ReflTransGen.refl

theorem recordWake_keeps {deliveryId runId : String} {known : WakeTables} :
    Ensures (fun state => state = known) (recordWake deliveryId runId)
      (fun _ reached => reached.deliveries = known.deliveries ∧ reached.runs = known.runs) := by
  apply ensures_change
  rintro state rfl
  exact ⟨rfl, rfl⟩

theorem admitWake_writes (options : WakeOptions) (row : DeliveryRow) (flow : ManagedFlowRow)
    (call : DispatchCall) (found : known.wakes.deliveries.find row.deliveryId = some row)
    (open_ : ¬ Final row.deliveryStatus) :
    Ensures (fun state => state = known) (SourceTasks.admitWake options row flow call)
      (fun queued reached => Writes spared known reached ∧
        reached.wakes.deliveries.find row.deliveryId = some queued.delivery ∧
        queued.delivery.deliveryStatus = .sessionQueued) := by
  refine ensures_called
    (onWakes_ensures (bindControllerSnapshot_writes _ _ flow call.now known.wakes)) ?_
  rintro snapshot _ ⟨wakes, bind, rfl⟩
  apply ensures_expect_then
  intro bound isBound
  rcases bind with ⟨missed, -⟩ | ⟨old, isOld, isSnapshot, rfl⟩
  · rw [missed] at isBound
    contradiction
  rw [found, Option.some.injEq] at isOld
  subst isOld
  rw [isBound, Option.some.injEq] at isSnapshot
  subst isSnapshot
  have touched : Write spared known
      { known with
        wakes := { known.wakes with
          deliveries := known.wakes.deliveries.update (row.boundTo flow call.now) } } :=
    Write.touched found rfl rfl rfl
  refine ensures_called (onWakes_ensures (sendSystemInTransaction_runsKept options call)) ?_
  rintro sent _ ⟨wakes, ⟨sameDeliveries, -, grown⟩, rfl⟩
  have sentWrites : Writes spared known { known with wakes := wakes } := by
    apply Relation.ReflTransGen.tail (Relation.ReflTransGen.single touched)
    exact @Write.around spared _ wakes sameDeliveries grown
  have foundBound : wakes.deliveries.find (row.boundTo flow call.now).deliveryId =
      some (row.boundTo flow call.now) := by
    rw [sameDeliveries]
    have present : known.wakes.deliveries.find (row.boundTo flow call.now).deliveryId =
        some row := found
    rw [known.wakes.deliveries.find_update _ present, if_pos rfl]
  refine ensures_called (onWakes_ensures (updateDelivery_writes _ wakes)) ?_
  rintro admitted _ ⟨updatedWakes, wrote, rfl⟩
  apply ensures_expect_then
  intro updated isUpdated
  rcases wrote with ⟨missed, -⟩ | ⟨other, isOther, isAdmitted, rfl⟩
  · rw [missed] at isUpdated
    contradiction
  have isBound : other = row.boundTo flow call.now := by
    have both := isOther.symm.trans foundBound
    exact Option.some.inj both
  subst isBound
  rw [isUpdated, Option.some.injEq] at isAdmitted
  subst isAdmitted
  refine ensures_called (updateDeliveryState_writes _ _) ?_
  rintro _ _ ⟨task, present, rfl⟩
  refine ensures_called (onWakes_unchanged (otherLedgers_unchanged _ _)) ?_
  rintro _ _ rfl
  refine ensures_called (onWakes_ensures recordWake_keeps) ?_
  rintro _ _ ⟨lastWakes, ⟨sameRows, sameRuns⟩, rfl⟩
  apply ensures_return
  have moves : StatusMoved spared wakes.runs (row.boundTo flow call.now)
      ((row.boundTo flow call.now).updatedBy
        (admission (row.boundTo flow call.now) sent call.now)) := by
    apply StatusMoved.waiting
    · exact open_
    · exact fun same => DeliveryStatus.noConfusion same
  have admittedWrites := sentWrites.tail
    (moved_writes (admission (row.boundTo flow call.now) sent call.now) foundBound moves rfl
      present rfl)
  have grows : RunsGrow wakes.runs lastWakes.runs := by
    rw [sameRuns]
    exact runsGrow_refl wakes.runs
  refine ⟨admittedWrites.tail (@Write.around spared _ lastWakes sameRows grows), ?_, rfl⟩
  rw [sameRows]
  have own : wakes.deliveries.find ((row.boundTo flow call.now).updatedBy
      (admission (row.boundTo flow call.now) sent call.now)).deliveryId =
        some (row.boundTo flow call.now) := foundBound
  exact (wakes.deliveries.find_update _ own row.deliveryId).trans (if_pos rfl)

/-- The admission commits a delivery that is not suppressed, unless it was or is
suppressed here; then no run is scheduled. -/
theorem queueWake_writes (options : WakeOptions) (deliveryId : String) (call : DispatchCall) :
    Ensures (fun state => state = known) (SourceTasks.queueWake options deliveryId call)
      (fun queued reached => Writes spared known reached ∧
        (queued.wakeStatus = none ∨ ∀ row,
          reached.wakes.deliveries.find deliveryId = some row →
            row.deliveryStatus ≠ .notApplicable)) := by
  apply ensures_inspect_then
  intro state isKnown
  subst isKnown
  apply ensures_expect_then
  intro fresh found
  have isKey := state.wakes.deliveries.key_of_find found
  have own : state.wakes.deliveries.find fresh.deliveryId = some fresh :=
    state.wakes.deliveries.find_self found
  apply ensures_ite
  · intro _
    exact ensures_return _ ⟨Relation.ReflTransGen.refl, Or.inl rfl⟩
  intro open_
  apply ensures_ite
  · rintro ⟨queued, -⟩
    apply ensures_return
    refine ⟨Relation.ReflTransGen.refl, Or.inr ?_⟩
    intro row isRow
    rw [found, Option.some.injEq] at isRow
    rw [← isRow, queued]
    exact fun same => DeliveryStatus.noConfusion same
  · intro _
    apply ensures_expect_then
    intro flowId _
    apply ensures_expect_then
    intro controllerId _
    apply ensures_expect_then
    intro flow _
    apply ensures_demand_then
    intro _
    apply ensures_ite
    · intro _
      refine ensures_called (onWakes_ensures (updateDelivery_writes _ state.wakes)) ?_
      rintro suppressed _ ⟨wakes, wrote, rfl⟩
      apply ensures_expect_then
      intro updated isUpdated
      rcases wrote with ⟨missed, -⟩ | ⟨row, isRow, -, isWakes⟩
      · rw [missed] at isUpdated
        contradiction
      rw [show (suppression fresh call.now).deliveryId = fresh.deliveryId from rfl, own,
        Option.some.injEq] at isRow
      subst isRow
      refine ensures_called (updateDeliveryState_writes _ _) ?_
      rintro _ _ ⟨task, present, rfl⟩
      refine ensures_called (onWakes_unchanged (otherLedgers_unchanged _ _)) ?_
      rintro _ _ rfl
      apply ensures_return
      refine ⟨Relation.ReflTransGen.single ?_, Or.inl rfl⟩
      apply moved_writes (suppression fresh call.now) own _ isWakes present rfl
      apply StatusMoved.waiting
      · exact open_
      · exact fun same => DeliveryStatus.noConfusion same
    · intro _
      refine ensures_result (@admitWake_writes spared state options fresh flow call own open_) ?_
      rintro queued reached ⟨writes, foundQueued, status⟩
      refine ⟨writes, Or.inr ?_⟩
      intro row isRow
      rw [isKey, isRow, Option.some.injEq] at foundQueued
      rw [foundQueued, status]
      exact fun same => DeliveryStatus.noConfusion same

variable (options : WakeOptions)

theorem caught_writes (deliveryId message : String) (call : DispatchCall)
    (open_ : ∀ row, tables.wakes.deliveries.find deliveryId = some row →
      row.deliveryStatus ≠ .notApplicable) :
    Writes spared tables (SourceTasks.caught deliveryId message call tables).1 := by
  unfold SourceTasks.caught
  split
  next reached done =>
    exact recordFailure_writes deliveryId message call open_ tables _ reached rfl done
  next reached done =>
    exact recordFailure_writes deliveryId message call open_ tables _ reached rfl done
  next => exact Relation.ReflTransGen.refl

theorem replayWake_writes (wakeRunId : String) (call : DispatchCall)
    (spares : spared → SparesCompletion tables wakeRunId) :
    Writes spared tables (SourceTasks.replayWake wakeRunId call tables).1 := by
  unfold SourceTasks.replayWake
  split
  next => exact Relation.ReflTransGen.refl
  next wake _ =>
    by_cases hasEnded : wake.status.terminal = true
    · rw [if_pos hasEnded]
      split
      next value reached done =>
        exact completeWakeRun_writes wakeRunId call.now call.recordRefusal spares tables value
          reached rfl done
      next => exact Relation.ReflTransGen.refl
    · rw [if_neg hasEnded]
      split
      · exact Relation.ReflTransGen.refl
      · exact Relation.ReflTransGen.refl

theorem tryWake_writes (deliveryId : String) (call : DispatchCall)
    (open_ : ∀ row, tables.wakes.deliveries.find deliveryId = some row →
      row.deliveryStatus ≠ .notApplicable) :
    Writes spared tables (SourceTasks.tryWake options deliveryId call tables).1 := by
  unfold SourceTasks.tryWake
  cases queuedRun : (SourceTasks.queueWake options deliveryId call).run tables with
  | error message => exact caught_writes deliveryId message call open_
  | ok pair =>
    obtain ⟨writes, scheduled⟩ := @queueWake_writes spared tables options deliveryId call
      tables pair.1 pair.2 rfl queuedRun
    simp only
    split
    next schedules =>
      cases call.scheduling with
      | answers _ => exact writes
      | stops => exact writes
      | throws message =>
        apply Relation.ReflTransGen.trans writes
        apply caught_writes
        rcases scheduled with noStatus | open_
        · rw [noStatus] at schedules
          simp [schedulable] at schedules
        · exact open_
    next => exact writes

theorem dispatch_writes (deliveryId : String) (call : DispatchCall)
    (spares : spared → SparesDispatch tables deliveryId) :
    Writes spared tables (SourceTasks.dispatch options deliveryId call tables).1 := by
  unfold SourceTasks.dispatch
  split
  next => exact Relation.ReflTransGen.refl
  next current found =>
    split
    next => exact Relation.ReflTransGen.refl
    next notFinal =>
      have open_ : ∀ row, tables.wakes.deliveries.find deliveryId = some row →
          row.deliveryStatus ≠ .notApplicable := by
        intro row isRow isSuppressed
        rw [found, Option.some.injEq] at isRow
        rw [← isRow] at isSuppressed
        exact notFinal (Or.inr isSuppressed)
      split
      next wakeRunId isWake =>
        split
        next queued =>
          apply replayWake_writes
          intro holds
          exact spares holds current wakeRunId found queued isWake
        next => exact tryWake_writes options deliveryId call open_
      next => exact tryWake_writes options deliveryId call open_

theorem dispatchEach_writes (deliveryIds : List String) (calls : List DispatchCall)
    (spares : spared → EachSpares options deliveryIds calls tables) :
    Writes spared tables (SourceTasks.dispatchEach options deliveryIds calls tables) := by
  induction deliveryIds generalizing calls tables with
  | nil => exact Relation.ReflTransGen.refl
  | cons deliveryId rest ih =>
    cases calls with
    | nil => exact Relation.ReflTransGen.refl
    | cons call calls =>
      have first : spared → SparesDispatch tables deliveryId :=
        fun holds => (spares holds).1
      have dispatched := dispatch_writes options deliveryId call first
      unfold SourceTasks.dispatchEach
      split
      next reached isReached =>
        rw [isReached] at dispatched
        apply Relation.ReflTransGen.trans dispatched
        apply ih calls
        intro holds
        have later := (spares holds).2
        rw [isReached] at later
        exact later rfl
      next reached answer _ isReached =>
        rw [isReached] at dispatched
        exact dispatched

theorem around_of_runsKept {body : WakeTransaction Unit}
    (kept : Ensures (fun state => state = tables.wakes) body
      (fun _ reached => RunsKept tables.wakes reached)) :
    Writes spared tables (perform (onWakes body) tables) := by
  have written : Ensures (fun state => state = tables) (onWakes body)
      (fun _ reached => Writes spared tables reached) := by
    refine ensures_result (onWakes_ensures kept) ?_
    rintro _ _ ⟨wakes, ⟨same, -, grown⟩, rfl⟩
    exact Relation.ReflTransGen.single (Write.around same grown)
  exact perform_ensures written rfl Relation.ReflTransGen.refl

theorem surroundings_around (op : WakeOp) :
    Writes spared tables { tables with wakes := surroundings tables.wakes op } := by
  have kept := surroundings_runsKept tables.wakes op
  exact Relation.ReflTransGen.single (Write.around kept.deliveries kept.grown)

theorem step_writes (options : WakeOptions) (op : SourceOp)
    (spares : spared → Spares options tables op) :
    Writes spared tables (SourceTasks.step options tables op) := by
  cases op with
  | createTask taskId policy =>
    exact perform_ensures (ensures_result (createTask_writes taskId policy)
      fun _ _ write => Relation.ReflTransGen.single write) rfl Relation.ReflTransGen.refl
  | wake op =>
    cases op with
    | createConversation row => exact surroundings_around (.createConversation row)
    | openFlow row => exact surroundings_around (.openFlow row)
    | moveFlow row => exact surroundings_around (.moveFlow row)
    | submit row => exact surroundings_around (.submit row)
    | recordDelivery input =>
      exact perform_ensures (syncTask_writes input) rfl Relation.ReflTransGen.refl
    | createRun runId => exact around_of_runsKept (createRun_runsKept runId _)
    | moveRun runId status events =>
      exact around_of_runsKept (moveRun_runsKept runId status events _)
    | dispatch deliveryId call => exact dispatch_writes options deliveryId call spares
    | deliverRun taskId calls => exact dispatchEach_writes options _ calls spares
    | drain limit calls => exact dispatchEach_writes options _ calls spares
    | completeWakeRun wakeRunId now refusal =>
      exact perform_ensures (completeWakeRun_writes wakeRunId now refusal spares) rfl
        Relation.ReflTransGen.refl

variable (options : WakeOptions) {condition : SourceTables → SourceOp → Prop}

theorem recorded_of_run (ops : List SourceOp) : Recorded (SourceTasks.reach options ops) := by
  apply run_invariant (SourceTasks.step options) Recorded
  · intro tables op recorded
    have writes := @step_writes False tables options op fun never => never.elim
    exact recorded_of_writes writes recorded
  · exact recorded_empty

/-- A task that has ended has one delivery, however often it is reported. -/
theorem one_delivery_per_task (ops : List SourceOp) : Single (SourceTasks.reach options ops) :=
  (recorded_of_run options ops).single

def Absorbing (selected : DeliveryStatus → Prop) (ops : List SourceOp) : Prop :=
  ∀ earlier later, ops = earlier ++ later →
    Stays selected (SourceTasks.reach options earlier) (SourceTasks.reach options ops)

theorem stays_of_everyStep (stays : ∀ tables op, condition tables op →
      Stays selected tables (SourceTasks.step options tables op)) (tables : SourceTables)
    (ops : List SourceOp) (meets : EveryStep (SourceTasks.step options) condition tables ops) :
    Stays selected tables (run (SourceTasks.step options) tables ops) := by
  induction ops generalizing tables with
  | nil => exact stays_refl selected tables
  | cons op ops ih =>
    obtain ⟨first, rest⟩ := meets
    exact stays_trans (stays tables op first) (ih (SourceTasks.step options tables op) rest)

theorem absorbing_of_everyStep (stays : ∀ tables op, condition tables op →
      Stays selected tables (SourceTasks.step options tables op)) (ops : List SourceOp)
    (meets : EveryStep (SourceTasks.step options) condition SourceTables.empty ops) :
    Absorbing options selected ops := by
  intro earlier later isOps
  subst isOps
  rw [everyStep_append] at meets
  have together := stays_of_everyStep options stays _ later meets.2
  unfold SourceTasks.reach
  rw [run_append]
  exact together

/-- In every run that completes no wake Run of a suppressed delivery, what a delivery says
is true, its task says the same, and DELIVERED and NOT_APPLICABLE are final. -/
theorem delivery_status_kept (ops : List SourceOp)
    (spares : EveryStep (SourceTasks.step options) (Spares options) SourceTables.empty ops) :
    Truthful (SourceTasks.reach options ops) ∧ Mirrored (SourceTasks.reach options ops) ∧
      Absorbing options Final ops := by
  have recorded := recorded_of_run options ops
  refine ⟨recorded.truthful, recorded.mirrored, ?_⟩
  apply absorbing_of_everyStep options _ ops spares
  intro tables op holds
  apply stays_of_writes (leaves_final trivial)
  exact @step_writes True tables options op fun _ => holds

def sampleChild : List SourceOp :=
  .createTask "t1" .doneOnly :: completedChild.map SourceOp.wake

def sampleCancelled : WakeOp :=
  .moveFlow
    { flowId := "f1"
      workspaceId := "main"
      ownerKey := "c1"
      controllerId := "goal.plan"
      status := .cancelled
      cancelRequestedAt := some 7
      revision := 3
      executionRevision := none
      stepRevision := none }

def sampleSuppressed : List SourceOp :=
  sampleChild ++
    [ .wake sampleCancelled,
      .wake (.dispatch "delivery:t1:2" (wakeCall "m1" "r1" (.answers true))),
      .wake (.completeWakeRun "r1" 8 none) ]

theorem sample_suppressed_stays :
    Truthful (SourceTasks.reach hostOptions sampleSuppressed) ∧
      Mirrored (SourceTasks.reach hostOptions sampleSuppressed) ∧
      Absorbing hostOptions Final sampleSuppressed := by
  have isPending : ((run (SourceTasks.step hostOptions) SourceTables.empty
      (sampleSuppressed.take 5)).wakes.deliveries.find "delivery:t1:2").map
        DeliveryRow.deliveryStatus = some .pending := by
    decide +kernel
  have unbound : getByWakeRun (run (SourceTasks.step hostOptions) SourceTables.empty
      (sampleSuppressed.take 6)).wakes "r1" = none := by
    decide +kernel
  apply delivery_status_kept
  refine ⟨trivial, trivial, trivial, trivial, trivial, ?_, ?_, trivial⟩
  · intro current wakeRunId found queued
    change (run (SourceTasks.step hostOptions) SourceTables.empty
      (sampleSuppressed.take 5)).wakes.deliveries.find "delivery:t1:2" = some current at found
    rw [found, Option.map_some, Option.some.injEq, queued] at isPending
    contradiction
  · intro delivery wake isDelivery
    contradiction

def sampleThrown : List SourceOp :=
  sampleChild ++
    [ .wake (.dispatch "delivery:t1:2" (wakeCall "m1" "r1" (.throws "host is stopping"))),
      .wake sampleCancelled,
      .wake (.dispatch "delivery:t1:2" (wakeCall "m2" "r2" (.answers true))) ]

def sampleLate : List SourceOp :=
  [ .wake (.moveRun "r1" .completed
      [ { eventType := "tool.completed"
          toolName := some "task_flow.cancel"
          isError := some false } ]),
    .wake (.completeWakeRun "r1" 9 none) ]

def deliveryStatuses (tables : SourceTables) : List (String × DeliveryStatus) :=
  tables.wakes.deliveries.rows.map (fun row => (row.deliveryId, row.deliveryStatus))

def suppressedDelivery :
    { tables : SourceTables // deliveryStatuses tables =
        [("delivery:t1:2", .notApplicable)] ∧
      deliveryStatuses (run (SourceTasks.step hostOptions) tables sampleLate) =
        [("delivery:t1:2", .delivered)] } :=
  ⟨SourceTasks.reach hostOptions sampleThrown, by decide +kernel⟩

theorem reach_append (options : WakeOptions) (ops later : List SourceOp) :
    SourceTasks.reach options (ops ++ later) =
      run (SourceTasks.step options) (SourceTasks.reach options ops) later :=
  run_append _ _ _ _

theorem sample_suppressed_delivered :
    ¬ Absorbing hostOptions Final (sampleThrown ++ sampleLate) := by
  have statuses := suppressedDelivery.property
  dsimp only [suppressedDelivery] at statuses
  obtain ⟨suppressed, delivered⟩ := statuses
  intro absorbing
  have stays := absorbing sampleThrown sampleLate rfl
  have rowIn : ("delivery:t1:2", Delivery.DeliveryStatus.notApplicable) ∈
      deliveryStatuses (SourceTasks.reach hostOptions sampleThrown) := by
    rw [suppressed]
    exact List.mem_singleton_self _
  obtain ⟨row, rowIn, isRow⟩ := List.mem_map.mp rowIn
  have isSuppressed : row.deliveryStatus = .notApplicable := congrArg Prod.snd isRow
  obtain ⟨later, laterIn, -, sameStatus⟩ := stays row rowIn (Or.inr isSuppressed)
  have shown : (later.deliveryId, later.deliveryStatus) ∈
      deliveryStatuses (SourceTasks.reach hostOptions (sampleThrown ++ sampleLate)) :=
    List.mem_map.mpr ⟨later, laterIn, rfl⟩
  rw [reach_append, delivered, List.mem_singleton] at shown
  have isDelivered : later.deliveryStatus = .delivered := congrArg Prod.snd shown
  have same : (.delivered : Delivery.DeliveryStatus) = .notApplicable :=
    isDelivered.symm.trans (sameStatus.trans isSuppressed)
  exact absurd same (by decide)

end OpenRill.Wakes.DeliveryStatus
