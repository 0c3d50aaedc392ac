import OpenRill.Runs.LedgerRules

/-!
# A run that ended stays as it ended

The status and end time of a terminal run, and the terminal status of its
background task, never change again, as long as no child whose run has ended is
failed as unscheduled: `failChildBeforeStart` looks at the delegation row alone,
where `terminateChild` looks at the run.
-/

namespace OpenRill.Runs.TerminalRuns

open Lib Lib.Runs Lib.Transaction State Ledger Delegations Lifecycle DelegationService Operations
open LedgerRules

variable {runId : String} {store : RunStore} {status : RunStatus} {endedAt : Option Nat}
variable {taskStatus : TaskStatus} {task : TaskRow}

theorem find?_agree {Item : Type} {items : List Item} {first second : Item → Bool}
    (agree : ∀ item ∈ items, first item = second item) :
    items.find? first = items.find? second := by
  induction items with
  | nil => rfl
  | cons item rest ih =>
    rw [List.find?_cons, List.find?_cons, agree item (by simp),
      ih fun other otherIn => agree other (by simp [otherIn])]

theorem runId_of_task (found : getTaskByRun store runId = some task) : task.runId = runId := by
  simpa using List.find?_some found

theorem getTaskByRun_update (store : RunStore) (row : TaskRow)
    (found : getTaskByRun store runId = some task) (sameTask : row.taskId = task.taskId)
    (sameRun : row.runId = task.runId) (wanted : String) :
    getTaskByRun { store with tasks := store.tasks.update row } wanted =
      if wanted = runId then some row else getTaskByRun store wanted := by
  have taskIn : task ∈ store.tasks.rows := List.mem_of_find?_eq_some found
  have ofRun : task.runId = runId := runId_of_task found
  have rewritten : ∀ other ∈ store.tasks.rows, other.taskId = row.taskId → other = task :=
    fun other otherIn same => store.tasks.row_unique otherIn taskIn (same.trans sameTask)
  have sameMatch : ∀ other ∈ store.tasks.rows,
      decide ((if other.taskId = row.taskId then row else other).runId = wanted) =
        decide (other.runId = wanted) := by
    intro other otherIn
    by_cases same : other.taskId = row.taskId
    · rw [if_pos same, sameRun, rewritten other otherIn same]
    · rw [if_neg same]
  have mapped :
      getTaskByRun { store with tasks := store.tasks.update row } wanted =
        (getTaskByRun store wanted).map
          (fun other => if other.taskId = row.taskId then row else other) := by
    simp only [getTaskByRun, Table.update, List.find?_map]
    congr 1
    exact find?_agree sameMatch
  rw [mapped]
  by_cases own : wanted = runId
  · rw [if_pos own, own, found]
    simp [sameTask]
  rw [if_neg own]
  cases other : getTaskByRun store wanted with
  | none => rfl
  | some otherTask =>
    have otherIn : otherTask ∈ store.tasks.rows := List.mem_of_find?_eq_some other
    have different : otherTask.taskId ≠ row.taskId := by
      intro same
      have isTask := rewritten otherTask otherIn same
      rw [isTask] at other
      exact own ((runId_of_task other).symm.trans ofRun)
    simp [different]

theorem getTaskByRun_insert {tasks : Table TaskRow.taskId} {row : TaskRow}
    (done : store.tasks.insert row = some tasks) (found : getTaskByRun store runId = some task) :
    getTaskByRun { store with tasks := tasks } runId = some task := by
  obtain ⟨-, rowsEq⟩ := (store.tasks.insert_some_iff tasks row).mp done
  unfold getTaskByRun at found ⊢
  rw [rowsEq, List.find?_append, found]
  rfl

structure Projected (store reached : RunStore) (input : RunUpdate) : Prop where
  runs : reached.runs = store.runs
  others : ∀ runId, runId ≠ input.runId → getTaskByRun reached runId = getTaskByRun store runId
  own : ∃ task synced, getTaskByRun store input.runId = some task ∧
    getTaskByRun reached input.runId = some synced ∧
    (task.status.terminal = true → synced.status = task.status) ∧
    (task.status.terminal = false → synced.status = projectedStatus store task input)

theorem syncRunLifecycle_projects (rule : CompletionRule) (input : RunUpdate) :
    Ensures (fun current => current = store) (syncRunLifecycle rule input)
      (fun _ reached => Projected store reached input) := by
  refine ensures_inspect_then fun current isStore => ?_
  subst isStore
  simp only [id_eq]
  refine ensures_bind (ensures_expect _ _) fun task => ?_
  refine ensures_of_fact (getTaskByRun current input.runId = some task)
    (fun _ holds => holds.2) fun found => ?_
  by_cases terminal : task.status.terminal = true
  · rw [if_pos terminal]
    refine ensures_pure () ?_
    rintro state ⟨rfl, -⟩
    exact ⟨rfl, fun _ _ => rfl, task, task, found, found, fun _ => rfl, by simp [terminal]⟩
  · rw [if_neg terminal]
    by_cases same : sameProjection task (task.projected rule current input)
    · rw [if_pos same]
      refine ensures_pure () ?_
      rintro state ⟨rfl, -⟩
      exact ⟨rfl, fun _ _ => rfl, task, task, found, found, fun _ => rfl, fun _ => same.1⟩
    · rw [if_neg same]
      refine ensures_bind (ensures_written _ fun _ holds => holds.1) fun _ => ?_
      refine ensures_mono (ensures_demand _ _) (fun _ holds => holds) ?_
      rintro - reached ⟨rfl, -⟩
      have updated := getTaskByRun_update current (task.projected rule current input) found rfl rfl
      refine ⟨rfl, fun runId different => ?_, task, task.projected rule current input, found,
        ?_, ?_, fun _ => rfl⟩
      · rw [updated, if_neg different]
      · rw [updated, if_pos rfl]
      · simp [terminal]

structure Updated (store reached : RunStore) (input : RunUpdate) : Prop where
  otherRuns : ∀ runId, runId ≠ input.runId → reached.runs.find runId = store.runs.find runId
  ownRun : ∃ run, store.runs.find input.runId = some run ∧
    reached.runs.find input.runId = some (run.updatedBy input)
  otherTasks : ∀ runId, runId ≠ input.runId → getTaskByRun reached runId = getTaskByRun store runId
  ownTask : ∃ task synced, getTaskByRun store input.runId = some task ∧
    getTaskByRun reached input.runId = some synced ∧
    (task.status.terminal = true → synced.status = task.status) ∧
    (input.status.terminal = true → synced.status.terminal = true)

theorem projectedStatus_terminal (store : RunStore) (task : TaskRow) (input : RunUpdate)
    (terminal : input.status.terminal = true) :
    (projectedStatus store task input).terminal = true := by
  unfold projectedStatus
  split
  · rfl
  · cases status : input.status with
    | completed => rfl
    | cancelled => rfl
    | failed =>
      dsimp only
      split <;> rfl
    | _ => simp [status, RunStatus.terminal] at terminal

theorem updateRun_updates (rule : CompletionRule) (input : RunUpdate) (store : RunStore) :
    Ensures (fun current => current = store) (updateRun rule input)
      (fun _ reached => Updated store reached input) := by
  refine ensures_inspect_then fun current isStore => ?_
  subst isStore
  refine ensures_bind (ensures_expect _ _) fun run => ?_
  refine ensures_of_fact (current.runs.find input.runId = some run)
    (fun _ holds => holds.2) fun found => ?_
  have sameKey : (run.updatedBy input).runId = input.runId := by
    have ofRun : run.runId = input.runId := current.runs.key_of_find found
    exact ofRun
  have present : current.runs.find (run.updatedBy input).runId = some run := by
    rw [sameKey]
    exact found
  have written : ∀ runId, (current.runs.update (run.updatedBy input)).find runId =
      if (run.updatedBy input).runId = runId then some (run.updatedBy input)
      else current.runs.find runId :=
    fun runId => current.runs.find_update (run.updatedBy input) present runId
  refine ensures_bind (ensures_written _ fun _ holds => holds.1) fun _ => ?_
  refine ensures_mono (syncRunLifecycle_projects rule input) (fun _ holds => holds) ?_
  rintro - reached ⟨runs, others, task, synced, foundTask, foundSynced, kept, projected⟩
  refine ⟨fun runId different => ?_, ⟨run, found, ?_⟩, others, task, synced, foundTask,
    foundSynced, kept, fun terminal => ?_⟩
  · rw [runs, written, sameKey, if_neg (Ne.symm different)]
  · rw [runs, written, if_pos sameKey]
  · cases live : task.status.terminal with
    | true =>
      rw [kept live]
      exact live
    | false =>
      rw [projected live]
      exact projectedStatus_terminal _ _ _ terminal

def TasksFollow (store : RunStore) : Prop :=
  ∀ runId run, store.runs.find runId = some run → run.status.terminal = true →
    ∃ task, getTaskByRun store runId = some task ∧ task.status.terminal = true

structure EndedAs (runId : String) (status : RunStatus) (endedAt : Option Nat)
    (taskStatus : TaskStatus) (store : RunStore) : Prop where
  run : ∃ run, store.runs.find runId = some run ∧ run.status = status ∧ run.endedAt = endedAt
  task : ∃ task, getTaskByRun store runId = some task ∧ task.status = taskStatus

theorem updateRun_keeps_tasksFollow (rule : CompletionRule) (input : RunUpdate) :
    Keeps TasksFollow (updateRun rule input) := by
  refine keeps_of_known (updateRun_updates rule input) ?_
  intro store _ reached kept updated otherId other found terminal
  by_cases own : otherId = input.runId
  · obtain ⟨run, -, written⟩ := updated.ownRun
    obtain ⟨-, synced, -, foundSynced, -, ended⟩ := updated.ownTask
    rw [own, written, Option.some.injEq] at found
    rw [← found] at terminal
    rw [own]
    exact ⟨synced, foundSynced, ended terminal⟩
  · rw [updated.otherRuns otherId own] at found
    rw [updated.otherTasks otherId own]
    exact kept otherId other found terminal

theorem updateRun_keeps_endedAs (rule : CompletionRule) (input : RunUpdate)
    (different : input.runId ≠ runId) :
    Keeps (EndedAs runId status endedAt taskStatus) (updateRun rule input) := by
  refine keeps_of_known (updateRun_updates rule input) ?_
  rintro store _ reached ⟨run, task⟩ updated
  refine ⟨?_, ?_⟩
  · rw [updated.otherRuns runId (Ne.symm different)]
    exact run
  · rw [updated.otherTasks runId (Ne.symm different)]
    exact task

theorem nextEventSequence_stamps (stamped : String) (now : Nat) (store : RunStore) :
    Ensures (fun current => current = store) (nextEventSequence stamped now)
      (fun _ reached =>
        (∀ wanted, getTaskByRun reached wanted = getTaskByRun store wanted) ∧
        ∀ wanted, (reached.runs.find wanted).map (fun run => (run.status, run.endedAt)) =
          (store.runs.find wanted).map (fun run => (run.status, run.endedAt))) := by
  apply nextEventSequence_ensures
  rintro current run rfl _ own
  refine ⟨fun _ => rfl, fun wanted => ?_⟩
  have written := current.runs.find_update
    (run.withEventSequence (run.lastEventSequence + 1) now) own wanted
  rw [written]
  by_cases same : (run.withEventSequence (run.lastEventSequence + 1) now).runId = wanted
  · rw [if_pos same, ← same]
    exact (congrArg (Option.map fun run : RunRow => (run.status, run.endedAt)) own).symm
  · rw [if_neg same]

theorem classifyRun_keeps_status (classified : String) (input : Classification) (now : Nat)
    (store : RunStore) :
    Ensures (fun current => current = store) (classifyRun classified input now)
      (fun _ reached => reached.runs = store.runs ∧
        ∀ wanted, (getTaskByRun reached wanted).map TaskRow.status =
          (getTaskByRun store wanted).map TaskRow.status) := by
  refine ensures_inspect_then fun current isStore => ?_
  subst isStore
  simp only [id_eq]
  refine ensures_bind (ensures_expect _ _) fun task => ?_
  refine ensures_of_fact (getTaskByRun current classified = some task)
    (fun _ holds => holds.2) fun found => ?_
  split
  next =>
    refine ensures_pure () ?_
    rintro state ⟨rfl, -⟩
    exact ⟨rfl, fun _ => rfl⟩
  next =>
    refine ensures_mono (ensures_written _ fun _ holds => holds.1) (fun _ holds => holds) ?_
    rintro - reached rfl
    refine ⟨rfl, fun wanted => ?_⟩
    have updated := getTaskByRun_update current
      (task.classifiedAs input (parentTaskOf current task input.parentRunId) now)
      found rfl rfl wanted
    rw [updated]
    by_cases own : wanted = classified
    · rw [if_pos own, own, found]
      rfl
    · rw [if_neg own]

theorem insertRun_inserts (row : RunRow) (store : RunStore) :
    Ensures (fun current => current = store) (insertRun row)
      (fun _ reached => (∀ wanted, reached.runs.find wanted =
          if row.runId = wanted then some row else store.runs.find wanted) ∧
        store.runs.find row.runId = none ∧
        ∀ wanted task, getTaskByRun store wanted = some task →
          getTaskByRun reached wanted = some task) := by
  apply insertRun_ensures
    fun middle => ∃ runs, store.runs.insert row = some runs ∧ middle = { store with runs := runs }
  · rintro state runs rfl inserted
    exact ⟨runs, inserted, rfl⟩
  rintro middle task tasks ⟨runs, inserted, rfl⟩ isTasks
  refine ⟨fun wanted => store.runs.find_insert runs row wanted inserted, ?_, ?_⟩
  · rw [store.runs.find_none_iff]
    exact ((store.runs.insert_some_iff runs row).mp inserted).1
  · intro wanted task found
    have middleFound : getTaskByRun { store with runs := runs } wanted = some task := found
    exact getTaskByRun_insert isTasks middleFound

variable (rule : CompletionRule)

theorem tasksFollow_rules : WriteRules rule TasksFollow where
  unrelated store changed runs tasks kept := by
    intro otherId other found terminal
    rw [runs] at found
    have same : getTaskByRun changed otherId = getTaskByRun store otherId := by
      unfold getTaskByRun
      rw [tasks]
    rw [same]
    exact kept otherId other found terminal
  stamped stamped now := by
    refine keeps_of_known (nextEventSequence_stamps stamped now) ?_
    rintro store _ reached kept ⟨sameTasks, sameRuns⟩ otherId other found terminal
    have same := sameRuns otherId
    rw [found] at same
    obtain ⟨before, foundBefore, sameStatus⟩ := Option.map_eq_some_iff.mp same.symm
    rw [sameTasks]
    apply kept otherId before foundBefore
    rw [(Prod.mk.inj sameStatus).1]
    exact terminal
  inserted row live := by
    refine keeps_of_known (insertRun_inserts row) ?_
    rintro store _ reached kept ⟨runs, -, tasks⟩ otherId other found terminal
    rw [runs] at found
    by_cases own : row.runId = otherId
    · rw [if_pos own, Option.some.injEq] at found
      rw [found, terminal] at live
      cases live
    · rw [if_neg own] at found
      obtain ⟨task, foundTask, ended⟩ := kept otherId other found terminal
      exact ⟨task, tasks otherId task foundTask, ended⟩
  classified classified input now := by
    refine keeps_of_known (classifyRun_keeps_status classified input now) ?_
    rintro store _ reached kept ⟨runs, tasks⟩ otherId other found terminal
    rw [runs] at found
    obtain ⟨task, foundTask, ended⟩ := kept otherId other found terminal
    have same := tasks otherId
    rw [foundTask] at same
    obtain ⟨after, foundAfter, sameStatus⟩ := Option.map_eq_some_iff.mp same
    exact ⟨after, foundAfter, by rw [sameStatus]; exact ended⟩
  updated _ _ input _ _ _ := updateRun_keeps_tasksFollow rule input

theorem endedAs_rules (terminal : status.terminal = true) :
    WriteRules rule (EndedAs runId status endedAt taskStatus) where
  unrelated store changed runs tasks := by
    rintro ⟨run, task⟩
    refine ⟨by rw [runs]; exact run, ?_⟩
    unfold getTaskByRun at task ⊢
    rw [tasks]
    exact task
  stamped stamped now := by
    refine keeps_of_known (nextEventSequence_stamps stamped now) ?_
    rintro store _ reached ⟨⟨run, found, isStatus, isEnd⟩, task⟩ ⟨sameTasks, sameRuns⟩
    have same := sameRuns runId
    rw [found] at same
    obtain ⟨after, foundAfter, sameEnd⟩ := Option.map_eq_some_iff.mp same
    have both := Prod.mk.inj sameEnd
    refine ⟨⟨after, foundAfter, both.1.trans isStatus, both.2.trans isEnd⟩, ?_⟩
    rw [sameTasks]
    exact task
  inserted row _ := by
    refine keeps_of_known (insertRun_inserts row) ?_
    rintro store _ reached ⟨⟨run, found, ended⟩, ⟨task, foundTask, isStatus⟩⟩ ⟨runs, fresh, tasks⟩
    have different : row.runId ≠ runId := by
      intro same
      rw [same, found] at fresh
      cases fresh
    refine ⟨⟨run, ?_, ended⟩, ⟨task, tasks runId task foundTask, isStatus⟩⟩
    rw [runs, if_neg different]
    exact found
  classified classified input now := by
    refine keeps_of_known (classifyRun_keeps_status classified input now) ?_
    rintro store _ reached ⟨run, task, foundTask, isStatus⟩ ⟨runs, tasks⟩
    have same := tasks runId
    rw [foundTask] at same
    obtain ⟨after, foundAfter, sameStatus⟩ := Option.map_eq_some_iff.mp same
    exact ⟨by rw [runs]; exact run, ⟨after, foundAfter, sameStatus.trans isStatus⟩⟩
  updated store row input kept found live := by
    apply updateRun_keeps_endedAs
    intro same
    obtain ⟨run, foundRun, isStatus, -⟩ := kept.run
    rw [same, foundRun, Option.some.injEq] at found
    rw [← found, isStatus, terminal] at live
    cases live

variable {options : RunOptions}

/-- The delegation, while it is active, has a child whose run has not ended. -/
def ChildUnfinished (delegationId : String) (tables : RunTables) : Prop :=
  ∀ delegation run, tables.delegations.delegations.find delegationId = some delegation →
    delegation.status.active = true →
    tables.ledger.runs.find delegation.childRunId = some run → run.status.terminal = false

/-- Only a child whose run has not ended is failed as unscheduled. -/
def SparesEndedChildren (tables : RunTables) : RunOp → Prop
  | .failChildBeforeStart delegationId _ _ => ChildUnfinished delegationId tables
  | _ => True

theorem step_tasksFollow (tables : RunTables) (op : RunOp)
    (kept : OnLedger TasksFollow tables) : OnLedger TasksFollow (step options tables op) := by
  have rules := tasksFollow_rules options.completionRule
  refine step_keeps rules tables op ?_ kept
  rintro delegationId errorCode call rfl
  refine perform_keeps (failChildBeforeStart_ensures (entryRules_of_writeRules rules)
    (fun _ holds => holds) _ _ _ _ ?_) kept
  exact fun _ _ _ input _ _ _ _ _ _ => updateRun_keeps_tasksFollow _ input

theorem step_endedAs (terminal : status.terminal = true) (tables : RunTables) (op : RunOp)
    (spares : SparesEndedChildren tables op)
    (kept : OnLedger (EndedAs runId status endedAt taskStatus) tables) :
    OnLedger (EndedAs runId status endedAt taskStatus) (step options tables op) := by
  have rules : WriteRules options.completionRule (EndedAs runId status endedAt taskStatus) :=
    endedAs_rules _ terminal
  refine step_keeps rules tables op ?_ kept
  rintro delegationId errorCode call rfl
  have failed : Ensures
      (fun state => OnLedger (EndedAs runId status endedAt taskStatus) state ∧
        ChildUnfinished delegationId state)
      (failChildBeforeStart options delegationId errorCode call.now call.createId)
      (fun _ => OnLedger (EndedAs runId status endedAt taskStatus)) := by
    refine failChildBeforeStart_ensures (entryRules_of_writeRules rules)
      (fun _ holds => holds.1) _ _ _ _ ?_
    rintro state delegation run input ⟨ended, unfinished⟩ found active foundRun isRun -
    have live := unfinished delegation run found active foundRun
    have own : state.ledger.runs.find input.runId = some run := by
      rw [isRun]
      exact state.ledger.runs.find_self foundRun
    exact rules.updated state.ledger run input ended own live
  exact perform_ensures failed ⟨kept, spares⟩ kept

/-- Whatever operations succeed or fail, the background task of a run that has ended has
ended. -/
theorem ended_run_ends_task (options : RunOptions) (ops : List RunOp) :
    TasksFollow (reach options ops).ledger := by
  refine run_invariant (step options) (OnLedger TasksFollow)
    (fun tables op kept => step_tasksFollow tables op kept) RunTables.empty ops ?_
  intro runId run absent
  cases absent

/-- A run that has ended keeps its status and its end time, and its background
task its terminal status, through operations that fail no unscheduled child whose
run has ended. -/
theorem ended_run_stays (earlier later : List RunOp) (runId : String) (run : RunRow)
    (found : (reach options earlier).ledger.runs.find runId = some run)
    (terminal : run.status.terminal = true)
    (spares : EveryStep (step options) SparesEndedChildren (reach options earlier) later) :
    ∃ task, getTaskByRun (reach options earlier).ledger runId = some task ∧
      task.status.terminal = true ∧
      EndedAs runId run.status run.endedAt task.status
        (reach options (earlier ++ later)).ledger := by
  have followed : OnLedger TasksFollow (reach options earlier) := by
    refine run_invariant (step options) (OnLedger TasksFollow)
      (fun tables op kept => step_tasksFollow tables op kept) RunTables.empty earlier ?_
    intro otherId other absent
    cases absent
  obtain ⟨task, foundTask, ended⟩ := followed runId run found terminal
  refine ⟨task, foundTask, ended, ?_⟩
  unfold reach at found foundTask spares ⊢
  rw [run_append]
  exact run_invariant_of_everyStep (step options) SparesEndedChildren
    (OnLedger (EndedAs runId run.status run.endedAt task.status))
    (fun tables op meets kept => step_endedAs terminal tables op meets kept) _ later
    ⟨⟨run, found, rfl, rfl⟩, ⟨task, foundTask, rfl⟩⟩ spares

/-- Every run that has ended after some of the operations has the same status,
end time and terminal task status after all of them. -/
def StaysEnded (options : RunOptions) (ops : List RunOp) : Prop :=
  ∀ earlier later runId run, ops = earlier ++ later →
    (reach options earlier).ledger.runs.find runId = some run → run.status.terminal = true →
    ∃ task, getTaskByRun (reach options earlier).ledger runId = some task ∧
      task.status.terminal = true ∧
      EndedAs runId run.status run.endedAt task.status (reach options ops).ledger

theorem terminal_status_absorbing (options : RunOptions) (ops : List RunOp)
    (spares : EveryStep (step options) SparesEndedChildren RunTables.empty ops) :
    StaysEnded options ops := by
  intro earlier later runId run split found terminal
  rw [split] at spares ⊢
  obtain ⟨-, sparesLater⟩ :=
    (everyStep_append (step options) SparesEndedChildren RunTables.empty earlier later).mp spares
  exact ended_run_stays earlier later runId run found terminal sparesLater

def cancelChildRun : RunOp :=
  .cancel
    { workspaceId := "main", conversationId := "c2", runId := "r2" }
    (callAt 4 ["e3"])

def failUnscheduled : RunOp :=
  .failChildBeforeStart "d1" "DELEGATION_SCHEDULER_UNAVAILABLE" (callAt 5 ["e4"])

theorem unscheduled_child_stays_failed :
    StaysEnded mainHost (delegatedOps ++ [failUnscheduled, cancelChildRun]) :=
  terminal_status_absorbing mainHost (delegatedOps ++ [failUnscheduled, cancelChildRun]) (by
    have unfinished : ChildUnfinished "d1" (reach mainHost delegatedOps) := by
      intro delegation run found _ foundRun
      have child : ((reach mainHost delegatedOps).delegations.delegations.find "d1").map
          DelegationRow.childRunId = some "r2" := by decide +kernel
      have live : ((reach mainHost delegatedOps).ledger.runs.find "r2").map RunRow.status =
          some .created := by decide +kernel
      rw [found, Option.map_some, Option.some.injEq] at child
      rw [child] at foundRun
      rw [foundRun, Option.map_some, Option.some.injEq] at live
      rw [live]
      rfl
    exact ⟨trivial, trivial, trivial, trivial, unfinished, trivial, trivial⟩)

/-- The child's run was cancelled, and its scheduling then failed: the cancelled
run becomes `FAILED` with a new end time. -/
theorem cancelled_child_overwritten :
    ¬ StaysEnded mainHost (delegatedOps ++ [cancelChildRun, failUnscheduled]) := by
  intro stays
  have cancelled : ((reach mainHost (delegatedOps ++ [cancelChildRun])).ledger.runs.find
      "r2").map (fun run => (run.status, run.endedAt)) = some (.cancelled, some 4) := by
    decide +kernel
  have overwritten : ((reach mainHost
      (delegatedOps ++ [cancelChildRun, failUnscheduled])).ledger.runs.find "r2").map
        (fun run => (run.status, run.endedAt)) = some (.failed, some 5) := by
    decide +kernel
  obtain ⟨run, found, facts⟩ := Option.map_eq_some_iff.mp cancelled
  obtain ⟨after, foundAfter, factsAfter⟩ := Option.map_eq_some_iff.mp overwritten
  simp only [Prod.mk.injEq] at facts factsAfter
  obtain ⟨-, -, -, ⟨kept, foundKept, sameStatus, -⟩, -⟩ :=
    stays (delegatedOps ++ [cancelChildRun]) [failUnscheduled] "r2" run (by simp) found
      (by rw [facts.1]; rfl)
  rw [foundAfter, Option.some.injEq] at foundKept
  rw [← foundKept, factsAfter.1, facts.1] at sameStatus
  cases sameStatus

end OpenRill.Runs.TerminalRuns
