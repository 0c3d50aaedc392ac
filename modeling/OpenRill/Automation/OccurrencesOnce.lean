import OpenRill.Automation.LeaseSteps
import OpenRill.Automation.Scheduler
import OpenRill.Lib.Runs

/-!
# Every materialized occurrence and its run row

The table holds at most one run row for a job and an instant, and no call
deletes a row or moves it to another instant or trigger. What a plan
materializes therefore has its SCHEDULED row from then on, unless a manual run
already stood at that instant: the insert of the plan then does nothing, and
the cursor of the job moves past the instant all the same.
-/

namespace OpenRill.Automation.OccurrencesOnce

open Lib Lib.Checked Lib.Runs
open OpenRill.Automation.Ledger hiding step
open RunWrites LeaseSteps Schedule Scheduler

variable {after tables before : AutomationTables} {occurrence : String × Nat}
variable {row : AutomationRunRow}

def occurrenceOf (row : AutomationRunRow) : String × Nat := (row.jobId, row.scheduledFor)

def rowsAt (tables : AutomationTables) (occurrence : String × Nat) (trigger : TriggerKind) :
    List AutomationRunRow :=
  tables.runs.rows.filter (fun row =>
    decide (occurrenceOf row = occurrence ∧ row.triggerKind = trigger))

/-- The occurrence has exactly one SCHEDULED run row, and no manual run stands in
its place. -/
def MaterializedOnce (tables : AutomationTables) (occurrence : String × Nat) : Prop :=
  (rowsAt tables occurrence .scheduled).length = 1 ∧ rowsAt tables occurrence .manual = []

instance (tables : AutomationTables) (occurrence : String × Nat) :
    Decidable (MaterializedOnce tables occurrence) :=
  inferInstanceAs (Decidable (_ ∧ _))

/-- `UNIQUE (job_id, scheduled_for)`. -/
def OnePerOccurrence (tables : AutomationTables) : Prop :=
  ∀ first ∈ tables.runs.rows, ∀ second ∈ tables.runs.rows,
    occurrenceOf first = occurrenceOf second → first = second

def OccurrencesKept (before after : AutomationTables) : Prop :=
  ∀ row ∈ before.runs.rows, ∃ later ∈ after.runs.rows,
    occurrenceOf later = occurrenceOf row ∧ later.triggerKind = row.triggerKind

def Scheduled (tables : AutomationTables) (occurrence : String × Nat) : Prop :=
  ∃ row ∈ tables.runs.rows, occurrenceOf row = occurrence ∧ row.triggerKind = .scheduled

theorem occurrencesKept_refl (tables : AutomationTables) : OccurrencesKept tables tables :=
  fun row rowIn => ⟨row, rowIn, rfl, rfl⟩

theorem occurrencesKept_trans {first second third : AutomationTables}
    (earlier : OccurrencesKept first second) (later : OccurrencesKept second third) :
    OccurrencesKept first third := by
  intro row rowIn
  obtain ⟨middle, middleIn, sameOccurrence, sameTrigger⟩ := earlier row rowIn
  obtain ⟨last, lastIn, lastOccurrence, lastTrigger⟩ := later middle middleIn
  exact ⟨last, lastIn, lastOccurrence.trans sameOccurrence, lastTrigger.trans sameTrigger⟩

theorem scheduled_of_kept (kept : OccurrencesKept before after)
    (scheduled : Scheduled before occurrence) : Scheduled after occurrence := by
  obtain ⟨row, rowIn, stands, trigger⟩ := scheduled
  obtain ⟨later, laterIn, sameOccurrence, sameTrigger⟩ := kept row rowIn
  exact ⟨later, laterIn, sameOccurrence.trans stands, sameTrigger.trans trigger⟩

theorem materializedOnce_iff (unique : OnePerOccurrence tables) (occurrence : String × Nat) :
    MaterializedOnce tables occurrence ↔ Scheduled tables occurrence := by
  constructor
  · intro once
    obtain ⟨row, only⟩ := List.length_eq_one_iff.mp once.1
    have rowIn : row ∈ rowsAt tables occurrence .scheduled := by
      rw [only]
      exact List.mem_singleton_self row
    simp only [rowsAt, List.mem_filter, decide_eq_true_eq] at rowIn
    exact ⟨row, rowIn.1, rowIn.2.1, rowIn.2.2⟩
  · rintro ⟨row, rowIn, stands, trigger⟩
    have listed : row ∈ rowsAt tables occurrence .scheduled := by
      simp only [rowsAt, List.mem_filter, decide_eq_true_eq]
      exact ⟨rowIn, stands, trigger⟩
    constructor
    · have distinct : (rowsAt tables occurrence .scheduled).Nodup :=
        (tables.runs.keysNodup.of_map).filter _
      have same : ∀ other ∈ rowsAt tables occurrence .scheduled, other = row := by
        intro other otherIn
        simp only [rowsAt, List.mem_filter, decide_eq_true_eq] at otherIn
        exact unique other otherIn.1 row rowIn (otherIn.2.1.trans stands.symm)
      have repeated := List.eq_replicate_of_mem same
      rw [repeated] at distinct
      have atMost := List.nodup_replicate.mp distinct
      have atLeast := List.length_pos_of_mem listed
      omega
    · simp only [rowsAt, List.filter_eq_nil_iff, decide_eq_true_eq, not_and]
      intro other otherIn otherStands manual
      rw [unique other otherIn row rowIn (otherStands.trans stands.symm), trigger] at manual
      simp at manual

theorem insert_kept (inserted : before.runs.insert row = some after.runs) :
    OccurrencesKept before after := by
  obtain ⟨-, rows⟩ := (before.runs.insert_some_iff _ row).mp inserted
  intro old oldIn
  exact ⟨old, by simp [rows, oldIn], rfl, rfl⟩

theorem insert_unique (free : getRunBySchedule before row.jobId row.scheduledFor = none)
    (inserted : before.runs.insert row = some after.runs) (unique : OnePerOccurrence before) :
    OnePerOccurrence after := by
  obtain ⟨-, rows⟩ := (before.runs.insert_some_iff _ row).mp inserted
  have alone : ∀ other ∈ before.runs.rows, occurrenceOf other ≠ occurrenceOf row := by
    intro other otherIn same
    have none := List.find?_eq_none.mp free other otherIn
    simp only [occurrenceOf, Prod.mk.injEq] at same
    simp [same.1, same.2] at none
  intro first firstIn second secondIn same
  rw [rows, List.mem_append, List.mem_singleton] at firstIn secondIn
  rcases firstIn with firstIn | rfl
  · rcases secondIn with secondIn | rfl
    · exact unique first firstIn second secondIn same
    · exact absurd same (alone first firstIn)
  · rcases secondIn with secondIn | rfl
    · exact absurd same.symm (alone second secondIn)
    · rfl

theorem update_kept {current : AutomationRunRow}
    (present : before.runs.find current.automationRunId = some current)
    (sameRun : row.automationRunId = current.automationRunId)
    (sameOccurrence : occurrenceOf row = occurrenceOf current)
    (sameTrigger : row.triggerKind = current.triggerKind)
    (runs : after.runs = before.runs.update row) :
    OccurrencesKept before after ∧ (OnePerOccurrence before → OnePerOccurrence after) := by
  have old : before.runs.find row.automationRunId = some current := by
    rw [sameRun]
    exact present
  have members := before.runs.mem_update_iff row old
  rw [← runs] at members
  have currentIn := before.runs.mem_of_find present
  constructor
  · intro other otherIn
    by_cases isRow : other.automationRunId = row.automationRunId
    · have same : other = current := before.runs.row_unique otherIn currentIn (isRow.trans sameRun)
      subst same
      exact ⟨row, (members row).mpr (Or.inl rfl), sameOccurrence, sameTrigger⟩
    · exact ⟨other, (members other).mpr (Or.inr ⟨otherIn, isRow⟩), rfl, rfl⟩
  · intro unique first firstIn second secondIn same
    rcases (members first).mp firstIn with rfl | ⟨firstIn, firstOther⟩
    · rcases (members second).mp secondIn with rfl | ⟨secondIn, secondOther⟩
      · rfl
      · have isCurrent := unique current currentIn second secondIn (sameOccurrence.symm.trans same)
        exact absurd (isCurrent ▸ sameRun.symm) secondOther
    · rcases (members second).mp secondIn with rfl | ⟨secondIn, secondOther⟩
      · have isCurrent := unique first firstIn current currentIn (same.trans sameOccurrence)
        exact absurd (isCurrent ▸ sameRun.symm) firstOther
      · exact unique first firstIn second secondIn same

theorem automationStep_occurrences (change : AutomationStep before after) :
    OccurrencesKept before after ∧ (OnePerOccurrence before → OnePerOccurrence after) := by
  cases change with
  | writeJob runs history kept failures =>
    unfold OccurrencesKept OnePerOccurrence
    rw [runs]
    exact ⟨occurrencesKept_refl before, id⟩
  | insertRun row jobs known unstarted unclaimed free inserted history =>
    exact ⟨insert_kept inserted, insert_unique free inserted⟩
  | moveRun current row extra jobs present sameRun sameJob sameSlot wasLive live moved runs
      history =>
      exact update_kept present sameRun (Prod.ext sameJob sameSlot.1) sameSlot.2 runs
  | endRun current row extra present sameRun sameJob sameSlot sameAttempt wasLive ended
      released by_whom runs history kept failures =>
      exact update_kept present sameRun (Prod.ext sameJob sameSlot.1) sameSlot.2 runs

theorem automationPath_occurrences (path : AutomationPath before after) :
    OccurrencesKept before after ∧ (OnePerOccurrence before → OnePerOccurrence after) := by
  induction path with
  | refl => exact ⟨occurrencesKept_refl before, id⟩
  | tail _ change ih =>
    obtain ⟨kept, unique⟩ := automationStep_occurrences change
    exact ⟨occurrencesKept_trans ih.1 kept, unique ∘ ih.2⟩

theorem ledgerStep_occurrences (tables : AutomationTables) (op : AutomationOp) :
    OccurrencesKept tables (Ledger.step tables op) ∧
      (OnePerOccurrence tables → OnePerOccurrence (Ledger.step tables op)) := by
  by_cases keepsRuntime : ∀ jobId, ¬ Resets jobId op
  · exact automationPath_occurrences (step_path tables op keepsRuntime)
  · cases op with
    | updateJobRuntime input =>
      apply commit_preserves
        (fun reached => OccurrencesKept tables reached ∧
          (OnePerOccurrence tables → OnePerOccurrence reached)) tables _
        ⟨occurrencesKept_refl tables, id⟩
      intro reached result done
      have runs := (updateJobRuntime_effect done).1
      unfold OccurrencesKept OnePerOccurrence
      rw [runs]
      exact ⟨occurrencesKept_refl tables, id⟩
    | _ => exact absurd (fun _ resets => resets) keepsRuntime

variable {stored : List AutomationRunRow}

theorem insertRun_effect {stored : AutomationRunRow} {created : Bool}
    (done : insertRun tables row = .ok (after, created, stored)) :
    (∃ taken ∈ after.runs.rows, occurrenceOf taken = occurrenceOf row) ∧
      ∀ other ∈ after.runs.rows, other ∈ tables.runs.rows ∨ other = row := by
  unfold insertRun at done
  split at done
  next found =>
    obtain ⟨rfl, -, -⟩ := done
    have foundIn := List.mem_of_find?_eq_some found
    have stands := List.find?_some found
    simp only [decide_eq_true_eq] at stands
    exact ⟨⟨_, foundIn, Prod.ext stands.1 stands.2⟩, fun other otherIn => Or.inl otherIn⟩
  · simp only [bind_ok_iff, fetch_ok_iff, pure_ok_iff, Prod.mk.injEq] at done
    obtain ⟨-, -, -, -, runs, inserted, rfl, -⟩ := done
    obtain ⟨-, rows⟩ := (tables.runs.insert_some_iff _ row).mp inserted
    constructor
    · exact ⟨row, by simp [rows], rfl⟩
    · intro other otherIn
      simpa [rows] using otherIn

theorem insertRuns_effect {rows : List AutomationRunRow} (unstarted : ∀ row ∈ rows, Unstarted row)
    (done : insertRuns tables rows = .ok (after, stored)) :
    (∀ row ∈ rows, ∃ taken ∈ after.runs.rows, occurrenceOf taken = occurrenceOf row) ∧
      ∀ other ∈ after.runs.rows, other ∈ tables.runs.rows ∨ other ∈ rows := by
  induction rows generalizing tables stored with
  | nil =>
    obtain ⟨rfl, -⟩ := done
    exact ⟨by simp, fun other otherIn => Or.inl otherIn⟩
  | cons row rows ih =>
    simp only [insertRuns, bind_ok_iff, pure_ok_iff, Prod.mk.injEq] at done
    obtain ⟨first, firstDone, rest, restDone, rfl, -⟩ := done
    have restUnstarted : ∀ other ∈ rows, Unstarted other :=
      fun other otherIn => unstarted other (by simp [otherIn])
    obtain ⟨⟨taken, takenIn, stands⟩, firstRows⟩ := insertRun_effect firstDone
    obtain ⟨restTaken, restRows⟩ := ih restUnstarted restDone
    have kept := (automationPath_occurrences
      (insertRuns_walks path_inserts rows restUnstarted restDone).1).1
    constructor
    · intro other otherIn
      rcases List.mem_cons.mp otherIn with rfl | otherIn
      · obtain ⟨later, laterIn, sameOccurrence, -⟩ := kept taken takenIn
        exact ⟨later, laterIn, sameOccurrence.trans stands⟩
      · exact restTaken other otherIn
    · intro other otherIn
      rcases restRows other otherIn with earlier | new
      · rcases firstRows other earlier with old | rfl
        · exact Or.inl old
        · exact Or.inr (by simp)
      · exact Or.inr (by simp [new])

theorem materializeDueJob_effect {input : MaterializeInput}
    (done : materializeDueJob tables input = .ok (after, some stored)) :
    (∀ occurrence ∈ input.occurrences, ∃ taken ∈ after.runs.rows,
      occurrenceOf taken = (input.jobId, occurrence.scheduledFor)) ∧
      ∀ other ∈ after.runs.rows, other ∈ tables.runs.rows ∨ other.triggerKind = .scheduled := by
  unfold materializeDueJob at done
  split at done
  · simp at done
  next current found =>
    split at done
    · simp only [bind_ok_iff, pure_ok_iff, Prod.mk.injEq] at done
      obtain ⟨inserted, insertDone, rfl, -⟩ := done
      obtain ⟨taken, rows⟩ := insertRuns_effect (unstarted_occurrences _ _ _) insertDone
      constructor
      · intro occurrence occurrenceIn
        exact taken (occurrence.toRow input.jobId input.updatedAt)
          (List.mem_map_of_mem occurrenceIn)
      · intro other otherIn
        rcases rows other otherIn with old | new
        · exact Or.inl old
        · obtain ⟨occurrence, -, rfl⟩ := List.mem_map.mp new
          exact Or.inr rfl
    · simp at done

theorem instant_of_plan {plan : WakePlan} (createId : Nat → String) {instant : Nat}
    (planned : instant ∈ plan.instants) :
    ∃ occurrence ∈ planOccurrences plan createId, occurrence.scheduledFor = instant := by
  have listed : ∃ skipped, (instant, skipped) ∈
      plan.pending.map (fun instant => (instant, false)) ++
        plan.skipped.map (fun instant => (instant, true)) := by
    rcases List.mem_append.mp planned with pending | skipped
    · exact ⟨false, by simp [pending]⟩
    · exact ⟨true, by simp [skipped]⟩
  obtain ⟨skipped, entryIn⟩ := listed
  obtain ⟨index, bound, isEntry⟩ := List.mem_iff_getElem.mp entryIn
  refine ⟨_, List.mem_mapIdx.mpr ⟨index, bound, rfl⟩, ?_⟩
  simp only [isEntry]

variable (zonedParts : String → Nat → Option ZonedParts)

def materializes (state : SchedulerState) : SchedulerOp → List (String × Nat)
  | .materialize ownerId createId =>
    match nextTurn state ownerId with
    | none => []
    | some (wake, job, definition) =>
      match materialized zonedParts state.tables wake job definition createId with
      | none => []
      | some (_, occurrences) => occurrences
  | _ => []

/-- No manual run stands at an instant that the call materializes. -/
def Unoccupied (state : SchedulerState) (op : SchedulerOp) : Prop :=
  ∀ occurrence ∈ materializes zonedParts state op, rowsAt state.tables occurrence .manual = []

variable {zonedParts}

theorem materialized_effect {reached : AutomationTables} {wake : Wake} {job : JobRow}
    {definition : JobDefinition} {createId : Nat → String} {occurrences : List (String × Nat)}
    (done : materialized zonedParts tables wake job definition createId =
      some (reached, occurrences)) :
    (OccurrencesKept tables reached ∧ (OnePerOccurrence tables → OnePerOccurrence reached)) ∧
      ((∀ occurrence ∈ occurrences, ∃ taken ∈ reached.runs.rows,
          occurrenceOf taken = occurrence) ∧
        (occurrences = [] ∨ ∀ other ∈ reached.runs.rows,
          other ∈ tables.runs.rows ∨ other.triggerKind = .scheduled)) := by
  unfold materialized at done
  split at done
  · simp at done
  next plan planned =>
    split at done
    · simp at done
    next committed =>
      obtain ⟨rfl, rfl⟩ := done
      have path := materializeDueJob_walks path_inserts committed
      exact ⟨automationPath_occurrences path, by simp, Or.inl rfl⟩
    next stored committed =>
      obtain ⟨rfl, rfl⟩ := done
      obtain ⟨taken, rows⟩ := materializeDueJob_effect committed
      have path := materializeDueJob_walks path_inserts committed
      refine ⟨automationPath_occurrences path, ?_, Or.inr rows⟩
      intro occurrence occurrenceIn
      obtain ⟨instant, instantIn, rfl⟩ := List.mem_map.mp occurrenceIn
      obtain ⟨entry, entryIn, rfl⟩ := instant_of_plan createId instantIn
      exact taken entry entryIn

theorem step_occurrences (state : SchedulerState) (op : SchedulerOp) :
    (OccurrencesKept state.tables (step zonedParts state op).tables ∧
      (OnePerOccurrence state.tables → OnePerOccurrence (step zonedParts state op).tables)) ∧
      (step zonedParts state op).planned = state.planned ++ materializes zonedParts state op := by
  have untouched : OccurrencesKept state.tables state.tables ∧
      (OnePerOccurrence state.tables → OnePerOccurrence state.tables) :=
    ⟨occurrencesKept_refl _, id⟩
  cases op with
  | create jobId name enabled definition now =>
    simp only [step, create, materializes, List.append_nil]
    split
    · exact ⟨untouched, rfl⟩
    split
    · exact ⟨untouched, rfl⟩
    next tables row inserted =>
      exact ⟨automationPath_occurrences
        (Relation.ReflTransGen.single (insertJob_step rfl inserted)), rfl⟩
  | update jobId expectedRevision name enabled definition now =>
    simp only [step, update, materializes, List.append_nil]
    split
    · exact ⟨untouched, rfl⟩
    split
    · exact ⟨untouched, rfl⟩
    next tables row updated =>
      exact ⟨automationPath_occurrences (updateJobConfig_path updated), rfl⟩
  | wake ownerId startup now dueJobLimit =>
    simp only [step, Scheduler.wake, materializes, List.append_nil]
    split
    · exact ⟨untouched, rfl⟩
    · exact ⟨untouched, rfl⟩
  | materialize ownerId createId =>
    simp only [step, materialize, materializes]
    cases turn : nextTurn state ownerId with
    | none => exact ⟨untouched, (List.append_nil _).symm⟩
    | some next =>
      obtain ⟨wake, job, definition⟩ := next
      simp only
      cases done : materialized zonedParts state.tables wake job definition createId with
      | none => exact ⟨untouched, (List.append_nil _).symm⟩
      | some committed => exact ⟨(materialized_effect done).1, rfl⟩
  | restart ownerId => exact ⟨untouched, (List.append_nil _).symm⟩
  | ledger call =>
    exact ⟨ledgerStep_occurrences state.tables call.toOp, (List.append_nil _).symm⟩

theorem scheduled_of_unoccupied (state : SchedulerState) (op : SchedulerOp)
    (unoccupied : Unoccupied zonedParts state op)
    (materializedNow : occurrence ∈ materializes zonedParts state op) :
    Scheduled (step zonedParts state op).tables occurrence := by
  have free := unoccupied occurrence materializedNow
  cases op with
  | materialize ownerId createId =>
    cases turn : nextTurn state ownerId with
    | none => simp [materializes, turn] at materializedNow
    | some next =>
      obtain ⟨wake, job, definition⟩ := next
      cases done : materialized zonedParts state.tables wake job definition createId with
      | none => simp [materializes, turn, done] at materializedNow
      | some committed =>
        obtain ⟨tables, occurrences⟩ := committed
        simp only [materializes, turn, done] at materializedNow
        simp only [step, materialize, turn, done]
        obtain ⟨-, taken, rows⟩ := materialized_effect done
        obtain ⟨row, rowIn, stands⟩ := taken occurrence materializedNow
        refine ⟨row, rowIn, stands, ?_⟩
        rcases rows with empty | rows
        · simp [empty] at materializedNow
        rcases rows row rowIn with old | scheduled
        · have notManual := List.filter_eq_nil_iff.mp free row old
          simp only [decide_eq_true_eq, not_and] at notManual
          cases trigger : row.triggerKind with
          | scheduled => rfl
          | manual => exact absurd trigger (notManual stands)
        · exact scheduled
  | _ => simp [materializes] at materializedNow

theorem run_occurrences (state : SchedulerState) (ops : List SchedulerOp) :
    OccurrencesKept state.tables (run (step zonedParts) state ops).tables :=
  run_relates (step zonedParts) (fun _ => True)
    (fun before after => OccurrencesKept before.tables after.tables)
    (fun state => occurrencesKept_refl state.tables)
    (fun _ _ _ => occurrencesKept_trans)
    (fun _ _ _ => trivial) (fun reached op _ => (step_occurrences reached op).1.1) state ops trivial

theorem run_unique (state : SchedulerState) (ops : List SchedulerOp)
    (unique : OnePerOccurrence state.tables) :
    OnePerOccurrence (run (step zonedParts) state ops).tables :=
  run_invariant (step zonedParts) (fun reached => OnePerOccurrence reached.tables)
    (fun reached op => (step_occurrences reached op).1.2) state ops unique

theorem run_planned {state : SchedulerState} (ops : List SchedulerOp)
    (planned : occurrence ∈ state.planned) :
    occurrence ∈ (run (step zonedParts) state ops).planned := by
  apply run_invariant (step zonedParts) (fun reached => occurrence ∈ reached.planned) _ state
    ops planned
  intro reached op earlier
  rw [(step_occurrences reached op).2]
  exact List.mem_append_left _ earlier

theorem scheduled_of_everyStep (ops : List SchedulerOp)
    (meets : EveryStep (step zonedParts) (Unoccupied zonedParts) SchedulerState.empty ops) :
    ∀ occurrence ∈ (run (step zonedParts) SchedulerState.empty ops).planned,
      Scheduled (run (step zonedParts) SchedulerState.empty ops).tables occurrence := by
  apply run_invariant_of_everyStep (step zonedParts) (Unoccupied zonedParts)
    (fun reached => ∀ occurrence ∈ reached.planned, Scheduled reached.tables occurrence) _
    SchedulerState.empty ops _ meets
  · intro state op unoccupied scheduled occurrence planned
    rw [(step_occurrences state op).2, List.mem_append] at planned
    rcases planned with earlier | now
    · exact scheduled_of_kept (step_occurrences state op).1.1 (scheduled occurrence earlier)
    · exact scheduled_of_unoccupied state op unoccupied now
  · intro occurrence planned
    simp [SchedulerState.empty] at planned

/-- A manual run that stood at a materialized instant stands there for good, so a
run that ends with every planned occurrence SCHEDULED had no such step. -/
theorem everyStep_of_scheduled (state : SchedulerState) (ops : List SchedulerOp)
    (unique : OnePerOccurrence state.tables)
    (scheduled : ∀ occurrence ∈ (run (step zonedParts) state ops).planned,
      Scheduled (run (step zonedParts) state ops).tables occurrence) :
    EveryStep (step zonedParts) (Unoccupied zonedParts) state ops := by
  induction ops generalizing state with
  | nil => trivial
  | cons op ops ih =>
    have effect := @step_occurrences zonedParts state op
    constructor
    · intro occurrence now
      have plannedNow : occurrence ∈ (step zonedParts state op).planned := by
        rw [effect.2]
        exact List.mem_append_right _ now
      obtain ⟨row, rowIn, stands, trigger⟩ :=
        scheduled occurrence (run_planned ops plannedNow)
      rw [rowsAt, List.filter_eq_nil_iff]
      intro manualRow manualIn
      simp only [decide_eq_true_eq, not_and]
      intro manualStands manual
      obtain ⟨later, laterIn, laterStands, laterManual⟩ :=
        @run_occurrences zonedParts state (op :: ops) manualRow manualIn
      have same : row = later :=
        run_unique state (op :: ops) unique row rowIn later laterIn
          (stands.trans (laterStands.trans manualStands).symm)
      rw [← same, trigger, manual] at laterManual
      simp at laterManual
    · exact ih (step zonedParts state op) (effect.1.2 unique) scheduled

theorem onePerOccurrence_empty : OnePerOccurrence SchedulerState.empty.tables := by
  intro first firstIn
  simp [SchedulerState.empty, AutomationTables.empty, Table.empty] at firstIn

/-- Over every run of schedulers, reservations, updates, lease calls and
restarts: every occurrence that a plan materialized has exactly one SCHEDULED row
and no manual run in its place, if and only if no plan was materialized over an
instant that a manual run already held. -/
theorem materialized_occurrences_once (zonedParts : String → Nat → Option ZonedParts)
    (ops : List SchedulerOp) :
    (∀ occurrence ∈ (run (step zonedParts) SchedulerState.empty ops).planned,
      MaterializedOnce (run (step zonedParts) SchedulerState.empty ops).tables occurrence) ↔
      EveryStep (step zonedParts) (Unoccupied zonedParts) SchedulerState.empty ops := by
  have unique := @run_unique zonedParts SchedulerState.empty ops onePerOccurrence_empty
  constructor
  · intro once
    apply everyStep_of_scheduled SchedulerState.empty ops onePerOccurrence_empty
    intro occurrence planned
    exact (materializedOnce_iff unique occurrence).mp (once occurrence planned)
  · intro meets occurrence planned
    exact (materializedOnce_iff unique occurrence).mpr
      (scheduled_of_everyStep ops meets occurrence planned)

/-- A job that is due every second, and a manual run of it requested in the
millisecond of its first occurrence, before the scheduler wakes. -/
def manualRunAtTheTick : List SchedulerOp :=
  [.create "job" "tick" true
      { schedule := .interval 1000 0, timezone := "UTC", catchUpPolicy := .runOnce } 500,
    .ledger (.reserveManualRun "manual" "job" "key" 1000),
    .wake "scheduler" false 1001 100,
    .materialize "scheduler" (fun _ => "scheduled")]

theorem manual_run_takes_the_occurrence :
    ∃ occurrence ∈ (run (step (fun _ _ => none)) SchedulerState.empty
        manualRunAtTheTick).planned,
      ¬ MaterializedOnce (run (step (fun _ _ => none)) SchedulerState.empty
        manualRunAtTheTick).tables occurrence := by
  decide +kernel

end OpenRill.Automation.OccurrencesOnce
