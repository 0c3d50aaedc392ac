import OpenRill.Runs.KernelEnds

/-!
# What the coordinator owes to those who wait for a run

The invariant of the coordinator: an execution in flight knows the status of its run as
far as it will speak of it, a waiter of a completed run has an execution that has not
settled yet, and a waiter of an ended run has one that will settle it. The coordinator
keeps it only in steps that meet a condition, which is stated here too: the ways in
which a run ends and in which an execution begins that break it are left out.
-/

namespace OpenRill.Runs.AwaitedRuns

open Lib Lib.Runs Lib.Transaction State Delegations Lifecycle Operations StatusMoves Coordinator
open KernelEnds LedgerRules

variable {execution : ActiveRun} {runId : String} {host : Host} {phase : Phase} {tables : RunTables}
variable {begun : Phase × RunTables} {waiters : List String}

def hasEnded (status : Option RunStatus) : Bool := status.any RunStatus.terminal

/-- A report of a completed run does not call it failed, a rejection does not speak of a
completed run, and a promise is resolved with the terminal status of its run. -/
def Truthful (told : Told) : Prop :=
  match told.report with
  | .updated notice =>
    told.durable = some .completed →
      notice.status ≠ .run .failed ∧ notice.status ≠ .execution .failed ∧
        notice.executionStatus ≠ some .failed
  | .resolved result =>
    hasEnded told.durable = true ∧ told.durable = result.status.ended
  | .rejected _ => told.durable ≠ some .completed

instance decidableTruthful : (told : Told) → Decidable (Truthful told)
  | { report := .updated _, .. } => inferInstanceAs (Decidable (_ → _ ∧ _ ∧ _))
  | { report := .resolved _, .. } => inferInstanceAs (Decidable (_ ∧ _))
  | { report := .rejected _, .. } => inferInstanceAs (Decidable (_ ≠ _))

/-- A waiter for an ended run is left, with no execution of the run and no close of the
coordinator under way. -/
def Hangs (host : Host) (runId : String) : Prop :=
  runId ∈ host.waiters ∧ hasEnded (statusOf host runId) = true ∧ ¬ isActive host runId ∧
    (host.closing = false ∨ host.closed = true)

instance (host : Host) (runId : String) : Decidable (Hangs host runId) := by
  unfold Hangs
  infer_instance

/-- The execution still has an end of its own to tell its waiter. -/
def Tells : Phase → Bool
  | .returned result => result.status.ended.isSome
  | .settling => false
  | _ => true

/-- The execution has told what it had to tell. -/
def Settled : Phase → Bool
  | .settling => true
  | _ => false

def notified : Phase → Option ResultStatus
  | .notifying result => some result.status
  | _ => none

def final : Phase → Option RunStatus
  | .returned result => result.status.ended
  | .notifying result => result.status.ended
  | _ => none

def Runs : Phase → Bool
  | .running => true
  | _ => false

/-- The waiter of the run will be settled: by its execution, or by the one that follows
it. -/
def Settles (host : Host) (runId : String) : Prop :=
  ∃ execution ∈ host.active, execution.runId = runId ∧
    (Tells execution.phase = true ∨ runId ∈ host.pendingResume)

instance (host : Host) (runId : String) : Decidable (Settles host runId) := by
  unfold Settles
  infer_instance

variable (options : RunOptions)

/-- No execution of a completed run begins. -/
def SparesCompleted (host : Host) (runId : String) : Prop :=
  host.closing = true ∨ isActive host runId ∨ statusOf host runId ≠ some .completed

/-- A run that ends has no waiter that nobody will settle. -/
def EndsSettled (host : Host) (after : StatusMap) : Prop :=
  ∀ waiter ∈ host.waiters, host.closing = false → hasEnded (statusOf host waiter) = false →
    hasEnded (after waiter) = true → Settles host waiter

def KeepsFinal (host : Host) (after : StatusMap) : Prop :=
  ∀ execution ∈ host.active, (final execution.phase).isSome = true →
    after execution.runId = statusOf host execution.runId

/-- A run that the operator cancels is in flight and its waiter will be settled, or its
context can be read. -/
def CancelsSettled (host : Host) (runId : String) (reached : RunTables) : Prop :=
  runId ∈ host.waiters → host.closing = false → hasEnded (statusOf host runId) = false →
    if isActive host runId then Settles host runId
    else (contextOf reached runId).isSome = true

def Meets (host : Host) : HostOp → Prop
  | .schedule runId _ => SparesCompleted host runId
  | .ensureScheduled runId _ => SparesCompleted host runId
  | .resume runId _ => SparesCompleted host runId
  | .executeUntilTerminal runId _ =>
    SparesCompleted host runId ∧
      (host.closing = false → isActive host runId → hasEnded (statusOf host runId) = true →
        Settles host runId ∧
          ∀ execution ∈ host.active, execution.runId = runId →
            statusOf host runId = some .completed → Settled execution.phase = false)
  | .ends runId _ ending _ =>
    ∀ execution ∈ host.active, execution.runId = runId → Runs execution.phase = true →
      admits execution ending → hasEnded (statusOf host runId) = true →
        statusOf host runId = some (reports ending)
  | .handled runId threw =>
    threw = true → ∀ execution ∈ host.active, execution.runId = runId →
      notified execution.phase ≠ some .completed
  | .finished runId _ =>
    host.closing = false → runId ∈ host.pendingResume →
      (∃ execution ∈ host.active, execution.runId = runId ∧ Settled execution.phase = true) →
        statusOf host runId ≠ some .completed
  | .other op =>
    Executes op ∨
      (EndsSettled host (statuses (Operations.step options host.tables op).ledger) ∧
        KeepsFinal host (statuses (Operations.step options host.tables op).ledger))
  | .operatorCancel input call =>
    match (Lifecycle.cancel options input call.now call.createId).run host.tables.ledger with
    | .ok (_, ledger) => CancelsSettled host input.runId (host.tables.withLedger ledger)
    | .error _ => True
  | _ => True

instance (host : Host) (runId : String) : Decidable (SparesCompleted host runId) := by
  unfold SparesCompleted
  infer_instance

instance (host : Host) (after : StatusMap) : Decidable (EndsSettled host after) := by
  unfold EndsSettled
  infer_instance

instance (host : Host) (after : StatusMap) : Decidable (KeepsFinal host after) := by
  unfold KeepsFinal
  infer_instance

instance (host : Host) (runId : String) (reached : RunTables) :
    Decidable (CancelsSettled host runId reached) := by
  unfold CancelsSettled
  infer_instance

instance decidableMeets (host : Host) : (op : HostOp) → Decidable (Meets options host op)
  | .schedule runId _ => inferInstanceAs (Decidable (SparesCompleted host runId))
  | .ensureScheduled runId _ => inferInstanceAs (Decidable (SparesCompleted host runId))
  | .resume runId _ => inferInstanceAs (Decidable (SparesCompleted host runId))
  | .executeUntilTerminal _ _ => inferInstanceAs (Decidable (_ ∧ (_ → _)))
  | .cancel _ => isTrue trivial
  | .close => isTrue trivial
  | .finishClose => isTrue trivial
  | .prepared _ _ _ => isTrue trivial
  | .resolved _ _ _ => isTrue trivial
  | .ends _ _ _ _ => inferInstanceAs (Decidable (∀ execution ∈ host.active, _))
  | .reported _ => isTrue trivial
  | .handled _ _ => inferInstanceAs (Decidable (_ → ∀ execution ∈ host.active, _))
  | .caught _ => isTrue trivial
  | .finished _ _ => inferInstanceAs (Decidable (_ → _ → (∃ execution ∈ host.active, _) → _))
  | .other _ => inferInstanceAs (Decidable (_ ∨ _))
  | .operatorCancel input call =>
    match ran : (Lifecycle.cancel options input call.now call.createId).run host.tables.ledger with
    | .ok (_, ledger) =>
      decidable_of_iff (CancelsSettled host input.runId (host.tables.withLedger ledger))
        (by simp [Meets, ran])
    | .error _ => isTrue (by simp [Meets, ran])

def Sound (runId : String) (status : Option RunStatus) : Phase → Prop
  | .preparing => status ≠ some .completed
  | .resolving _ => status ≠ some .completed
  | .running => RunningOrEnded status
  | .returned result =>
    result.runId = runId ∧
      (result.status.ended = none → status ≠ some .completed) ∧
      (result.status.ended.isSome = true → status = result.status.ended)
  | .notifying result =>
    result.runId = runId ∧ result.status.ended.isSome = true ∧ status = result.status.ended
  | .rejected => status ≠ some .completed
  | .settling => True

structure Steady (host : Host) : Prop where
  distinct : (host.active.map ActiveRun.runId).Nodup
  sound : ∀ execution ∈ host.active,
    Sound execution.runId (statusOf host execution.runId) execution.phase
  completed : ∀ waiter ∈ host.waiters, statusOf host waiter = some .completed →
    ∃ execution ∈ host.active, execution.runId = waiter ∧ Settled execution.phase = false
  awaited : host.closing = false → ∀ waiter ∈ host.waiters,
    hasEnded (statusOf host waiter) = true → Settles host waiter
  closed : host.closed = true → host.closing = true ∧ host.waiters = []
  truthful : ∀ told ∈ host.told, Truthful told

theorem steady_start (tables : RunTables) : Steady (Host.start tables) where
  distinct := List.nodup_nil
  sound _ member := nomatch member
  completed _ member := nomatch member
  awaited _ _ member := nomatch member
  closed closed := nomatch closed
  truthful _ member := nomatch member

theorem same_execution (steady : Steady host) {first second : ActiveRun}
    (firstIn : first ∈ host.active) (secondIn : second ∈ host.active)
    (same : first.runId = second.runId) : first = second :=
  List.inj_on_of_nodup_map steady.distinct firstIn secondIn same

theorem found_in (found : find host runId = some execution) :
    execution ∈ host.active ∧ execution.runId = runId :=
  ⟨List.mem_of_find?_eq_some found, by simpa using List.find?_some found⟩

theorem not_hanging (steady : Steady host) (runId : String) : ¬ Hangs host runId := by
  rintro ⟨waits, ended, idle, notClosing | closed⟩
  · obtain ⟨execution, executionIn, isRun, -⟩ := steady.awaited notClosing runId waits ended
    exact idle ⟨execution, executionIn, isRun⟩
  · rw [(steady.closed closed).2] at waits
    cases waits

theorem unwait_steady (steady : Steady host) (waiters : List String)
    (fewer : ∀ waiter ∈ waiters, waiter ∈ host.waiters) :
    Steady { host with waiters := waiters } where
  distinct := steady.distinct
  sound := steady.sound
  completed waiter waits := steady.completed waiter (fewer waiter waits)
  awaited notClosing waiter waits := steady.awaited notClosing waiter (fewer waiter waits)
  closed closed := by
    obtain ⟨closing, none⟩ := steady.closed closed
    refine ⟨closing, ?_⟩
    rw [none] at fewer
    exact List.eq_nil_iff_forall_not_mem.mpr fun waiter waits => nomatch fewer waiter waits
  truthful := steady.truthful

theorem tell_steady (steady : Steady host) (report : Report)
    (truthful : Truthful { report := report, durable := statusOf host report.runId }) :
    Steady (tell report host) where
  distinct := steady.distinct
  sound := steady.sound
  completed := steady.completed
  awaited := steady.awaited
  closed := steady.closed
  truthful told toldIn := by
    rcases List.mem_append.mp toldIn with earlier | last
    · exact steady.truthful told earlier
    · rw [List.mem_singleton] at last
      rw [last]
      exact truthful

theorem of_advanced (member : execution ∈ (advance runId phase host).active) :
    ∃ before ∈ host.active, execution.runId = before.runId ∧
      (before.runId = runId ∧ execution.phase = phase ∨
        before.runId ≠ runId ∧ execution.phase = before.phase) := by
  obtain ⟨before, beforeIn, isExecution⟩ := List.mem_map.mp member
  refine ⟨before, beforeIn, ?_⟩
  by_cases own : before.runId = runId
  · rw [if_pos own] at isExecution
    rw [← isExecution]
    exact ⟨rfl, Or.inl ⟨own, rfl⟩⟩
  · rw [if_neg own] at isExecution
    rw [← isExecution]
    exact ⟨rfl, Or.inr ⟨own, rfl⟩⟩

theorem advanced_own (executionIn : execution ∈ host.active) (phase : Phase) :
    { execution with phase := phase } ∈ (advance execution.runId phase host).active :=
  List.mem_map.mpr ⟨execution, executionIn, if_pos rfl⟩

theorem advanced_other (executionIn : execution ∈ host.active) (other : execution.runId ≠ runId)
    (phase : Phase) : execution ∈ (advance runId phase host).active :=
  List.mem_map.mpr ⟨execution, executionIn, if_neg other⟩

theorem advance_runIds (runId : String) (phase : Phase) :
    (advance runId phase host).active.map ActiveRun.runId = host.active.map ActiveRun.runId := by
  unfold advance
  rw [List.map_map]
  apply List.map_congr_left
  intro execution _
  simp only [Function.comp_apply]
  split <;> rfl

theorem advance_steady (steady : Steady host) (executionIn : execution ∈ host.active)
    (others : ∀ runId, runId ≠ execution.runId → statuses tables.ledger runId = statusOf host runId)
    (sound : Sound execution.runId (statuses tables.ledger execution.runId) phase)
    (completed : execution.runId ∈ host.waiters →
      statuses tables.ledger execution.runId = some .completed → Settled phase = false)
    (awaited : host.closing = false → execution.runId ∈ host.waiters →
      hasEnded (statuses tables.ledger execution.runId) = true →
        Tells phase = true ∨ execution.runId ∈ host.pendingResume) :
    Steady (advance execution.runId phase { host with tables := tables }) where
  distinct := by
    rw [advance_runIds]
    exact steady.distinct
  sound other otherIn := by
    obtain ⟨before, beforeIn, sameRun, ⟨own, isPhase⟩ | ⟨foreign, isPhase⟩⟩ :=
      of_advanced otherIn
    · rw [isPhase, sameRun, own]
      exact sound
    · have kept := steady.sound before beforeIn
      rw [← others before.runId foreign] at kept
      rw [isPhase, sameRun]
      exact kept
  completed waiter waits isCompleted := by
    by_cases own : waiter = execution.runId
    · rw [own] at waits isCompleted
      exact ⟨_, advanced_own executionIn phase, own.symm, completed waits isCompleted⟩
    have before : statusOf host waiter = some .completed := by
      rw [← others waiter own]
      exact isCompleted
    obtain ⟨other, otherIn, isRun, unsettled⟩ := steady.completed waiter waits before
    refine ⟨other, advanced_other otherIn ?_ phase, isRun, unsettled⟩
    rw [isRun]
    exact own
  awaited notClosing waiter waits ended := by
    by_cases own : waiter = execution.runId
    · rw [own] at waits ended
      refine ⟨_, advanced_own executionIn phase, own.symm, ?_⟩
      rw [own]
      exact awaited notClosing waits ended
    · have before : hasEnded (statusOf host waiter) = true := by
        rw [← others waiter own]
        exact ended
      obtain ⟨other, otherIn, isRun, settles⟩ := steady.awaited notClosing waiter waits before
      refine ⟨other, advanced_other otherIn ?_ phase, isRun, settles⟩
      rw [isRun]
      exact own
  closed := steady.closed
  truthful := steady.truthful

theorem begun_sound {known : StatusMap} (holds : Begun known runId begun)
    (notCompleted : known runId ≠ some .completed) :
    Sound runId (statuses begun.2.ledger runId) begun.1 ∧ Tells begun.1 = true ∧
      Settled begun.1 = false ∧
      ∀ other, other ≠ runId → statuses begun.2.ledger other = known other := by
  cases holds with
  | preparing reached shown =>
    rw [show statuses reached.ledger = known from shown]
    exact ⟨notCompleted, rfl, rfl, fun _ _ => rfl⟩
  | failed reached shown =>
    rw [show statuses reached.ledger = setStatus known runId .failed from shown]
    have own : setStatus known runId .failed runId = some .failed := setStatus_self _ _ _
    refine ⟨⟨rfl, fun open_ => ?_, fun _ => own⟩, rfl, rfl,
      fun other different => setStatus_other different _⟩
    rw [own]
    exact fun completed => nomatch completed
  | rejected reached shown =>
    rw [show statuses reached.ledger = known from shown]
    exact ⟨notCompleted, rfl, rfl, fun _ _ => rfl⟩

section

variable (steady : Steady host)
include steady

theorem open_steady (idle : ¬ isActive host runId) (notClosing : host.closing = false)
    (awaits : ∀ waiter ∈ waiters, waiter = runId ∨ waiter ∈ host.waiters)
    (begins : Begun (statuses host.tables.ledger) runId begun)
    (notCompleted : statusOf host runId ≠ some .completed) :
    Steady
      { host with
        tables := begun.2
        waiters := waiters
        active := host.active ++ [{ runId := runId, abort := none, phase := begun.1 }] } := by
  obtain ⟨sound, tells, unsettled, others⟩ := begun_sound begins notCompleted
  have apart : ∀ execution ∈ host.active, execution.runId ≠ runId :=
    fun execution executionIn isRun => idle ⟨execution, executionIn, isRun⟩
  have own : { runId := runId, abort := none, phase := begun.1 } ∈ host.active ++
      [{ runId := runId, abort := none, phase := begun.1 }] := by simp
  refine ⟨?_, ?_, ?_, ?_, ?_, steady.truthful⟩
  · rw [List.map_append, List.nodup_append]
    refine ⟨steady.distinct, List.nodup_singleton _, ?_⟩
    intro first firstIn second secondIn
    obtain ⟨execution, executionIn, isFirst⟩ := List.mem_map.mp firstIn
    rw [List.map_singleton, List.mem_singleton] at secondIn
    rw [secondIn, ← isFirst]
    exact apart execution executionIn
  · intro execution executionIn
    rcases List.mem_append.mp executionIn with earlier | last
    · have kept := steady.sound execution earlier
      rw [statusOf, ← others execution.runId (apart execution earlier)] at kept
      exact kept
    · rw [List.mem_singleton] at last
      rw [last]
      exact sound
  · intro waiter waits isCompleted
    by_cases isOwn : waiter = runId
    · exact ⟨_, own, isOwn.symm, unsettled⟩
    have earlier : waiter ∈ host.waiters := (awaits waiter waits).resolve_left isOwn
    have before : statusOf host waiter = some .completed := by
      rw [statusOf, ← others waiter isOwn]
      exact isCompleted
    obtain ⟨other, otherIn, isRun, open_⟩ := steady.completed waiter earlier before
    exact ⟨other, List.mem_append_left _ otherIn, isRun, open_⟩
  · intro _ waiter waits ended
    by_cases isOwn : waiter = runId
    · exact ⟨_, own, isOwn.symm, Or.inl tells⟩
    have earlier : waiter ∈ host.waiters := (awaits waiter waits).resolve_left isOwn
    have before : hasEnded (statusOf host waiter) = true := by
      rw [statusOf, ← others waiter isOwn]
      exact ended
    obtain ⟨other, otherIn, isRun, settles⟩ := steady.awaited notClosing waiter earlier before
    exact ⟨other, List.mem_append_left _ otherIn, isRun, settles⟩
  · intro closed
    rw [(steady.closed closed).1] at notClosing
    cases notClosing

theorem leave_steady (executionIn : execution ∈ host.active)
    (settled : Settled execution.phase = true) (fewer : ∀ waiter ∈ waiters, waiter ∈ host.waiters)
    (left : host.closing = false → execution.runId ∈ waiters →
      execution.runId ∉ host.pendingResume) :
    Steady { leave execution.runId host with waiters := waiters } := by
  have remains : ∀ other ∈ host.active, other.runId ≠ execution.runId →
      other ∈ host.active.filter (fun other => decide (other.runId ≠ execution.runId)) :=
    fun other otherIn different => List.mem_filter.mpr ⟨otherIn, decide_eq_true different⟩
  have untold : Tells execution.phase = false := by
    cases isPhase : execution.phase <;> rw [isPhase] at settled <;> first | rfl | cases settled
  refine ⟨?_, ?_, ?_, ?_, ?_, steady.truthful⟩
  · exact steady.distinct.sublist (List.filter_sublist.map _)
  · exact fun other otherIn => steady.sound other (List.mem_filter.mp otherIn).1
  · intro waiter waits isCompleted
    obtain ⟨other, otherIn, isRun, open_⟩ :=
      steady.completed waiter (fewer waiter waits) isCompleted
    refine ⟨other, remains other otherIn fun same => ?_, isRun, open_⟩
    rw [same_execution steady otherIn executionIn same, settled] at open_
    cases open_
  · intro notClosing waiter waits ended
    obtain ⟨other, otherIn, isRun, settles⟩ :=
      steady.awaited notClosing waiter (fewer waiter waits) ended
    by_cases same : other.runId = execution.runId
    · have isOwn : waiter = execution.runId := isRun.symm.trans same
      rw [same_execution steady otherIn executionIn same, untold, isOwn] at settles
      rw [isOwn] at waits
      exact absurd (settles.resolve_left Bool.false_ne_true) (left notClosing waits)
    · refine ⟨other, remains other otherIn same, isRun, ?_⟩
      refine settles.imp id fun pending => List.mem_filter.mpr ⟨pending, decide_eq_true ?_⟩
      rw [← isRun]
      exact same
  · intro closed
    obtain ⟨closing, none⟩ := steady.closed closed
    refine ⟨closing, List.eq_nil_iff_forall_not_mem.mpr fun waiter waits => ?_⟩
    have earlier := fewer waiter waits
    rw [none] at earlier
    cases earlier

theorem abort_steady (aborts : ActiveRun → ActiveRun)
    (sameRun : ∀ execution, (aborts execution).runId = execution.runId)
    (samePhase : ∀ execution, (aborts execution).phase = execution.phase) :
    Steady { host with active := host.active.map aborts } where
  distinct := by
    have sameIds : (host.active.map aborts).map ActiveRun.runId =
        host.active.map ActiveRun.runId := by
      rw [List.map_map]
      exact List.map_congr_left fun execution _ => sameRun execution
    rw [sameIds]
    exact steady.distinct
  sound execution executionIn := by
    obtain ⟨before, beforeIn, isExecution⟩ := List.mem_map.mp executionIn
    rw [← isExecution, sameRun, samePhase]
    exact steady.sound before beforeIn
  completed waiter waits isCompleted := by
    obtain ⟨other, otherIn, isRun, open_⟩ := steady.completed waiter waits isCompleted
    refine ⟨aborts other, List.mem_map_of_mem otherIn, ?_, ?_⟩
    · rw [sameRun]
      exact isRun
    · rw [samePhase]
      exact open_
  awaited notClosing waiter waits ended := by
    obtain ⟨other, otherIn, isRun, settles⟩ := steady.awaited notClosing waiter waits ended
    refine ⟨aborts other, List.mem_map_of_mem otherIn, ?_, ?_⟩
    · rw [sameRun]
      exact isRun
    · rw [samePhase]
      exact settles
  closed := steady.closed
  truthful := steady.truthful

theorem elsewhere_steady
    (elsewhere : ∀ runId, Elsewhere (statusOf host runId) (statuses tables.ledger runId))
    (settled : EndsSettled host (statuses tables.ledger))
    (kept : KeepsFinal host (statuses tables.ledger)) : Steady { host with tables := tables } := by
  have completedBefore : ∀ runId, statuses tables.ledger runId = some .completed →
      statusOf host runId = some .completed := by
    intro runId completed
    rcases elsewhere runId with same | failed | cancelled | ⟨-, created⟩
    · rw [← same]
      exact completed
    · rw [completed] at failed
      cases failed
    · rw [completed] at cancelled
      cases cancelled
    · rw [completed] at created
      cases created
  refine ⟨steady.distinct, ?_, ?_, ?_, steady.closed, steady.truthful⟩
  · intro execution executionIn
    have sound := steady.sound execution executionIn
    have same := kept execution executionIn
    change Sound execution.runId (statuses tables.ledger execution.runId) execution.phase
    cases isPhase : execution.phase with
    | preparing =>
      rw [isPhase] at sound
      exact fun completed => sound (completedBefore _ completed)
    | resolving initial =>
      rw [isPhase] at sound
      exact fun completed => sound (completedBefore _ completed)
    | running =>
      rw [isPhase] at sound
      rcases elsewhere execution.runId with unmoved | failed | cancelled | ⟨absent, -⟩
      · rw [unmoved]
        exact sound
      · exact Or.inr (Or.inl failed)
      · exact Or.inr (Or.inr cancelled)
      have inFlight : RunningOrEnded (statusOf host execution.runId) := sound
      rw [absent] at inFlight
      rcases inFlight with running | failed | cancelled
      · cases running
      · cases failed
      · cases cancelled
    | returned result =>
      rw [isPhase] at sound same
      obtain ⟨own, waiting, ended⟩ := sound
      refine ⟨own, fun open_ completed => waiting open_ (completedBefore _ completed), ?_⟩
      intro told
      rw [same told]
      exact ended told
    | notifying result =>
      rw [isPhase] at sound same
      obtain ⟨own, told, ended⟩ := sound
      refine ⟨own, told, ?_⟩
      rw [same told]
      exact ended
    | rejected =>
      rw [isPhase] at sound
      exact fun completed => sound (completedBefore _ completed)
    | settling => trivial
  · intro waiter waits completed
    exact steady.completed waiter waits (completedBefore waiter completed)
  · intro notClosing waiter waits ended
    by_cases before : hasEnded (statusOf host waiter) = true
    · exact steady.awaited notClosing waiter waits before
    · exact settled waiter waits notClosing (by simpa using before) ended

end

end OpenRill.Runs.AwaitedRuns
