import OpenRill.Lib.Runs
import OpenRill.Wakes.Delivery

/-!
# One wake Run at a time

A delivery is admitted again only from PENDING or FAILED, and it becomes FAILED
when its wake Run ended without a decision or when the admission threw. Both
leave no live wake Run behind. The third way does: the admission has committed
and the coordinator throws, and the same `catch` makes the delivery FAILED while
its wake Run is live. In every run without that third way each delivery has at
most one live wake Run, the recorded one.
-/

namespace OpenRill.Wakes.OneWake

open Lib Lib.Runs Lib.Transaction State Goals.Ledger Delivery

variable {tables reached known : WakeTables} {row : DeliveryRow}

structure NewDelivery where
  taskId : String
  eventSequence : Nat
  flowId : String
  taskStatus : TaskStatus
  terminalOutcome : Option TaskOutcome
  payload : DeliveryPayload
  now : Nat

def pendingDelivery (input : NewDelivery) (flow : ManagedFlowRow) : DeliveryRow where
  deliveryId := "delivery:" ++ input.taskId ++ ":" ++ toString input.eventSequence
  taskId := input.taskId
  taskEventSequence := input.eventSequence
  flowId := some flow.flowId
  workspaceId := flow.workspaceId
  ownerConversationId := flow.ownerKey
  controllerId := some flow.controllerId
  deliveryStatus := .pending
  taskStatus := input.taskStatus
  terminalOutcome := input.terminalOutcome
  idempotencyKey := "delivery:" ++ input.taskId ++ ":" ++ toString input.eventSequence
  payload := input.payload
  attemptCount := 0
  lastError := none
  systemMessageId := none
  wakeRunId := none
  controllerExecutionRevision := none
  controllerStepRevision := none
  controllerFlowRevision := none
  updatedAt := input.now
  deliveredAt := none
  revision := 1

inductive WakeOp where
  | createConversation (row : ConversationRow)
  | openFlow (row : ManagedFlowRow)
  | moveFlow (row : ManagedFlowRow)
  | recordDelivery (input : NewDelivery)
  | createRun (runId : String)
  | submit (row : SubmissionRow)
  | moveRun (runId : String) (status : RunStatus) (events : List RunEvent)
  | dispatch (deliveryId : String) (call : DispatchCall)
  | deliverRun (taskId : String) (calls : List DispatchCall)
  | drain (limit : Nat) (calls : List DispatchCall)
  | completeWakeRun (wakeRunId : String) (now : Nat) (refusal : Option String)

def recordDelivery (input : NewDelivery) : WakeTransaction Unit := do
  let tables ← inspect id
  let flow ← expect (tables.flows.find input.flowId)
    ("deliverable background task is not linked to a managed Task Flow: " ++ input.taskId)
  tryChange
    (fun tables => (tables.deliveries.insert (pendingDelivery input flow)).map
      (fun deliveries => { tables with deliveries := deliveries }))
    "UNIQUE constraint failed: task_completion_deliveries.delivery_id"

/-- The life of a run apart from its deliveries: it may go anywhere, but an ended
run stays ended. -/
def moveRun (runId : String) (status : RunStatus) (events : List RunEvent) :
    WakeTransaction Unit := do
  let tables ← inspect id
  let run ← expect (tables.runs.find runId) "run not found"
  demand (run.status.terminal = true → status.terminal = true) "run has ended"
  change (fun tables =>
    { tables with
      runs := tables.runs.update { run with status := status, events := run.events ++ events } })

def createRun (runId : String) : WakeTransaction Unit :=
  tryChange
    (fun tables =>
      (tables.runs.insert
        { runId := runId
          status := .created
          events := [] }).map (fun runs => { tables with runs := runs }))
    "UNIQUE constraint failed: agent_runs.run_id"

def surroundings (tables : WakeTables) : WakeOp → WakeTables
  | .createConversation row =>
    match tables.conversations.insert row with
    | some conversations => { tables with conversations := conversations }
    | none => tables
  | .openFlow row =>
    match tables.flows.insert row with
    | some flows => { tables with flows := flows }
    | none => tables
  | .moveFlow row => { tables with flows := tables.flows.update row }
  | .submit row =>
    match tables.submissions.insert row with
    | some submissions => { tables with submissions := submissions }
    | none => tables
  | _ => tables

def step (options : WakeOptions) (tables : WakeTables) : WakeOp → WakeTables
  | .recordDelivery input => perform (recordDelivery input) tables
  | .createRun runId => perform (createRun runId) tables
  | .moveRun runId status events => perform (moveRun runId status events) tables
  | .dispatch deliveryId call => (Delivery.dispatch options deliveryId call tables).1
  | .deliverRun taskId calls => dispatchEach options (undelivered tables taskId) calls tables
  | .drain limit calls => dispatchEach options (actionable tables limit) calls tables
  | .completeWakeRun wakeRunId now refusal =>
    perform (Delivery.completeWakeRun wakeRunId now refusal) tables
  | op => surroundings tables op

def reach (options : WakeOptions) (ops : List WakeOp) : WakeTables :=
  run (step options) WakeTables.empty ops

/-- No delivery has two live wake Runs, a live one is the one its delivery
records, each was given when the earlier ones had ended, and the controller of a
delivery is bound to no other of its wake Runs. -/
structure OneLiveWake (tables : WakeTables) : Prop where
  single : ∀ first ∈ tables.wakes, ∀ second ∈ tables.wakes,
    first.deliveryId = second.deliveryId → ended tables first.runId = false →
      ended tables second.runId = false → first.runId = second.runId
  recorded : ∀ wake ∈ tables.wakes, ended tables wake.runId = false →
    ∃ row, tables.deliveries.find wake.deliveryId = some row ∧ row.wakeRunId = some wake.runId
  sequential : ∀ wake ∈ tables.wakes, wake.unfinished = []
  bound : ∀ wake ∈ tables.wakes, ∀ binding,
    bindingForWakeRun tables wake.runId = some binding →
      binding.delivery.deliveryId = wake.deliveryId →
      ∀ row, tables.deliveries.find wake.deliveryId = some row → row.wakeRunId = some wake.runId

def liveWakes (tables : WakeTables) (deliveryId : String) : List String :=
  (tables.wakes.filter (fun wake =>
    decide (wake.deliveryId = deliveryId) && !ended tables wake.runId)).map WakeRecord.runId

theorem liveWakes_agree {tables : WakeTables} {deliveryId first second : String}
    (oneLive : OneLiveWake tables) (firstIn : first ∈ liveWakes tables deliveryId)
    (secondIn : second ∈ liveWakes tables deliveryId) : first = second := by
  obtain ⟨firstWake, firstLive, isFirst⟩ := List.mem_map.mp firstIn
  obtain ⟨secondWake, secondLive, isSecond⟩ := List.mem_map.mp secondIn
  simp only [List.mem_filter, Bool.and_eq_true, decide_eq_true_eq, Bool.not_eq_true']
    at firstLive secondLive
  rw [← isFirst, ← isSecond]
  apply oneLive.single firstWake firstLive.1 secondWake secondLive.1
  · exact firstLive.2.1.trans secondLive.2.1.symm
  · exact firstLive.2.2
  · exact secondLive.2.2

variable (options : WakeOptions)

def admitsWake (deliveryId : String) (call : DispatchCall) (tables : WakeTables) : Bool :=
  match (queueWake options deliveryId call).run tables with
  | .ok (_, reached) => decide (tables.wakes.length < reached.wakes.length)
  | .error _ => false

/-- The coordinator does not throw for a wake Run that was admitted. -/
def SchedulesAdmitted (deliveryId : String) (call : DispatchCall) (tables : WakeTables) : Prop :=
  admitsWake options deliveryId call tables = true → call.scheduling.answer ≠ .threw

def EachSchedules : List String → List DispatchCall → WakeTables → Prop
  | deliveryId :: deliveryIds, call :: calls, tables =>
    SchedulesAdmitted options deliveryId call tables ∧
      ((Delivery.dispatch options deliveryId call tables).2 = .returned →
        EachSchedules deliveryIds calls (Delivery.dispatch options deliveryId call tables).1)
  | _, _, _ => True

def Schedules (tables : WakeTables) : WakeOp → Prop
  | .dispatch deliveryId call => SchedulesAdmitted options deliveryId call tables
  | .deliverRun taskId calls => EachSchedules options (undelivered tables taskId) calls tables
  | .drain limit calls => EachSchedules options (actionable tables limit) calls tables
  | _ => True

def WaitsFor (row : DeliveryRow) (runId : String) : Prop :=
  row.wakeRunId = some runId ∧ row.deliveryStatus ≠ .pending ∧ row.deliveryStatus ≠ .failed

structure Settled (tables : WakeTables) : Prop where
  known : ∀ wake ∈ tables.wakes, (tables.deliveries.find wake.deliveryId).isSome
  live : ∀ wake ∈ tables.wakes, ∀ row, tables.deliveries.find wake.deliveryId = some row →
    ended tables wake.runId = true ∨ WaitsFor row wake.runId
  sequential : ∀ wake ∈ tables.wakes, wake.unfinished = []

theorem settled_empty : Settled WakeTables.empty where
  known := by
    intro wake wakeIn
    simp [WakeTables.empty] at wakeIn
  live := by
    intro wake wakeIn
    simp [WakeTables.empty] at wakeIn
  sequential := by
    intro wake wakeIn
    simp [WakeTables.empty] at wakeIn

theorem oneLiveWake_of_settled (settled : Settled tables) : OneLiveWake tables := by
  have recorded : ∀ wake ∈ tables.wakes, ended tables wake.runId = false →
      ∃ row, tables.deliveries.find wake.deliveryId = some row ∧
        row.wakeRunId = some wake.runId := by
    intro wake wakeIn notEnded
    obtain ⟨row, found⟩ := Option.isSome_iff_exists.mp (settled.known wake wakeIn)
    rcases settled.live wake wakeIn row found with hasEnded | waits
    · rw [notEnded] at hasEnded
      simp at hasEnded
    · exact ⟨row, found, waits.1⟩
  constructor
  · intro first firstIn second secondIn same firstLive secondLive
    obtain ⟨row, found, firstRun⟩ := recorded first firstIn firstLive
    obtain ⟨other, otherFound, secondRun⟩ := recorded second secondIn secondLive
    rw [← same, found, Option.some.injEq] at otherFound
    rw [← otherFound, firstRun, Option.some.injEq] at secondRun
    exact secondRun
  · exact recorded
  · exact settled.sequential
  · intro wake wakeIn binding isBound sameDelivery row found
    unfold bindingForWakeRun at isBound
    simp only [Option.bind_eq_bind, Option.bind_eq_some_iff] at isBound
    obtain ⟨delivery, isDelivery, flowId, -, controllerId, -, flow, -, same⟩ := isBound
    split at same
    · simp only [Option.some.injEq] at same
      have isRow : binding.delivery = delivery := by rw [← same]
      have deliveryIn := List.mem_of_find?_eq_some isDelivery
      have records := List.find?_some isDelivery
      simp only [decide_eq_true_eq] at records
      have foundDelivery := tables.deliveries.find_of_mem deliveryIn
      rw [← isRow, sameDelivery, found, Option.some.injEq] at foundDelivery
      rw [foundDelivery, isRow]
      exact records
    · simp at same

theorem ended_of_admissible (settled : Settled tables)
    (found : tables.deliveries.find row.deliveryId = some row)
    (admissible : row.deliveryStatus = .pending ∨ row.deliveryStatus = .failed ∨
      row.wakeRunId = none) :
    ∀ wake ∈ tables.wakes, wake.deliveryId = row.deliveryId →
      ended tables wake.runId = true := by
  intro wake wakeIn own
  have foundOwn : tables.deliveries.find wake.deliveryId = some row := by
    rw [own]
    exact found
  rcases settled.live wake wakeIn row foundOwn with hasEnded | ⟨waits, notPending, notFailed⟩
  · exact hasEnded
  · rcases admissible with pending | failed | none
    · exact absurd pending notPending
    · exact absurd failed notFailed
    · rw [none] at waits
      simp at waits

theorem settled_update (settled : Settled tables) (row : DeliveryRow) {old : DeliveryRow}
    (present : tables.deliveries.find row.deliveryId = some old)
    (own : ∀ wake ∈ tables.wakes, wake.deliveryId = row.deliveryId →
      ended tables wake.runId = true ∨ WaitsFor row wake.runId) :
    Settled { tables with deliveries := tables.deliveries.update row } := by
  have written := tables.deliveries.find_update row present
  constructor
  · intro wake wakeIn
    simp only [written]
    by_cases same : row.deliveryId = wake.deliveryId
    · simp [same]
    · simpa [same] using settled.known wake wakeIn
  · intro wake wakeIn other found
    simp only [written] at found
    by_cases same : row.deliveryId = wake.deliveryId
    · rw [if_pos same, Option.some.injEq] at found
      rw [← found]
      exact own wake wakeIn same.symm
    · rw [if_neg same] at found
      exact settled.live wake wakeIn other found
  · exact settled.sequential

def RunsGrow (before after : Table WakeRunRow.runId) : Prop :=
  ∀ runId run, before.find runId = some run → ∃ later, after.find runId = some later ∧
    (run.status.terminal = true → later.status.terminal = true) ∧ run.events <+: later.events

theorem runsGrow_refl (runs : Table WakeRunRow.runId) : RunsGrow runs runs :=
  fun _ run found => ⟨run, found, id, List.prefix_rfl⟩

theorem runsGrow_insert {before after : Table WakeRunRow.runId} {run : WakeRunRow}
    (inserted : before.insert run = some after) : RunsGrow before after := by
  intro runId other found
  exact ⟨other, before.kept_insert after run inserted found, id, List.prefix_rfl⟩

structure RunsKept (known reached : WakeTables) : Prop where
  deliveries : reached.deliveries = known.deliveries
  wakes : reached.wakes = known.wakes
  grown : RunsGrow known.runs reached.runs

theorem runsKept_refl (known : WakeTables) : RunsKept known known :=
  ⟨rfl, rfl, runsGrow_refl known.runs⟩

theorem RunsKept.ended (kept : RunsKept tables reached) {runId : String}
    (hasEnded : ended tables runId = true) : ended reached runId = true := by
  unfold Delivery.ended at hasEnded ⊢
  cases found : tables.runs.find runId with
  | none => simp [found] at hasEnded
  | some run =>
    obtain ⟨later, foundLater, ends, -⟩ := kept.grown runId run found
    rw [found] at hasEnded
    rw [foundLater]
    exact ends hasEnded

theorem settled_runs (settled : Settled tables) (kept : RunsKept tables reached) :
    Settled reached := by
  constructor
  · intro wake wakeIn
    rw [kept.deliveries]
    rw [kept.wakes] at wakeIn
    exact settled.known wake wakeIn
  · intro wake wakeIn row found
    rw [kept.deliveries] at found
    rw [kept.wakes] at wakeIn
    rcases settled.live wake wakeIn row found with hasEnded | waits
    · exact Or.inl (kept.ended hasEnded)
    · exact Or.inr waits
  · rw [kept.wakes]
    exact settled.sequential

theorem updateDelivery_writes (input : DeliveryUpdate) (known : WakeTables) :
    Ensures (fun state => state = known) (updateDelivery input) (fun updated reached =>
      (updated = none ∧ reached = known) ∨
        ∃ row, known.deliveries.find input.deliveryId = some row ∧
          updated = some (row.updatedBy input) ∧
          reached =
            { known with deliveries := known.deliveries.update (row.updatedBy input) }) := by
  apply ensures_read
  split
  next =>
    apply ensures_return
    exact Or.inl ⟨rfl, rfl⟩
  next row found =>
    apply ensures_ite
    · intro _
      apply ensures_write
      apply ensures_return
      exact Or.inr ⟨row, found, rfl, rfl⟩
    · intro _
      apply ensures_return
      exact Or.inl ⟨rfl, rfl⟩

theorem bindControllerSnapshot_writes (deliveryId : String) (expectedRevision : Nat)
    (flow : ManagedFlowRow) (now : Nat) (known : WakeTables) :
    Ensures (fun state => state = known)
      (bindControllerSnapshot deliveryId expectedRevision flow now) (fun bound reached =>
        (bound = none ∧ reached = known) ∨
          ∃ row, known.deliveries.find deliveryId = some row ∧
            bound = some (row.boundTo flow now) ∧
            reached =
              { known with deliveries := known.deliveries.update (row.boundTo flow now) }) := by
  apply ensures_read
  split
  next =>
    apply ensures_return
    exact Or.inl ⟨rfl, rfl⟩
  next row found =>
    apply ensures_ite
    · intro _
      apply ensures_write
      apply ensures_return
      exact Or.inr ⟨row, found, rfl, rfl⟩
    · intro _
      apply ensures_return
      exact Or.inl ⟨rfl, rfl⟩

theorem otherLedgers_unchanged (refusal : Option String) (known : WakeTables) :
    Ensures (fun state => state = known) (otherLedgers refusal)
      (fun _ reached => reached = known) := by
  cases refusal with
  | some message => exact ensures_fail message
  | none => exact ensures_return () rfl

theorem validateSendInput_unchanged (options : WakeOptions) (input : SystemSubmission)
    (known : WakeTables) :
    Ensures (fun state => state = known) (validateSendInput options input)
      (fun _ reached => reached = known) := by
  apply ensures_demand_then
  intro _
  apply ensures_demand_then
  intro _
  apply ensures_demand_then
  intro _
  apply ensures_demand_then
  intro _
  exact ensures_mono (ensures_demand _ _) (fun _ isKnown => isKnown) fun _ _ holds => holds.1

theorem sendSystemInTransaction_runsKept (options : WakeOptions) {input : SystemSubmission}
    (call : DispatchCall) :
    Ensures (fun state => state = known) (sendSystemInTransaction options input call)
      (fun _ reached => RunsKept known reached) := by
  refine ensures_called (validateSendInput_unchanged options input known) ?_
  intro _ reached same
  subst same
  apply ensures_read
  apply ensures_expect_then
  intro conversation _
  apply ensures_demand_then
  intro _
  split
  next existing _ =>
    apply ensures_demand_then
    intro _
    apply ensures_expect_then
    intro run _
    exact ensures_return _ (runsKept_refl reached)
  next =>
    apply ensures_try
    intro second inserted
    apply ensures_try
    intro third submitted
    apply ensures_return
    obtain ⟨runs, isRuns, rfl⟩ := Option.map_eq_some_iff.mp inserted
    obtain ⟨submissions, -, rfl⟩ := Option.map_eq_some_iff.mp submitted
    exact ⟨rfl, rfl, runsGrow_insert isRuns⟩

/-- A delivery that may be given a wake Run: all that it had have ended. -/
structure Admissible (tables : WakeTables) (row : DeliveryRow) : Prop where
  found : tables.deliveries.find row.deliveryId = some row
  ended : ∀ wake ∈ tables.wakes, wake.deliveryId = row.deliveryId →
    ended tables wake.runId = true

theorem admissible_runsKept (admissible : Admissible known row) (kept : RunsKept known reached) :
    Admissible reached row := by
  constructor
  · rw [kept.deliveries]
    exact admissible.found
  · intro wake wakeIn own
    rw [kept.wakes] at wakeIn
    exact kept.ended (admissible.ended wake wakeIn own)

theorem admissible_update (written : DeliveryRow) (admissible : Admissible known row)
    (sameKey : written.deliveryId = row.deliveryId) :
    Admissible { known with deliveries := known.deliveries.update written } written := by
  constructor
  · have present : known.deliveries.find written.deliveryId = some row := by
      rw [sameKey]
      exact admissible.found
    rw [known.deliveries.find_update written present]
    simp
  · intro wake wakeIn own
    exact admissible.ended wake wakeIn (own.trans sameKey)

theorem settled_rewrite (written : DeliveryRow) (settled : Settled known)
    (admissible : Admissible known row) (sameKey : written.deliveryId = row.deliveryId) :
    Settled { known with deliveries := known.deliveries.update written } := by
  have present : known.deliveries.find written.deliveryId = some row := by
    rw [sameKey]
    exact admissible.found
  apply settled_update settled written present
  intro wake wakeIn own
  exact Or.inl (admissible.ended wake wakeIn (own.trans sameKey))

theorem updateDelivery_settled {input : DeliveryUpdate} (settled : Settled known)
    (admissible : Admissible known row) (own : input.deliveryId = row.deliveryId) :
    Ensures (fun state => state = known) (updateDelivery input)
      (fun updated reached => Settled reached ∧ reached.wakes = known.wakes ∧
        ∀ written, updated = some written →
          Admissible reached written ∧ written = row.updatedBy input) := by
  refine ensures_result (updateDelivery_writes input known) ?_
  intro updated reached wrote
  rcases wrote with ⟨missed, same⟩ | ⟨old, found, isUpdated, rfl⟩
  · rw [same]
    refine ⟨settled, rfl, ?_⟩
    intro written isWritten
    rw [missed] at isWritten
    simp at isWritten
  · rw [own, admissible.found, Option.some.injEq] at found
    subst found
    refine ⟨settled_rewrite _ settled admissible rfl, rfl, ?_⟩
    intro written isWritten
    rw [isUpdated, Option.some.injEq] at isWritten
    rw [← isWritten]
    exact ⟨admissible_update _ admissible rfl, rfl⟩

theorem settled_recordWake (runId : String) (settled : Settled known)
    (admissible : Admissible known row) (waits : WaitsFor row runId) :
    Ensures (fun state => state = known) (recordWake row.deliveryId runId)
      (fun _ reached => Settled reached ∧ known.wakes.length < reached.wakes.length) := by
  apply ensures_change
  intro state isKnown
  subst isKnown
  constructor
  · constructor
    · intro wake wakeIn
      rcases List.mem_append.mp wakeIn with earlier | new
      · exact settled.known wake earlier
      · rw [List.mem_singleton] at new
        rw [new]
        simp [admissible.found]
    · intro wake wakeIn other found
      rcases List.mem_append.mp wakeIn with earlier | new
      · exact settled.live wake earlier other found
      rw [List.mem_singleton] at new
      right
      rw [new] at found ⊢
      simp only [admissible.found, Option.some.injEq] at found
      rw [← found]
      exact waits
    · intro wake wakeIn
      rcases List.mem_append.mp wakeIn with earlier | new
      · exact settled.sequential wake earlier
      rw [List.mem_singleton] at new
      rw [new]
      simp only [List.map_eq_nil_iff, List.filter_eq_nil_iff]
      intro earlier earlierIn unfinished
      simp only [Bool.and_eq_true, decide_eq_true_eq, Bool.not_eq_true'] at unfinished
      have hasEnded := admissible.ended earlier earlierIn unfinished.1.1
      rw [unfinished.1.2] at hasEnded
      simp at hasEnded
  · simp

theorem admitWake_settled (options : WakeOptions) (flow : ManagedFlowRow) (call : DispatchCall)
    (settled : Settled known) (admissible : Admissible known row) :
    Ensures (fun state => state = known) (admitWake options row flow call)
      (fun _ reached => Settled reached ∧ known.wakes.length < reached.wakes.length) := by
  refine ensures_called (bindControllerSnapshot_writes _ _ flow call.now known) ?_
  intro snapshot second bind
  apply ensures_expect_then
  intro bound isBound
  rcases bind with ⟨missed, -⟩ | ⟨old, found, isSnapshot, rfl⟩
  · rw [missed] at isBound
    simp at isBound
  rw [admissible.found, Option.some.injEq] at found
  subst found
  rw [isBound, Option.some.injEq] at isSnapshot
  subst isSnapshot
  have boundSettled := settled_rewrite (row.boundTo flow call.now) settled admissible rfl
  have boundAdmissible := admissible_update (row.boundTo flow call.now) admissible rfl
  refine ensures_called (sendSystemInTransaction_runsKept options call) ?_
  intro sent third kept
  have sentSettled := settled_runs boundSettled kept
  have sentAdmissible := admissible_runsKept boundAdmissible kept
  refine ensures_called (updateDelivery_settled sentSettled sentAdmissible rfl) ?_
  intro admitted fourth ⟨updatedSettled, sameWakes, isWritten⟩
  apply ensures_expect_then
  intro updated isUpdated
  obtain ⟨updatedAdmissible, isRow⟩ := isWritten updated isUpdated
  refine ensures_called (otherLedgers_unchanged call.admissionRefusal fourth) ?_
  intro _ fifth same
  subst same
  have waits : WaitsFor updated sent.run.runId := by
    rw [isRow]
    refine ⟨rfl, ?_, ?_⟩
    · simp [DeliveryRow.updatedBy, admission]
    · simp [DeliveryRow.updatedBy, admission]
  have sameKey : (row.boundTo flow call.now).deliveryId = updated.deliveryId := by
    rw [isRow]
    rfl
  rw [sameKey]
  refine ensures_called
    (settled_recordWake sent.run.runId updatedSettled updatedAdmissible waits) ?_
  intro _ last ⟨lastSettled, grew⟩
  apply ensures_return
  refine ⟨lastSettled, ?_⟩
  rw [sameWakes, kept.wakes] at grew
  exact grew

theorem queueWake_settled (options : WakeOptions) (call : DispatchCall) (settled : Settled known)
    (admissible : Admissible known row)
    (notWaiting : ¬ (row.deliveryStatus = .sessionQueued ∧ row.wakeRunId.isSome)) :
    Ensures (fun state => state = known) (queueWake options row.deliveryId call)
      (fun queued reached => Settled reached ∧
        (queued.wakeStatus = none ∨ known.wakes.length < reached.wakes.length)) := by
  apply ensures_read
  apply ensures_expect_then
  intro fresh found
  rw [admissible.found, Option.some.injEq] at found
  subst found
  apply ensures_ite
  · intro _
    apply ensures_return
    exact ⟨settled, Or.inl rfl⟩
  intro _
  apply ensures_ite
  · intro waiting
    exact absurd waiting notWaiting
  intro _
  apply ensures_expect_then
  intro flowId _
  apply ensures_expect_then
  intro controllerId _
  apply ensures_expect_then
  intro flow _
  apply ensures_demand_then
  intro _
  apply ensures_ite
  · intro _
    refine ensures_called (updateDelivery_settled settled admissible rfl) ?_
    intro suppressed second ⟨updatedSettled, _⟩
    apply ensures_expect_then
    intro updated _
    refine ensures_called (otherLedgers_unchanged call.admissionRefusal second) ?_
    intro _ third same
    subst same
    apply ensures_return
    exact ⟨updatedSettled, Or.inl rfl⟩
  · intro _
    refine ensures_result (admitWake_settled options flow call settled admissible) ?_
    intro _ _ ⟨admittedSettled, grew⟩
    exact ⟨admittedSettled, Or.inr grew⟩

theorem recordFailure_settled (message : String) (call : DispatchCall) (settled : Settled known)
    (admissible : Admissible known row) :
    Ensures (fun state => state = known) (recordFailure row.deliveryId message call)
      (fun _ reached => Settled reached) := by
  apply ensures_read
  split
  next => exact ensures_return _ settled
  next fresh found =>
    rw [admissible.found, Option.some.injEq] at found
    subst found
    apply ensures_ite
    · intro _
      exact ensures_return _ settled
    intro _
    refine ensures_called (updateDelivery_settled settled admissible rfl) ?_
    intro updated second ⟨updatedSettled, _⟩
    refine ensures_called (otherLedgers_unchanged call.recordRefusal second) ?_
    intro _ third same
    subst same
    exact ensures_return _ updatedSettled

theorem completeWakeRun_settled (wakeRunId : String) (now : Nat) (refusal : Option String)
    (settled : Settled known) :
    Ensures (fun state => state = known) (Delivery.completeWakeRun wakeRunId now refusal)
      (fun _ reached => Settled reached) := by
  apply ensures_read
  split
  next => exact ensures_return _ settled
  next delivery isDelivery =>
    apply ensures_ite
    · intro _
      exact ensures_return _ settled
    intro _
    split
    next => exact ensures_return _ settled
    next wake isWake =>
      apply ensures_ite
      · intro isTerminal
        have admissible : Admissible known delivery := by
          have records := List.find?_some isDelivery
          simp only [decide_eq_true_eq] at records
          have found := known.deliveries.find_of_mem (List.mem_of_find?_eq_some isDelivery)
          refine ⟨found, ?_⟩
          intro own ownIn sameDelivery
          rw [← sameDelivery] at found
          rcases settled.live own ownIn delivery found with hasEnded | ⟨isRun, -, -⟩
          · exact hasEnded
          · rw [records, Option.some.injEq] at isRun
            unfold ended
            rw [← isRun, isWake]
            exact isTerminal
        refine ensures_called (updateDelivery_settled settled admissible rfl) ?_
        intro updated second ⟨updatedSettled, _⟩
        refine ensures_called (otherLedgers_unchanged refusal second) ?_
        intro _ third same
        subst same
        exact ensures_return _ updatedSettled
      · intro _
        exact ensures_return _ settled

variable (options : WakeOptions)

theorem caught_settled (message : String) (call : DispatchCall) (settled : Settled tables)
    (admissible : Admissible tables row) :
    Settled (caught row.deliveryId message call tables).1 := by
  unfold caught
  split
  next reached done =>
    exact recordFailure_settled message call settled admissible tables _ reached rfl done
  next reached done =>
    exact recordFailure_settled message call settled admissible tables _ reached rfl done
  next => exact settled

theorem replayWake_settled (wakeRunId : String) (call : DispatchCall)
    (settled : Settled tables) : Settled (replayWake wakeRunId call tables).1 := by
  unfold replayWake
  split
  next => exact settled
  next wake _ =>
    by_cases hasEnded : wake.status.terminal = true
    · rw [if_pos hasEnded]
      split
      next value reached done =>
        exact completeWakeRun_settled wakeRunId call.now call.recordRefusal settled tables
          value reached rfl done
      next => exact settled
    · rw [if_neg hasEnded]
      split
      · exact settled
      · exact settled

theorem tryWake_settled (call : DispatchCall) (settled : Settled tables)
    (admissible : Admissible tables row)
    (notWaiting : ¬ (row.deliveryStatus = .sessionQueued ∧ row.wakeRunId.isSome))
    (schedules : SchedulesAdmitted options row.deliveryId call tables) :
    Settled (tryWake options row.deliveryId call tables).1 := by
  unfold tryWake
  cases queuedRun : (queueWake options row.deliveryId call).run tables with
  | error message => exact caught_settled message call settled admissible
  | ok pair =>
    have queued := queueWake_settled options call settled admissible notWaiting tables
      pair.1 pair.2 rfl queuedRun
    simp only
    split
    next scheduled =>
      cases isScheduling : call.scheduling with
      | answers accepted => exact queued.1
      | stops => exact queued.1
      | throws message =>
        exfalso
        rcases queued.2 with noStatus | grew
        · rw [noStatus] at scheduled
          simp [schedulable] at scheduled
        have admits : admitsWake options row.deliveryId call tables = true := by
          unfold admitsWake
          rw [queuedRun]
          simpa using grew
        apply schedules admits
        rw [isScheduling]
        rfl
    next => exact queued.1

theorem dispatch_settled (deliveryId : String) (call : DispatchCall)
    (settled : Settled tables)
    (schedules : SchedulesAdmitted options deliveryId call tables) :
    Settled (Delivery.dispatch options deliveryId call tables).1 := by
  unfold Delivery.dispatch
  split
  next => exact settled
  next current found =>
    have isKey := tables.deliveries.key_of_find found
    subst isKey
    split
    next => exact settled
    next open_ =>
      rw [not_or] at open_
      have own := ended_of_admissible settled found
      split
      next wakeRunId isWake =>
        split
        next => exact replayWake_settled wakeRunId call settled
        next notQueued =>
          have admissible : Admissible tables current := by
            refine ⟨found, own ?_⟩
            cases status : current.deliveryStatus with
            | pending => exact Or.inl rfl
            | failed => exact Or.inr (Or.inl rfl)
            | sessionQueued => exact absurd status notQueued
            | delivered => exact absurd status open_.1
            | notApplicable => exact absurd status open_.2
          apply tryWake_settled options call settled admissible _ schedules
          intro waiting
          exact notQueued waiting.1
      next noWake =>
        have admissible : Admissible tables current :=
          ⟨found, own (Or.inr (Or.inr noWake))⟩
        apply tryWake_settled options call settled admissible _ schedules
        intro waiting
        rw [noWake] at waiting
        simp at waiting

theorem dispatchEach_settled (deliveryIds : List String) (calls : List DispatchCall)
    (settled : Settled tables) (schedules : EachSchedules options deliveryIds calls tables) :
    Settled (dispatchEach options deliveryIds calls tables) := by
  induction deliveryIds generalizing calls tables with
  | nil => exact settled
  | cons deliveryId rest ih =>
    cases calls with
    | nil => exact settled
    | cons call calls =>
      obtain ⟨first, later⟩ := schedules
      have dispatched := dispatch_settled options deliveryId call settled first
      unfold dispatchEach
      split
      next reached isReached =>
        rw [isReached] at dispatched later
        exact ih calls dispatched (later rfl)
      next reached answer _ isReached =>
        rw [isReached] at dispatched
        exact dispatched

theorem recordDelivery_settled (input : NewDelivery) (settled : Settled tables) :
    Ensures (fun state => state = tables) (recordDelivery input)
      (fun _ reached => Settled reached) := by
  apply ensures_read
  apply ensures_expect_then
  intro flow _
  apply ensures_tryChange
  intro state reached isKnown written
  subst isKnown
  obtain ⟨deliveries, inserted, rfl⟩ := Option.map_eq_some_iff.mp written
  have unchanged : ∀ wake ∈ state.wakes,
      deliveries.find wake.deliveryId = state.deliveries.find wake.deliveryId := by
    intro wake wakeIn
    obtain ⟨row, found⟩ := Option.isSome_iff_exists.mp (settled.known wake wakeIn)
    exact (state.deliveries.kept_insert deliveries _ inserted found).trans found.symm
  constructor
  · intro wake wakeIn
    rw [unchanged wake wakeIn]
    exact settled.known wake wakeIn
  · intro wake wakeIn row found
    rw [unchanged wake wakeIn] at found
    exact settled.live wake wakeIn row found
  · exact settled.sequential

theorem createRun_runsKept (runId : String) (known : WakeTables) :
    Ensures (fun state => state = known) (createRun runId)
      (fun _ reached => RunsKept known reached) := by
  apply ensures_tryChange
  intro state reached isKnown written
  subst isKnown
  obtain ⟨runs, inserted, rfl⟩ := Option.map_eq_some_iff.mp written
  exact ⟨rfl, rfl, runsGrow_insert inserted⟩

theorem moveRun_runsKept (runId : String) (status : RunStatus) (events : List RunEvent)
    (known : WakeTables) :
    Ensures (fun state => state = known) (moveRun runId status events)
      (fun _ reached => RunsKept known reached) := by
  apply ensures_read
  apply ensures_expect_then
  intro run found
  apply ensures_demand_then
  intro staysEnded
  apply ensures_change
  rintro state rfl
  refine ⟨rfl, rfl, ?_⟩
  have isKey := state.runs.key_of_find found
  intro other row foundOther
  have present : state.runs.find
      { run with status := status, events := run.events ++ events }.runId = some run := by
    rw [isKey]
    exact found
  by_cases same : run.runId = other
  · have isRow : row = run := by
      rw [← same, isKey, found, Option.some.injEq] at foundOther
      exact foundOther.symm
    subst isRow
    refine ⟨{ row with
      status := status
      events := row.events ++ events }, ?_, staysEnded, List.prefix_append _ _⟩
    exact (state.runs.find_update _ present other).trans (if_pos same)
  · refine ⟨row, ?_, id, List.prefix_rfl⟩
    exact (state.runs.find_update _ present other).trans ((if_neg same).trans foundOther)

theorem surroundings_runsKept (tables : WakeTables) (op : WakeOp) :
    RunsKept tables (surroundings tables op) := by
  have same : ∀ reached : WakeTables, reached.deliveries = tables.deliveries →
      reached.wakes = tables.wakes → reached.runs = tables.runs → RunsKept tables reached := by
    intro reached deliveries wakes runs
    refine ⟨deliveries, wakes, ?_⟩
    rw [runs]
    exact runsGrow_refl tables.runs
  unfold surroundings
  split
  · split <;> exact same _ rfl rfl rfl
  · split <;> exact same _ rfl rfl rfl
  · exact same _ rfl rfl rfl
  · split <;> exact same _ rfl rfl rfl
  · exact runsKept_refl tables

theorem surroundings_settled (op : WakeOp) (settled : Settled tables) :
    Settled (surroundings tables op) :=
  settled_runs settled (surroundings_runsKept tables op)

theorem runsKept_settled {body : WakeTransaction Unit}
    (kept : Ensures (fun state => state = tables) body
      (fun _ reached => RunsKept tables reached)) (settled : Settled tables) :
    Settled (perform body tables) :=
  perform_ensures (ensures_result kept fun _ _ kept => settled_runs settled kept) rfl settled

theorem step_settled (options : WakeOptions) (tables : WakeTables) (op : WakeOp)
    (schedules : Schedules options tables op) (settled : Settled tables) :
    Settled (step options tables op) := by
  cases op with
  | createConversation row => exact surroundings_settled (.createConversation row) settled
  | openFlow row => exact surroundings_settled (.openFlow row) settled
  | moveFlow row => exact surroundings_settled (.moveFlow row) settled
  | submit row => exact surroundings_settled (.submit row) settled
  | recordDelivery input =>
    exact perform_ensures (recordDelivery_settled input settled) rfl settled
  | createRun runId => exact runsKept_settled (createRun_runsKept runId tables) settled
  | moveRun runId status events =>
    exact runsKept_settled (moveRun_runsKept runId status events tables) settled
  | dispatch deliveryId call => exact dispatch_settled options deliveryId call settled schedules
  | deliverRun taskId calls => exact dispatchEach_settled options _ calls settled schedules
  | drain limit calls => exact dispatchEach_settled options _ calls settled schedules
  | completeWakeRun wakeRunId now refusal =>
    exact perform_ensures (completeWakeRun_settled wakeRunId now refusal settled) rfl settled

/-- In every run in which the coordinator throws for no admitted wake Run, every
delivery has one live wake Run at most. -/
theorem one_live_wake_per_delivery (options : WakeOptions) (ops : List WakeOp)
    (schedules : EveryStep (step options) (Schedules options) WakeTables.empty ops) :
    OneLiveWake (reach options ops) := by
  apply oneLiveWake_of_settled
  exact run_invariant_of_everyStep (step options) (Schedules options) Settled
    (step_settled options) WakeTables.empty ops settled_empty schedules

/-- The digests of the submissions below; a system text stands for its digest. -/
def hostOptions : WakeOptions where
  workspaceIds := ["main"]
  sha256 := fun text =>
    if text = "delivery:t1:2:1" then
      "b074c53538e5aab2fd844fcd610f20e018f6e159233c680734b8144ef53b47ef"
    else if text = "delivery:t1:2:2" then
      "086a42bc002c393bbcee654c8ffe6c87701419c5c81d192d910fec55534008cc"
    else "a0a80fa9d9ca9c6590e6b518ec80c2fba0c2247de0d3b71f82937326a95d09f2"
  systemHash := id

def completedChild : List WakeOp :=
  [ .createConversation
      { conversationId := "c1"
        workspaceId := "main" },
    .openFlow
      { flowId := "f1"
        workspaceId := "main"
        ownerKey := "c1"
        controllerId := "goal.plan"
        status := .running
        cancelRequestedAt := none
        revision := 2
        executionRevision := none
        stepRevision := none },
    .recordDelivery
      { taskId := "t1"
        eventSequence := 2
        flowId := "f1"
        taskStatus := .succeeded
        terminalOutcome := some .succeeded
        payload :=
          { output := some "done", terminalSummary := none, errorCode := none }
        now := 5 } ]

def wakeCall (messageId runId : String) (scheduling : Scheduling) : DispatchCall where
  now := 6
  messageId := messageId
  runId := runId
  scheduling := scheduling
  admissionRefusal := none
  recordRefusal := none

/-- The wake Run ends without a decision, and the next dispatch admits another. -/
def wokenAgain : List WakeOp :=
  completedChild ++
    [ .dispatch "delivery:t1:2" (wakeCall "m1" "r1" (.answers true)),
      .moveRun "r1" .completed [],
      .completeWakeRun "r1" 8 none,
      .dispatch "delivery:t1:2" (wakeCall "m2" "r2" (.answers true)) ]

theorem woken_again_one_live : OneLiveWake (reach hostOptions wokenAgain) := by
  apply one_live_wake_per_delivery
  refine ⟨trivial, trivial, trivial, ?_, trivial, trivial, ?_, trivial⟩
  · intro _
    decide
  · intro _
    decide

def schedulerThrows : List WakeOp :=
  completedChild ++
    [ .dispatch "delivery:t1:2" (wakeCall "m1" "r1" (.throws "host is stopping")),
      .dispatch "delivery:t1:2" (wakeCall "m2" "r2" (.answers true)) ]

def twiceWoken : { tables : WakeTables // liveWakes tables "delivery:t1:2" = ["r1", "r2"] } :=
  ⟨reach hostOptions schedulerThrows, by decide +kernel⟩

theorem thrown_schedule_leaves_two_live :
    ¬ OneLiveWake (reach hostOptions schedulerThrows) := by
  have live := twiceWoken.property
  unfold twiceWoken at live
  intro oneLive
  have same : "r1" = "r2" := by
    apply @liveWakes_agree _ "delivery:t1:2" _ _ oneLive
    · simp [live]
    · simp [live]
  simp at same

end OpenRill.Wakes.OneWake
