import OpenRill.Connectors.RunOutput
import OpenRill.Retention.LedgerKept

/-!
# When the output of a run is handed over once

While a delivered row exists its idempotency key answers every later projection
of the run. Retention may delete that row; what is left is a tombstone, which
the projection does not read. The condition is therefore on the steps: no
projection or rescan meets a run that is still deliverable and whose delivered
row was pruned. Every run of operations whose steps all meet it hands the output
over at most once, and a concrete run shows that the condition is needed.
-/

namespace OpenRill.Connectors.OutputOnce

open Lib Lib.Runs Lib.Checked State Ledger Delivery LedgerSteps DispatchOnce RunOutput
open Retention.Deliveries Retention.LedgerKept

variable {first second row : DeliveryRow} {before after tables : ConnectorTables} {now : Nat}
variable {state next : OutputState} {options : ConnectorOptions} {runId deliveryId : String}
variable {attempts : List AttemptRow}

def SameOutput (old row : DeliveryRow) : Prop :=
  row.deliveryId = old.deliveryId ∧ row.runId = old.runId ∧
    row.connectorId = old.connectorId ∧ row.accountId = old.accountId ∧
    row.idempotencyKey = old.idempotencyKey

def Traced (before after : ConnectorTables) : Prop :=
  ∀ row ∈ after.deliveries.rows, ∃ old ∈ before.deliveries.rows, SameOutput old row

theorem sameOutput_refl (row : DeliveryRow) : SameOutput row row :=
  ⟨rfl, rfl, rfl, rfl, rfl⟩

theorem sameOutput_trans {third : DeliveryRow} (earlier : SameOutput first second)
    (later : SameOutput second third) : SameOutput first third := by
  obtain ⟨id, run, connector, account, key⟩ := earlier
  obtain ⟨id', run', connector', account', key'⟩ := later
  exact ⟨id'.trans id, run'.trans run, connector'.trans connector,
    account'.trans account, key'.trans key⟩

theorem traced_of_same (deliveries : after.deliveries = before.deliveries) :
    Traced before after := by
  intro row rowIn
  rw [deliveries] at rowIn
  exact ⟨row, rowIn, sameOutput_refl row⟩

theorem traced_of_update {old : DeliveryRow} (row : DeliveryRow)
    (present : before.deliveries.find row.deliveryId = some old)
    (deliveries : after.deliveries = before.deliveries.update row) (same : SameOutput old row) :
    Traced before after := by
  intro other otherIn
  rw [deliveries, before.deliveries.mem_update_iff row present] at otherIn
  rcases otherIn with isRow | ⟨earlier, -⟩
  · rw [isRow]
    exact ⟨old, before.deliveries.mem_of_find present, same⟩
  · exact ⟨other, earlier, sameOutput_refl other⟩

theorem workStep_traced (change : WorkStep before after) : Traced before after := by
  cases change with
  | idle deliveries attempts receipts deadLetters sources => exact traced_of_same deliveries
  | claim row input present pending fresh deliveries inserted receipts deadLetters sources =>
    exact traced_of_update (row.claimedBy input) present deliveries (sameOutput_refl row)
  | dispatch attempt now present claimed deliveries attempts receipts deadLetters sources =>
    exact traced_of_same deliveries
  | settle attempt delivery input attemptPresent deliveryPresent sameDelivery named live
      delivering deliveries attempts recorded sources =>
      exact traced_of_update (delivery.settledBy input) deliveryPresent deliveries
        (sameOutput_refl delivery)

theorem workStep_sources (change : WorkStep before after) : SourcesKept before after := by
  cases change with
  | idle deliveries attempts receipts deadLetters sources => exact sources
  | claim row input present pending fresh deliveries inserted receipts deadLetters sources =>
    exact sources
  | dispatch attempt now present claimed deliveries attempts receipts deadLetters sources =>
    exact sources
  | settle attempt delivery input attemptPresent deliveryPresent sameDelivery named live
      delivering deliveries attempts recorded sources => exact sources

theorem workPath_traced (path : WorkPath before after) :
    Traced before after ∧ SourcesKept before after := by
  induction path with
  | refl => exact ⟨traced_of_same rfl, rfl, rfl⟩
  | tail earlier change ih =>
    obtain ⟨traced, ingress, bindings⟩ := ih
    obtain ⟨lastIngress, lastBindings⟩ := workStep_sources change
    refine ⟨?_, lastIngress.trans ingress, lastBindings.trans bindings⟩
    intro row rowIn
    obtain ⟨middle, middleIn, sameLast⟩ := workStep_traced change row rowIn
    obtain ⟨old, oldIn, sameFirst⟩ := traced middle middleIn
    exact ⟨old, oldIn, sameOutput_trans sameFirst sameLast⟩

/-- Deliveries are outputs of runs that came in through the connector, one run
for each ingress and one delivery for each key. -/
structure OwnedOutputs (tables : ConnectorTables) : Prop where
  owned : ∀ row ∈ tables.deliveries.rows, ∃ ingress ∈ tables.ingress.rows, ∃ runId,
    ingress.runId = some runId ∧ row.runId = some runId ∧
    row.connectorId = ingress.connectorId ∧ row.accountId = ingress.accountId ∧
    row.idempotencyKey = runOutputKey runId
  ingressOnce : ∀ first ∈ tables.ingress.rows, ∀ second ∈ tables.ingress.rows,
    first.runId = second.runId → first = second
  keysOnce : ∀ first ∈ tables.deliveries.rows, ∀ second ∈ tables.deliveries.rows,
    first.connectorId = second.connectorId → first.accountId = second.accountId →
    first.idempotencyKey = second.idempotencyKey → first = second

structure OutputCorrect (tables : ConnectorTables) : Prop where
  ledger : LedgerCorrect tables
  outputs : OwnedOutputs tables

theorem outputCorrect_empty : OutputCorrect ConnectorTables.empty where
  ledger := ledgerCorrect_empty
  outputs :=
    { owned := by simp [ConnectorTables.empty, Table.empty]
      ingressOnce := by simp [ConnectorTables.empty, Table.empty]
      keysOnce := by simp [ConnectorTables.empty, Table.empty] }

theorem output_unique (outputs : OwnedOutputs tables) (firstIn : first ∈ tables.deliveries.rows)
    (secondIn : second ∈ tables.deliveries.rows) (sameRun : first.runId = second.runId) :
    first = second := by
  obtain ⟨ingress, ingressIn, runId, adopted, ofRun, connector, account, key⟩ :=
    outputs.owned first firstIn
  obtain ⟨ingress', ingressIn', runId', adopted', ofRun', connector', account', key'⟩ :=
    outputs.owned second secondIn
  have runs : runId = runId' := by
    rw [ofRun, ofRun', Option.some.injEq] at sameRun
    exact sameRun
  subst runs
  have oneIngress : ingress = ingress' :=
    outputs.ingressOnce ingress ingressIn ingress' ingressIn' (adopted.trans adopted'.symm)
  subst oneIngress
  exact outputs.keysOnce first firstIn second secondIn (connector.trans connector'.symm)
    (account.trans account'.symm) (key.trans key'.symm)

theorem outputs_of_traced (outputs : OwnedOutputs before) (traced : Traced before after)
    (ingress : after.ingress = before.ingress) : OwnedOutputs after where
  owned := by
    intro row rowIn
    obtain ⟨old, oldIn, -, run, connector, account, key⟩ := traced row rowIn
    rw [ingress, run, connector, account, key]
    exact outputs.owned old oldIn
  ingressOnce := by
    rw [ingress]
    exact outputs.ingressOnce
  keysOnce := by
    intro first firstIn second secondIn sameConnector sameAccount sameKey
    obtain ⟨old, oldIn, id, -, connector, account, key⟩ := traced first firstIn
    obtain ⟨old', oldIn', id', -, connector', account', key'⟩ := traced second secondIn
    have sameOld : old = old' := by
      apply outputs.keysOnce old oldIn old' oldIn'
      · rw [← connector, ← connector', sameConnector]
      · rw [← account, ← account', sameAccount]
      · rw [← key, ← key', sameKey]
    apply after.deliveries.row_unique firstIn secondIn
    rw [id, id', sameOld]

theorem work_outputCorrect (correct : OutputCorrect before) (path : WorkPath before after) :
    OutputCorrect after where
  ledger := ledgerPath_correct (workPath_ledgerPath path) correct.ledger
  outputs :=
    outputs_of_traced correct.outputs (workPath_traced path).1 (workPath_traced path).2.1

theorem deadline_outputCorrect (correct : OutputCorrect tables) (deadline : Nat)
    (present : tables.deliveries.find row.deliveryId = some row) :
    OutputCorrect (withDeadline tables row deadline) where
  ledger := correct_withDeadline correct.ledger deadline present
  outputs :=
    outputs_of_traced correct.outputs
      (traced_of_update (DeliveryRow.withCleanup row deadline) present rfl
        (sameOutput_refl row)) rfl

theorem deleteDelivery_outputCorrect (correct : OutputCorrect tables)
    (present : tables.deliveries.find row.deliveryId = some row)
    (safe : safeTerminal row.status = true) :
    OutputCorrect (deleteDelivery tables row.deliveryId) where
  ledger := correct_deleteDelivery correct.ledger present safe
  outputs := by
    have traced : Traced tables (deleteDelivery tables row.deliveryId) := by
      intro other otherIn
      have kept := (mem_deleteDelivery_iff row.deliveryId other).mp otherIn
      exact ⟨other, kept.1, sameOutput_refl other⟩
    exact outputs_of_traced correct.outputs traced rfl

variable {connectorId : String} {ingress : IngressRow} {request : DeliveryRequest}

def Takes (options : ConnectorOptions) (tables : ConnectorTables) (connectorId : String)
    (request : DeliveryRequest) : Prop :=
  validateRequest connectorId request = .ok () ∧
    ∃ owner, account options tables connectorId request.accountId = .ok owner ∧
      ∃ conversation, tables.conversations.find request.conversationId = some conversation ∧
        conversation.workspaceId = owner.workspaceId

/-- The run is completed with text, its ingress is adopted and bound to its
conversation, and the connector account takes deliveries. -/
def Deliverable (options : ConnectorOptions) (state : OutputState) (runId : String) :
    Prop :=
  bounded runId "runId" 128 idPattern = .ok () ∧
    ∃ context ingress bindingId binding,
      state.runs.find runId = some context ∧
      getIngressByRunId state.tables runId = some ingress ∧
      context.status = .completed ∧ completionText context.messages ≠ "" ∧
      ingress.status = .adopted ∧ ingress.bindingId = some bindingId ∧
      state.tables.bindings.find bindingId = some binding ∧
      binding.conversationId = context.conversationId ∧
      Takes options state.tables ingress.connectorId
        (outputRequest ingress binding runId (completionText context.messages))

def OutputState.withDeliveries (state : OutputState)
    (deliveries : Table DeliveryRow.deliveryId) : OutputState :=
  { state with tables := { state.tables with deliveries := deliveries } }

/-- What a projection may write: nothing, or the first delivery under its key. -/
inductive ProjectionStep (options : ConnectorOptions) (runId : String) :
    OutputState → OutputState → Prop where
  | unchanged (state : OutputState) : ProjectionStep options runId state state
  | enqueued (state : OutputState) (ingress : IngressRow) (row : DeliveryRow)
      (deliveries : Table DeliveryRow.deliveryId)
      (deliverable : Deliverable options state runId)
      (source : ingress ∈ state.tables.ingress.rows)
      (adopted : ingress.runId = some runId)
      (owned : row.runId = some runId ∧ row.connectorId = ingress.connectorId ∧
        row.accountId = ingress.accountId ∧ row.idempotencyKey = runOutputKey runId)
      (pending : row.status = .pending)
      (first : getDeliveryByIdempotency state.tables row.connectorId row.accountId
        row.idempotencyKey = none)
      (inserted : state.tables.deliveries.insert row = some deliveries) :
      ProjectionStep options runId state (OutputState.withDeliveries state deliveries)

theorem getIngressByRunId_some (found : getIngressByRunId tables runId = some ingress) :
    ingress ∈ tables.ingress.rows ∧ ingress.runId = some runId := by
  have inSorted := List.mem_of_mem_head? found
  rw [List.mem_insertionSort] at inSorted
  obtain ⟨ingressIn, named⟩ := List.mem_filter.mp inSorted
  exact ⟨ingressIn, by simpa using named⟩

theorem planRunOutput_enqueue {context : RunContext}
    (planned : planRunOutput tables context = .enqueue connectorId request) :
    ∃ ingress bindingId binding,
      getIngressByRunId tables context.runId = some ingress ∧
      context.status = .completed ∧ completionText context.messages ≠ "" ∧
      ingress.status = .adopted ∧ ingress.bindingId = some bindingId ∧
      tables.bindings.find bindingId = some binding ∧
      binding.conversationId = context.conversationId ∧
      connectorId = ingress.connectorId ∧
      request = outputRequest ingress binding context.runId (completionText context.messages) := by
  unfold planRunOutput at planned
  cases found : getIngressByRunId tables context.runId with
  | none => simp [found] at planned
  | some ingress =>
    simp only [found] at planned
    by_cases completed : context.status = .completed
    · by_cases empty : completionText context.messages = ""
      · simp [completed, empty] at planned
      rw [if_neg (by simp [completed]), if_neg empty] at planned
      split at planned
      next bindingId status bound =>
        cases looked : tables.bindings.find bindingId with
        | none => simp [looked] at planned
        | some binding =>
          simp only [looked] at planned
          by_cases matching : binding.conversationId = context.conversationId
          · rw [if_pos matching, ProjectionPlan.enqueue.injEq] at planned
            exact ⟨ingress, bindingId, binding, rfl, completed, empty, status, bound,
              looked, matching, planned.1.symm, planned.2.symm⟩
          · simp [matching] at planned
      next => simp at planned
    · simp [completed] at planned

theorem enqueueDelivery_cases {written : ConnectorTables} {result : DeliveryRow × Bool}
    (done : enqueueDelivery options tables connectorId request now deliveryId =
      .ok (written, result)) :
    Takes options tables connectorId request ∧
      (written = tables ∨
        ∃ deliveries,
          getDeliveryByIdempotency tables connectorId request.accountId
            request.idempotencyKey = none ∧
          tables.deliveries.insert
            (request.toRow options.hash connectorId deliveryId now) = some deliveries ∧
          written = { tables with deliveries := deliveries }) := by
  simp only [enqueueDelivery, bind_ok_iff, fetch_ok_iff, require_ok_iff] at done
  obtain ⟨⟨⟩, validated, owner, ownerDone, conversation, found, -, sameWorkspace, rest⟩ := done
  refine ⟨⟨validated, owner, ownerDone, conversation, found, sameWorkspace⟩, ?_⟩
  split at rest
  · simp only [bind_ok_iff, pure_ok_iff, Prod.mk.injEq] at rest
    obtain ⟨-, -, isSame, -⟩ := rest
    left
    exact isSame.symm
  next missed =>
    simp only [insertDelivery, bind_ok_iff, pure_ok_iff, fetch_ok_iff, Prod.mk.injEq] at rest
    obtain ⟨after, ⟨-, -, deliveries, inserted, afterEq⟩, writtenEq, -⟩ := rest
    right
    exact ⟨deliveries, missed, inserted, by rw [← writtenEq, ← afterEq]⟩

theorem mapError_ok {Failure Other Value : Type} (body : Except Failure Value)
    (rename : Failure → Other) (value : Value) :
    body.mapError rename = .ok value ↔ body = .ok value := by
  cases body with
  | error failure => simp [Except.mapError]
  | ok other => simp [Except.mapError]

theorem projectRunOutput_step {projection : RunProjection}
    (done : projectRunOutput options state runId now deliveryId = .ok (next, projection)) :
    ProjectionStep options runId state next := by
  simp only [projectRunOutput, bind_ok_iff, mapError_ok, fetch_ok_iff] at done
  obtain ⟨⟨⟩, validId, context, contextFound, rest⟩ := done
  have isRun : context.runId = runId := state.runs.key_of_find contextFound
  split at rest
  · simp only [pure_ok_iff, Prod.mk.injEq] at rest
    rw [← rest.1]
    exact ProjectionStep.unchanged state
  · simp only [pure_ok_iff, Prod.mk.injEq] at rest
    rw [← rest.1]
    exact ProjectionStep.unchanged state
  next connectorId request planned =>
    obtain ⟨ingress, bindingId, binding, ingressFound, completed, hasText, adopted, bound,
      bindingFound, matching, rfl, rfl⟩ := planRunOutput_enqueue planned
    rw [isRun] at ingressFound
    simp only [bind_ok_iff, mapError_ok, pure_ok_iff, Prod.mk.injEq] at rest
    obtain ⟨⟨written, result⟩, queued, nextEq, -⟩ := rest
    obtain ⟨takes, unchanged | ⟨deliveries, first, inserted, writtenEq⟩⟩ :=
      enqueueDelivery_cases queued
    · rw [← nextEq, unchanged]
      exact ProjectionStep.unchanged state
    rw [isRun] at takes
    have deliverable : Deliverable options state runId :=
      ⟨validId, context, ingress, bindingId, binding, contextFound, ingressFound, completed,
        hasText, adopted, bound, bindingFound, matching, takes⟩
    obtain ⟨source, ofRun⟩ := getIngressByRunId_some ingressFound
    rw [← nextEq, writtenEq]
    refine ProjectionStep.enqueued state ingress _ deliveries deliverable source ofRun
      ⟨?_, rfl, rfl, ?_⟩ rfl first inserted
    · simp [DeliveryRequest.toRow, outputRequest, isRun]
    · simp [DeliveryRequest.toRow, outputRequest, isRun]

theorem recoverEach_preserves (options : ConnectorOptions) (createId : Nat → String)
    (now : Nat) (property : OutputState → Prop) (rows : List IngressRow)
    (kept : ∀ ingress ∈ rows, ∀ runId, ingress.runId = some runId →
      ∀ state next, property state → ProjectionStep options runId state next → property next)
    (seen : List String) (state : OutputState) (count : OutputRecovery)
    (initially : property state) :
    property (recoverEach options createId now rows seen state count).1 := by
  induction rows generalizing seen state count with
  | nil => exact initially
  | cons ingress rows ih =>
    have keptLater := fun other otherIn => kept other (List.mem_cons_of_mem ingress otherIn)
    unfold recoverEach
    cases adopted : ingress.runId with
    | none => exact ih keptLater seen state _ initially
    | some runId =>
      simp only
      by_cases again : runId ∈ seen
      · rw [if_pos again]
        exact ih keptLater seen state _ initially
      rw [if_neg again]
      cases projected : projectRunOutput options state runId now (createId count.projected) with
      | error failure => exact initially
      | ok result =>
        have written : ProjectionStep options runId state result.1 :=
          projectRunOutput_step projected
        exact ih keptLater _ _ _
          (kept ingress (by simp) runId adopted state result.1 initially written)

theorem enqueue_outputCorrect (correct : OutputCorrect tables)
    {deliveries : Table DeliveryRow.deliveryId} (source : ingress ∈ tables.ingress.rows)
    (adopted : ingress.runId = some runId)
    (owned : row.runId = some runId ∧ row.connectorId = ingress.connectorId ∧
      row.accountId = ingress.accountId ∧ row.idempotencyKey = runOutputKey runId)
    (pending : row.status = .pending)
    (first : getDeliveryByIdempotency tables row.connectorId row.accountId
      row.idempotencyKey = none) (inserted : tables.deliveries.insert row = some deliveries) :
    OutputCorrect { tables with deliveries := deliveries } where
  ledger := correct_enqueue correct.ledger pending inserted rfl rfl rfl
  outputs := by
    have rowsEq := ((tables.deliveries.insert_some_iff deliveries row).mp inserted).2
    have noneYet : ∀ other ∈ tables.deliveries.rows,
        ¬ (other.connectorId = row.connectorId ∧ other.accountId = row.accountId ∧
          other.idempotencyKey = row.idempotencyKey) := by
      simpa [getDeliveryByIdempotency, List.find?_eq_none] using first
    refine ⟨?_, correct.outputs.ingressOnce, ?_⟩
    · intro other otherIn
      rw [rowsEq] at otherIn
      rcases List.mem_append.mp otherIn with earlier | isNew
      · exact correct.outputs.owned other earlier
      · have isRow : other = row := by simpa using isNew
        rw [isRow]
        exact ⟨ingress, source, runId, adopted, owned⟩
    · intro one oneIn two twoIn sameConnector sameAccount sameKey
      rw [rowsEq] at oneIn twoIn
      rcases List.mem_append.mp oneIn with oneEarlier | oneNew
      · rcases List.mem_append.mp twoIn with twoEarlier | twoNew
        · exact correct.outputs.keysOnce one oneEarlier two twoEarlier sameConnector
            sameAccount sameKey
        · have isRow : two = row := by simpa using twoNew
          rw [isRow] at sameConnector sameAccount sameKey
          exact absurd ⟨sameConnector, sameAccount, sameKey⟩ (noneYet one oneEarlier)
      · have oneIsRow : one = row := by simpa using oneNew
        rcases List.mem_append.mp twoIn with twoEarlier | twoNew
        · rw [oneIsRow] at sameConnector sameAccount sameKey
          exact absurd ⟨sameConnector.symm, sameAccount.symm, sameKey.symm⟩ (noneYet two twoEarlier)
        · have twoIsRow : two = row := by simpa using twoNew
          rw [oneIsRow, twoIsRow]

theorem projectionStep_outputCorrect (correct : OutputCorrect state.tables)
    (written : ProjectionStep options runId state next) : OutputCorrect next.tables := by
  cases written with
  | unchanged => exact correct
  | enqueued ingress row deliveries deliverable source adopted owned pending first inserted =>
    exact enqueue_outputCorrect correct source adopted owned pending first inserted

theorem admitIngress_outputCorrect (ingress : IngressRow) (binding : BindingRow)
    (correct : OutputCorrect state.tables) :
    OutputCorrect (admitIngress state ingress binding).tables := by
  unfold admitIngress
  split
  next admitted =>
    split
    · exact correct
    next rows inserted =>
      have rowsEq := ((state.tables.ingress.insert_some_iff rows ingress).mp inserted).2
      have outputs : ∀ bindings, OwnedOutputs
          { state.tables with ingress := rows, bindings := bindings } := by
        intro bindings
        refine ⟨?_, ?_, correct.outputs.keysOnce⟩
        · intro row rowIn
          obtain ⟨source, sourceIn, owned⟩ := correct.outputs.owned row rowIn
          refine ⟨source, ?_, owned⟩
          rw [rowsEq]
          exact List.mem_append_left _ sourceIn
        · intro first firstIn second secondIn sameRun
          rw [rowsEq] at firstIn secondIn
          rcases List.mem_append.mp firstIn with firstEarlier | firstNew
          · rcases List.mem_append.mp secondIn with secondEarlier | secondNew
            · exact correct.outputs.ingressOnce first firstEarlier second secondEarlier sameRun
            · have isIngress : second = ingress := by simpa using secondNew
              rw [isIngress] at sameRun
              exact absurd sameRun (admitted.2 first firstEarlier)
          · have firstIs : first = ingress := by simpa using firstNew
            rcases List.mem_append.mp secondIn with secondEarlier | secondNew
            · rw [firstIs] at sameRun
              exact absurd sameRun.symm (admitted.2 second secondEarlier)
            · have secondIs : second = ingress := by simpa using secondNew
              rw [firstIs, secondIs]
      split
      · exact ⟨correct_idle correct.ledger rfl rfl rfl rfl, outputs state.tables.bindings⟩
      · exact ⟨correct_idle correct.ledger rfl rfl rfl rfl, outputs _⟩
  · exact correct

theorem admitIngress_frame (state : OutputState) (ingress : IngressRow)
    (binding : BindingRow) :
    (admitIngress state ingress binding).tables.deliveries = state.tables.deliveries ∧
      (admitIngress state ingress binding).tables.attempts = state.tables.attempts ∧
      (admitIngress state ingress binding).tombstones = state.tombstones := by
  unfold admitIngress
  split
  · split
    · exact ⟨rfl, rfl, rfl⟩
    · split
      · exact ⟨rfl, rfl, rfl⟩
      · exact ⟨rfl, rfl, rfl⟩
  · exact ⟨rfl, rfl, rfl⟩

theorem setRunContext_frame (state : OutputState) (context : RunContext) :
    (setRunContext state context).tables = state.tables ∧
      (setRunContext state context).tombstones = state.tombstones := by
  unfold setRunContext
  split
  · exact ⟨rfl, rfl⟩
  · split
    · exact ⟨rfl, rfl⟩
    · exact ⟨rfl, rfl⟩

theorem worker_path (options : ConnectorOptions) (tables : ConnectorTables)
    (op : WorkerOp) : WorkPath tables (Delivery.step options tables op.toDeliveryOp) := by
  apply step_workPath
  cases op <;> trivial

theorem prune_cases (options : ConnectorOptions) (state : OutputState)
    (deliveryId : String) (now : Nat) :
    RunOutput.step options state (.prune deliveryId now) = state ∨
      ∃ row workspaceId written,
        state.tables.deliveries.find row.deliveryId = some row ∧
        safeTerminal row.status = true ∧
        state.tombstones.insert (tombstoneOf row workspaceId now) = some written ∧
        RunOutput.step options state (.prune deliveryId now) =
          { state with
            tables := deleteDelivery state.tables row.deliveryId
            tombstones := written } := by
  cases pruned : pruneDelivery state.tables state.tombstones deliveryId now with
  | error failure =>
    left
    simp [RunOutput.step, pruned]
  | ok result =>
    obtain ⟨⟨tables, tombstones⟩, outcome⟩ := result
    rcases pruneDelivery_cases pruned with ⟨rfl, rfl⟩ | ⟨row, workspaceId, present, safe,
      inserted, rfl⟩
    · left
      simp [RunOutput.step, pruned]
    · right
      exact ⟨row, workspaceId, tombstones, present, safe, inserted, by
        simp [RunOutput.step, pruned]⟩

theorem step_outputCorrect (options : ConnectorOptions) (state : OutputState)
    (op : OutputOp) (correct : OutputCorrect state.tables) :
    OutputCorrect (RunOutput.step options state op).tables := by
  cases op with
  | worker op => exact work_outputCorrect correct (worker_path options state.tables op)
  | setRunContext context =>
    simp only [RunOutput.step]
    rw [(setRunContext_frame state context).1]
    exact correct
  | admitIngress ingress binding => exact admitIngress_outputCorrect ingress binding correct
  | projectRunOutput runId now deliveryId =>
    exact commit_preserves (fun reached => OutputCorrect reached.tables) state _ correct
      fun _ _ done => projectionStep_outputCorrect correct (projectRunOutput_step done)
  | recoverRunOutputs now createId =>
    exact recoverEach_preserves options createId now
      (fun reached => OutputCorrect reached.tables) _
      (fun _ _ _ _ _ _ earlier written => projectionStep_outputCorrect earlier written)
      _ _ _ correct
  | scheduleRetention workspaceId retentionMs limit =>
    exact schedule_preserves OutputCorrect
      (fun _ _ deadline earlier present => deadline_outputCorrect earlier deadline present)
      state.tables workspaceId retentionMs limit correct
  | prune deliveryId now =>
    rcases prune_cases options state deliveryId now with
      unchanged | ⟨row, workspaceId, written, present, safe, -, reached⟩
    · rw [unchanged]
      exact correct
    · rw [reached]
      exact deleteDelivery_outputCorrect correct present safe

/-- A pruned delivered row of the run has left its tombstone. -/
def DeliveredBefore (state : OutputState) (runId : String) : Prop :=
  ∃ tombstone ∈ state.tombstones.rows,
    tombstone.entityKind = .connectorDelivery ∧ tombstone.sourceRef = some runId ∧
    tombstone.terminalStatus = deliveryStatusText .delivered

/-- What is left of a delivered output: its row with its attempts, or only its
tombstone. -/
inductive Remembered (runId deliveryId : String) (attempts : List AttemptRow)
    (state : OutputState) : Prop where
  | held (row : DeliveryRow)
      (present : state.tables.deliveries.find deliveryId = some row)
      (ofRun : row.runId = some runId) (delivered : row.status = .delivered)
      (final : attemptsOf state.tables deliveryId = attempts) :
      Remembered runId deliveryId attempts state
  | pruned (absent : ∀ row ∈ state.tables.deliveries.rows, row.runId ≠ some runId)
      (tombstone : DeliveredBefore state runId) :
      Remembered runId deliveryId attempts state

theorem remembered_of_same (remembered : Remembered runId deliveryId attempts state)
    (deliveries : next.tables.deliveries = state.tables.deliveries)
    (sameAttempts : next.tables.attempts = state.tables.attempts)
    (tombstones : next.tombstones = state.tombstones) :
    Remembered runId deliveryId attempts next := by
  cases remembered with
  | held row present ofRun delivered final =>
    refine Remembered.held row ?_ ofRun delivered ?_
    · rw [deliveries]
      exact present
    · simp only [attemptsOf, sameAttempts]
      exact final
  | pruned absent tombstone =>
    refine Remembered.pruned ?_ ?_
    · rw [deliveries]
      exact absent
    · unfold DeliveredBefore
      rw [tombstones]
      exact tombstone

theorem remembered_work (remembered : Remembered runId deliveryId attempts state)
    (correct : OutputCorrect state.tables) (path : WorkPath state.tables tables) :
    Remembered runId deliveryId attempts { state with tables := tables } := by
  cases remembered with
  | held row present ofRun delivered final =>
    have isRow := state.tables.deliveries.key_of_find present
    subst isRow
    have isFinal : finalStatus row.status = true := by
      rw [delivered]
      rfl
    obtain ⟨stays, sameAttempts⟩ :=
      ledgerPath_frozen (workPath_ledgerPath path) correct.ledger row present isFinal
    exact Remembered.held row stays ofRun delivered (sameAttempts.trans final)
  | pruned absent tombstone =>
    refine Remembered.pruned ?_ tombstone
    intro row rowIn
    obtain ⟨old, oldIn, -, sameRun, -⟩ := (workPath_traced path).1 row rowIn
    rw [sameRun]
    exact absent old oldIn

theorem remembered_deadline (deadline : Nat)
    (remembered : Remembered runId deliveryId attempts state)
    (present : state.tables.deliveries.find row.deliveryId = some row) :
    Remembered runId deliveryId attempts
      { state with tables := withDeadline state.tables row deadline } := by
  have traced : Traced state.tables (withDeadline state.tables row deadline) :=
    traced_of_update (DeliveryRow.withCleanup row deadline) present rfl (sameOutput_refl row)
  cases remembered with
  | held kept keptPresent ofRun delivered final =>
    have found := state.tables.deliveries.find_update (DeliveryRow.withCleanup row deadline)
      present deliveryId
    by_cases same : (DeliveryRow.withCleanup row deadline).deliveryId = deliveryId
    · rw [if_pos same] at found
      have isKept : row = kept := by
        have rowPresent : state.tables.deliveries.find deliveryId = some row := by
          rw [← same]
          exact present
        rw [keptPresent, Option.some.injEq] at rowPresent
        exact rowPresent.symm
      rw [← isKept] at ofRun delivered
      exact Remembered.held (DeliveryRow.withCleanup row deadline) found ofRun delivered final
    · rw [if_neg same] at found
      exact Remembered.held kept (found.trans keptPresent) ofRun delivered final
  | pruned absent tombstone =>
    refine Remembered.pruned ?_ tombstone
    intro other otherIn
    obtain ⟨old, oldIn, -, sameRun, -⟩ := traced other otherIn
    rw [sameRun]
    exact absent old oldIn

theorem remembered_prune {workspaceId : String} {written : Table TombstoneRow.entityKey}
    (remembered : Remembered runId deliveryId attempts state) (correct : OutputCorrect state.tables)
    (present : state.tables.deliveries.find row.deliveryId = some row)
    (inserted : state.tombstones.insert (tombstoneOf row workspaceId now) = some written) :
    Remembered runId deliveryId attempts
      { state with
        tables := deleteDelivery state.tables row.deliveryId
        tombstones := written } := by
  have tombstones := ((state.tombstones.insert_some_iff written _).mp inserted).2
  cases remembered with
  | held kept keptPresent ofRun delivered final =>
    by_cases same : deliveryId = row.deliveryId
    · have isKept : row = kept := by
        rw [same, present, Option.some.injEq] at keptPresent
        exact keptPresent
      rw [← isKept] at ofRun delivered
      refine Remembered.pruned ?_ ?_
      · intro other otherIn sameRun
        obtain ⟨otherPresent, different⟩ :=
          (mem_deleteDelivery_iff row.deliveryId other).mp otherIn
        have isRow := output_unique correct.outputs otherPresent
          (state.tables.deliveries.mem_of_find present) (sameRun.trans ofRun.symm)
        exact different (congrArg DeliveryRow.deliveryId isRow)
      · refine ⟨tombstoneOf row workspaceId now, ?_, rfl, ?_, ?_⟩
        · simp [tombstones]
        · simp [tombstoneOf, ofRun]
        · simp [tombstoneOf, delivered]
    · refine Remembered.held kept ?_ ofRun delivered ?_
      · rw [find_deleteDelivery _ _ same]
        exact keptPresent
      rw [← final]
      simp only [attemptsOf, deleteDelivery, Table.deleteWhere, List.filter_filter]
      apply List.filter_congr
      intro attempt _
      by_cases ofKept : attempt.deliveryId = deliveryId
      · simp [ofKept, same]
      · simp [ofKept]
  | pruned absent tombstone =>
    refine Remembered.pruned ?_ ?_
    · intro other otherIn
      exact absent other ((mem_deleteDelivery_iff row.deliveryId other).mp otherIn).1
    · obtain ⟨left, leftIn, facts⟩ := tombstone
      exact ⟨left, by simp [tombstones, leftIn], facts⟩

/-- The run can be enqueued although its delivered row was pruned. -/
def Reprojects (options : ConnectorOptions) (state : OutputState) (runId : String) : Prop :=
  DeliveredBefore state runId ∧ Deliverable options state runId

theorem remembered_projection {projected : String}
    (remembered : Remembered runId deliveryId attempts state)
    (written : ProjectionStep options projected state next)
    (never : ¬ Reprojects options state projected) : Remembered runId deliveryId attempts next := by
  cases written with
  | unchanged => exact remembered
  | enqueued ingress row deliveries deliverable source adopted owned pending first inserted =>
    obtain ⟨fresh, rowsEq⟩ :=
      (state.tables.deliveries.insert_some_iff deliveries row).mp inserted
    cases remembered with
    | held kept present ofRun delivered final =>
      have stands := state.tables.deliveries.kept_insert deliveries row inserted present
      exact Remembered.held kept stands ofRun delivered final
    | pruned absent tombstone =>
      refine Remembered.pruned ?_ tombstone
      have otherRun : projected ≠ runId := by
        intro same
        rw [same] at never deliverable
        exact never ⟨tombstone, deliverable⟩
      intro other otherIn
      have otherRows : other ∈ deliveries.rows := otherIn
      rw [rowsEq] at otherRows
      rcases List.mem_append.mp otherRows with earlier | isNew
      · exact absent other earlier
      · have isRow : other = row := by simpa using isNew
        rw [isRow, owned.1]
        simpa using otherRun

def reprojects (options : ConnectorOptions) (state : OutputState) : OutputOp → Prop
  | .projectRunOutput runId _ _ => Reprojects options state runId
  | .recoverRunOutputs _ _ =>
    ∃ ingress ∈ adoptedIngress state.tables 1000, ∃ runId,
      ingress.runId = some runId ∧ Reprojects options state runId
  | _ => False

/-- The rescan writes deliveries only, so a run it may not project at its start
it may not project later. -/
theorem remembered_recovery {createId : Nat → String}
    (remembered : Remembered runId deliveryId attempts state)
    (never : ¬ reprojects options state (.recoverRunOutputs now createId)) :
    Remembered runId deliveryId attempts (recoverRunOutputs options state now createId).1 := by
  have kept := recoverEach_preserves options createId now
    (fun reached =>
      (∃ deliveries, reached = OutputState.withDeliveries state deliveries) ∧
        Remembered runId deliveryId attempts reached)
    (adoptedIngress state.tables 1000)
    (by
      rintro ingress ingressIn projected adopted reached next ⟨⟨deliveries, rfl⟩, earlier⟩ written
      have allowed : ¬ Reprojects options (OutputState.withDeliveries state deliveries)
          projected := by
        intro again
        exact never ⟨ingress, ingressIn, projected, adopted, again⟩
      refine ⟨?_, remembered_projection earlier written allowed⟩
      cases written with
      | unchanged => exact ⟨deliveries, rfl⟩
      | enqueued _ _ later => exact ⟨later, rfl⟩)
    [] state
    { projected := 0, replayed := 0, skipped := 0, deliveries := [] }
    ⟨⟨state.tables.deliveries, rfl⟩, remembered⟩
  exact kept.2

theorem step_remembered (op : OutputOp) (correct : OutputCorrect state.tables)
    (never : ¬ reprojects options state op)
    (remembered : Remembered runId deliveryId attempts state) :
    Remembered runId deliveryId attempts (RunOutput.step options state op) := by
  cases op with
  | worker op => exact remembered_work remembered correct (worker_path options state.tables op)
  | setRunContext context =>
    obtain ⟨tables, tombstones⟩ := setRunContext_frame state context
    exact remembered_of_same remembered (congrArg ConnectorTables.deliveries tables)
      (congrArg ConnectorTables.attempts tables) tombstones
  | admitIngress ingress binding =>
    obtain ⟨deliveries, sameAttempts, tombstones⟩ := admitIngress_frame state ingress binding
    exact remembered_of_same remembered deliveries sameAttempts tombstones
  | projectRunOutput projected now newId =>
    exact commit_preserves (Remembered runId deliveryId attempts) state _ remembered
      fun _ _ done => remembered_projection remembered (projectRunOutput_step done) never
  | recoverRunOutputs now createId => exact remembered_recovery remembered never
  | scheduleRetention workspaceId retentionMs limit =>
    exact schedule_preserves
      (fun tables => Remembered runId deliveryId attempts { state with tables := tables })
      (fun tables row deadline earlier present => remembered_deadline deadline earlier present)
      state.tables workspaceId retentionMs limit remembered
  | prune pruned now =>
    rcases prune_cases options state pruned now with
      unchanged | ⟨row, workspaceId, written, present, -, inserted, reached⟩
    · rw [unchanged]
      exact remembered
    · rw [reached]
      exact remembered_prune remembered correct present inserted

/-- Once an output was delivered, whatever delivery its run has later is that
one, still delivered and with no attempt added. -/
def HandedOverOnce (options : ConnectorOptions) (ops : List OutputOp) : Prop :=
  ∀ earlier later rest, ops = earlier ++ later ++ rest →
    ∀ delivered ∈ (run (RunOutput.step options) OutputState.empty earlier).tables.deliveries.rows,
      delivered.status = .delivered →
      ∀ row ∈ (run (RunOutput.step options) OutputState.empty
          (earlier ++ later)).tables.deliveries.rows,
        row.runId = delivered.runId →
        row.deliveryId = delivered.deliveryId ∧ row.status = .delivered ∧
        attemptsOf (run (RunOutput.step options) OutputState.empty
            (earlier ++ later)).tables row.deliveryId =
          attemptsOf (run (RunOutput.step options) OutputState.empty earlier).tables
            delivered.deliveryId

/-- A run's output is handed over at most once along every run of operations
that never projects a run whose delivered row was pruned. -/
theorem run_output_handed_over_once (options : ConnectorOptions) (ops : List OutputOp)
    (never : EveryStep (RunOutput.step options)
      (fun state op => ¬ reprojects options state op) OutputState.empty ops) :
    HandedOverOnce options ops := by
  intro earlier later rest isSplit delivered deliveredIn isDelivered row rowIn sameRun
  rw [isSplit, everyStep_append, everyStep_append] at never
  obtain ⟨⟨-, neverLater⟩, -⟩ := never
  rw [run_append] at rowIn ⊢
  have correct : OutputCorrect
      (run (RunOutput.step options) OutputState.empty earlier).tables :=
    run_invariant (RunOutput.step options) (fun state => OutputCorrect state.tables)
      (step_outputCorrect options) OutputState.empty earlier outputCorrect_empty
  generalize run (RunOutput.step options) OutputState.empty earlier = middle at *
  obtain ⟨-, -, runId, -, ofRun, -⟩ := correct.outputs.owned delivered deliveredIn
  have initially : Remembered runId delivered.deliveryId
      (attemptsOf middle.tables delivered.deliveryId) middle :=
    Remembered.held delivered (middle.tables.deliveries.find_of_mem deliveredIn) ofRun
      isDelivered rfl
  have reached := run_invariant_of_everyStep (RunOutput.step options)
    (fun state op => ¬ reprojects options state op)
    (fun state => OutputCorrect state.tables ∧
      Remembered runId delivered.deliveryId (attemptsOf middle.tables delivered.deliveryId) state)
    (fun state op allowed invariant =>
      ⟨step_outputCorrect options state op invariant.1,
        step_remembered op invariant.1 allowed invariant.2⟩)
    middle later ⟨correct, initially⟩ neverLater
  rw [ofRun] at sameRun
  cases reached.2 with
  | held kept present keptRun keptDelivered final =>
    have isKept : row = kept := output_unique reached.1.outputs rowIn
      (Table.mem_of_find _ present) (sameRun.trans keptRun.symm)
    have sameId : row.deliveryId = delivered.deliveryId := by
      rw [isKept]
      exact Table.key_of_find _ present
    refine ⟨sameId, ?_, ?_⟩
    · rw [isKept]
      exact keptDelivered
    · rw [sameId]
      exact final
  | pruned absent tombstone => exact absurd sameRun (absent row rowIn)

def mattermostHost : ConnectorOptions where
  workspaceIds := ["main"]
  hash := id
  deliveryLeaseMs := 60000
  maxDeliveryAttempts := 5
  leaseBounded := by decide
  attemptsBounded := by decide

def deliveredOps : List OutputOp :=
  [ .worker (.registerAccount
      { connectorId := "mattermost"
        accountId := "bot"
        workspaceId := "main"
        extensionId := "mattermost"
        status := none } 1),
    .worker (.createConversation
      { conversationId := "c1"
        workspaceId := "main" }),
    .setRunContext
      { runId := "r1"
        conversationId := "c1"
        status := .completed
        messages := [{ fromAssistant := true, content := .assistant "done" }] },
    .admitIngress
      { ingressId := "i1"
        connectorId := "mattermost"
        accountId := "bot"
        status := .adopted
        bindingId := some "b1"
        runId := some "r1"
        receivedAt := 1 }
      { bindingId := "b1"
        externalConversationId := "x1"
        externalThreadId := ""
        conversationId := "c1" },
    .projectRunOutput "r1" 2 "d1",
    .worker (.claimDelivery "mattermost" "bot" 3 (fun n => if n = 0 then "t1" else "a1")),
    .worker (.markDeliveryDispatched ⟨"d1", "t1"⟩ 4),
    .worker (.completeDeliveryAccepted ⟨"d1", "t1"⟩ ⟨"p1", none, none, "null"⟩ 5 "rc1") ]

def prunedOps : List OutputOp :=
  [ .scheduleRetention "main" 10 100, .prune "d1" 100 ]

theorem delivered_then_pruned_once :
    HandedOverOnce mattermostHost (deliveredOps ++ prunedOps) :=
  run_output_handed_over_once mattermostHost (deliveredOps ++ prunedOps) (by
    have projecting : ¬ Reprojects mattermostHost
        (run (RunOutput.step mattermostHost) OutputState.empty (deliveredOps.take 4)) "r1" := by
      intro again
      have noTombstones : (run (RunOutput.step mattermostHost) OutputState.empty
          (deliveredOps.take 4)).tombstones.rows = [] := by decide +kernel
      obtain ⟨tombstone, tombstoneIn, -⟩ := again.1
      rw [noTombstones] at tombstoneIn
      simp at tombstoneIn
    exact ⟨id, id, id, id, projecting, id, id, id, id, id, trivial⟩)

/-- The next start of the host rescans the completed runs and hands the output
over again under a new delivery. -/
theorem pruned_then_restarted_not_once :
    ¬ HandedOverOnce mattermostHost
      (deliveredOps ++ (prunedOps ++ [.recoverRunOutputs 101 (fun _ => "d2")])) := by
  intro once
  have first : ((run (RunOutput.step mattermostHost) OutputState.empty
      deliveredOps).tables.deliveries.find "d1").map
        (fun row => (row.status, row.runId)) = some (.delivered, some "r1") := by
    decide +kernel
  have second : ((run (RunOutput.step mattermostHost) OutputState.empty
      (deliveredOps ++ (prunedOps ++
        [.recoverRunOutputs 101 fun _ => "d2"]))).tables.deliveries.find "d2").map
          (fun row => (row.status, row.runId)) = some (.pending, some "r1") := by
    decide +kernel
  obtain ⟨delivered, deliveredFound, deliveredFacts⟩ := Option.map_eq_some_iff.mp first
  obtain ⟨row, rowFound, rowFacts⟩ := Option.map_eq_some_iff.mp second
  simp only [Prod.mk.injEq] at deliveredFacts rowFacts
  have again := once deliveredOps _ [] (List.append_nil _).symm delivered
    (Table.mem_of_find _ deliveredFound) deliveredFacts.1 row (Table.mem_of_find _ rowFound)
    (rowFacts.2.trans deliveredFacts.2.symm)
  rw [rowFacts.1] at again
  simp at again

end OpenRill.Connectors.OutputOnce
