import OpenRill.Runs.BudgetLedger
import OpenRill.Runs.DelegationRules

/-!
# Conservation of delegation budgets

The balance of the budget ledger is kept by every operation, and with it the
ceilings along runs whose usage reports fit. Over a tree whose reservations were
each released with what the child has used to this day, the charges add up: a
run's delegated usage is the sum of what its descendants used.
-/

namespace OpenRill.Runs.BudgetTree

open Lib Lib.Runs Lib.Transaction State Ledger Delegations Lifecycle DelegationService Operations
open LedgerRules DelegationRules BudgetLedger

variable {capped : Prop} {store : DelegationStore} {now : Nat} {options : RunOptions}
variable {input : CreateDelegatedRunInput} {createId : Nat → String} {row : ReservationRow}
variable {current : DelegationRow}

/-- The balance, with a delegation whose child is known. -/
structure Settling (capped : Prop) (current : DelegationRow) (store : DelegationStore) :
    Prop where
  balanced : Balanced capped store
  known : ∃ row, store.delegations.find current.delegationId = some row ∧
    row.childRunId = current.childRunId

theorem moved_keeps_balanced (balanced : Balanced capped store) {row : DelegationRow}
    (found : store.delegations.find row.delegationId = some row) (status : DelegationStatus)
    (startedAt endedAt : Option Nat) (resultSha256 : Option String) (now : Nat) :
    Balanced capped
      { store with
        delegations := store.delegations.update
          (row.moved status startedAt endedAt resultSha256 now) } := by
  have present : store.delegations.find
      (row.moved status startedAt endedAt resultSha256 now).delegationId = some row := found
  refine balanced_of_same balanced rfl rfl
    (store.delegations.map_update _ present delegationEdge rfl) ?_
  intro other otherIn
  rcases (store.delegations.mem_update_iff _ present other).mp otherIn with isMoved | ⟨old, -⟩
  · obtain ⟨parentSide, childSide⟩ :=
      balanced.joined row (store.delegations.mem_of_find found)
    rw [isMoved]
    exact ⟨parentSide, childSide⟩
  · exact balanced.joined other old

theorem updateDelegationStatus_settling (current : DelegationRow) (delegationId : String)
    {status : DelegationStatus} {startedAt endedAt : Option Nat} {resultSha256 : Option String} :
    Keeps (Settling capped current)
      (updateDelegationStatus delegationId status startedAt endedAt resultSha256 now) := by
  refine ensures_bind (ensures_inspect _) fun delegation => ?_
  refine ensures_bind (ensures_expect _ _) fun row => ensures_change _ ?_
  rintro store ⟨⟨⟨balanced, known, foundKnown, sameChild⟩, isLookup⟩, isRow⟩
  have found : store.delegations.find delegationId = some row := isLookup.symm.trans isRow
  have own := store.delegations.find_self found
  refine ⟨moved_keeps_balanced balanced own status startedAt endedAt resultSha256 now, ?_⟩
  have written := store.delegations.find_update
    (row.moved status startedAt endedAt resultSha256 now) own current.delegationId
  by_cases same :
      (row.moved status startedAt endedAt resultSha256 now).delegationId = current.delegationId
  · rw [if_pos same] at written
    refine ⟨_, written, ?_⟩
    have isKnown : row = known := by
      have sameId : row.delegationId = current.delegationId := same
      rw [← sameId, own, Option.some.injEq] at foundKnown
      exact foundKnown
    rw [← sameChild, ← isKnown]
    rfl
  · rw [if_neg same] at written
    exact ⟨known, written.trans foundKnown, sameChild⟩

theorem unrelated_settling {changed : DelegationStore} (settling : Settling capped current store)
    (envelopes : changed.envelopes = store.envelopes)
    (reservations : changed.reservations = store.reservations)
    (delegations : changed.delegations = store.delegations) : Settling capped current changed := by
  refine ⟨balanced_of_unrelated settling.balanced envelopes reservations delegations, ?_⟩
  rw [delegations]
  exact settling.known

theorem reservation_child (settling : Settling capped current store)
    (found : store.reservations.find current.delegationId = some row) :
    row.childRunId = current.childRunId := by
  obtain ⟨known, foundKnown, sameChild⟩ := settling.known
  obtain ⟨delegation, delegationIn, sameEdge⟩ :=
    delegation_of_reservation settling.balanced (store.reservations.mem_of_find found)
  have sameId : delegation.delegationId = known.delegationId := by
    have rowId : row.delegationId = current.delegationId := store.reservations.key_of_find found
    have knownId : known.delegationId = current.delegationId :=
      store.delegations.key_of_find foundKnown
    exact (congrArg Edge.delegationId sameEdge).trans (rowId.trans knownId.symm)
  have isKnown : delegation = known :=
    store.delegations.row_unique delegationIn (store.delegations.mem_of_find foundKnown) sameId
  rw [← sameChild, ← isKnown]
  exact (congrArg Edge.childRunId sameEdge).symm

theorem effectiveUsage_within (settling : Settling capped current store) {child : EnvelopeRow}
    (found : store.reservations.find current.delegationId = some row)
    (foundChild : store.envelopes.find current.childRunId = some child) (meets : capped) :
    child.effectiveUsage.spent ≤ row.reserved := by
  obtain ⟨envelope, foundEnvelope, isCapacity⟩ :=
    settling.balanced.backed row (store.reservations.mem_of_find found)
  rw [reservation_child settling found, foundChild, Option.some.injEq] at foundEnvelope
  have within := settling.balanced.within meets child (store.envelopes.mem_of_find foundChild)
  rw [isCapacity, ← foundEnvelope]
  unfold WithinBudget at within
  simp only [Capacity.le_iff, Capacity.add_turns, Capacity.add_modelCalls,
    Capacity.add_toolCalls, Capacity.add_totalTokens, EnvelopeRow.effectiveUsage, Usage.spent,
    Usage.add_turns, Usage.add_modelCalls, Usage.add_toolCalls, Usage.add_inputTokens,
    Usage.add_outputTokens] at within ⊢
  omega

theorem releaseReservation_settling (current : DelegationRow) (reason : DelegationOutcome)
    (now : Nat) :
    Keeps (Settling capped current) (releaseReservation current reason now) := by
  refine ensures_bind (ensures_inspect _) fun envelope => ?_
  refine ensures_bind (ensures_expect _ _) fun child => ?_
  refine ensures_bind (ensures_inspect _) fun found => ?_
  refine ensures_bind (ensures_expect _ _) fun row => ?_
  split
  next durableReason durableCharge releasedAt _ =>
    refine ensures_bind (ensures_mono (ensures_demand _ _) (fun _ holds => holds)
      fun _ _ holds => holds.1) fun _ => ensures_pure _ ?_
    rintro store ⟨⟨⟨⟨settling, -⟩, -⟩, -⟩, -⟩
    exact settling
  next isOpen =>
    refine ensures_at fun store initially => ?_
    obtain ⟨⟨⟨⟨settling, isEnvelope⟩, isChild⟩, isFound⟩, isRow⟩ := initially
    have foundChild : store.envelopes.find current.childRunId = some child :=
      isEnvelope.symm.trans isChild
    have foundRow : store.reservations.find current.delegationId = some row :=
      isFound.symm.trans isRow
    have own := store.reservations.find_self foundRow
    refine ensures_bind (ensures_written _ fun _ isStore => isStore) fun _ => ?_
    refine ensures_inspect_then fun middle isMiddle => ?_
    refine ensures_bind (ensures_expect _ _) fun parent => ?_
    refine ensures_of_fact (store.envelopes.find row.parentRunId = some parent) ?_ ?_
    · rintro - ⟨-, foundParent⟩
      rw [isMiddle] at foundParent
      exact foundParent
    intro foundParent
    refine ensures_bind (ensures_written _ fun _ holds => holds.1) fun _ => ?_
    refine ensures_pure true ?_
    rintro reached rfl
    exact ⟨balanced_release settling.balanced own isOpen foundParent reason _ now
      (effectiveUsage_within settling foundRow foundChild), settling.known⟩

theorem balanced_waitRules : WaitRules True (Balanced capped) where
  waits _ _ balanced := balanced_of_unrelated balanced rfl rfl rfl
  deliveries _ _ _ balanced := balanced_of_unrelated balanced rfl rfl rfl

theorem settling_rules :
    SettleRules True (Balanced capped) (fun current _ _ => Settling capped current) where
  resting := balanced_waitRules
  opens _ current found balanced := ⟨balanced, current, found, rfl⟩
  weakens _ _ _ _ _ _ settling := settling
  closes _ _ _ _ _ settling := settling.balanced
  waits _ _ _ :=
    { waits := fun _ _ settling => unrelated_settling settling rfl rfl rfl
      deliveries := fun _ _ _ settling => unrelated_settling settling rfl rfl rfl }
  moved current _ _ _ _ _ _ _ := updateDelegationStatus_settling current _
  released current _ _ reason now := releaseReservation_settling current reason now

theorem insertBudgetEnvelope_balanced (row : EnvelopeRow) (unused : row.used = 0)
    (uncharged : row.delegatedUsed = 0) :
    Keeps (Balanced capped) (insertBudgetEnvelope row) := by
  apply keeps_tryMap
  intro store envelopes balanced inserted
  exact balanced_insert_envelope balanced inserted unused uncharged

/-- A usage report that the run's ceilings leave room for, next to what its
delegations were charged and hold back. -/
def ReportFits (runId : String) (usage : Usage) (store : DelegationStore) : Prop :=
  ∀ row ∈ store.envelopes.find runId,
    usage.spent + row.delegatedUsed.spent + heldBy store runId ≤ row.budget.capacity

instance (runId : String) (usage : Usage) (store : DelegationStore) :
    Decidable (ReportFits runId usage store) := by
  unfold ReportFits
  infer_instance

theorem updateBudgetUsage_balanced (runId : String) (usage : Usage) (now : Nat) :
    Ensures (fun store => Balanced capped store ∧ (capped → ReportFits runId usage store))
      (updateBudgetUsage runId usage now) (fun _ => Balanced capped) := by
  refine ensures_bind (ensures_inspect _) fun envelope => ?_
  refine ensures_bind (ensures_expect _ _) fun row => ensures_change _ ?_
  rintro store ⟨⟨⟨balanced, fits⟩, isEnvelope⟩, isRow⟩
  have found : store.envelopes.find runId = some row := isEnvelope.symm.trans isRow
  have key : row.runId = runId := store.envelopes.key_of_find found
  have own : store.envelopes.find row.runId = some row := by
    rw [key]
    exact found
  refine balanced_update_envelope balanced own ⟨rfl, rfl, rfl⟩ rfl fun meets => ?_
  have room := fits meets row found
  unfold WithinBudget EnvelopeRow.reporting
  rw [key]
  exact room

/-- The rows of a new child, entered beside those that were there. -/
structure ChildInserted (options : RunOptions) (input : CreateDelegatedRunInput)
    (requested : NormalBudget) (scope : DelegationScope) (ids : ChildIds) (parent : EnvelopeRow)
    (now : Nat) (shallow : parent.depth + 1 ≤ parent.budget.maxDelegationDepth)
    (store reached : DelegationStore) : Prop where
  envelope : store.envelopes.insert (unusedEnvelope ids.runId parent.rootRunId (some parent.runId)
    (parent.depth + 1) requested scope now) = some reached.envelopes
  delegation : store.delegations.insert (newDelegation options input scope ids parent now shallow) =
    some reached.delegations
  reservation : store.reservations.insert (newReservation ids parent.runId requested.val now) =
    some reached.reservations
  others : reached =
    { store with
      envelopes := reached.envelopes
      delegations := reached.delegations
      reservations := reached.reservations }

variable {requested : NormalBudget} {scope : DelegationScope} {ids : ChildIds}
variable {parent : EnvelopeRow} {shallow : parent.depth + 1 ≤ parent.budget.maxDelegationDepth}
variable {reached : DelegationStore}

theorem found_of_childInserted
    (inserted : ChildInserted options input requested scope ids parent now shallow store reached)
    (foundParent : store.envelopes.find parent.runId = some parent) :
    ids.runId ≠ parent.runId ∧ reached.envelopes.find parent.runId = some parent ∧
      reached.envelopes.find ids.runId = some (unusedEnvelope ids.runId parent.rootRunId
        (some parent.runId) (parent.depth + 1) requested scope now) := by
  obtain ⟨absent, -⟩ := (store.envelopes.insert_some_iff reached.envelopes _).mp inserted.envelope
  refine ⟨?_, store.envelopes.kept_insert _ _ inserted.envelope foundParent, ?_⟩
  · intro same
    exact absent parent (store.envelopes.mem_of_find foundParent) same.symm
  · exact (store.envelopes.find_insert _ _ ids.runId inserted.envelope).trans (if_pos rfl)

theorem insertChild_inserts :
    Ensures (OnDelegations (fun current => current = store))
      (insertChild options input requested scope ids parent now shallow)
      (fun _ => OnDelegations
        (ChildInserted options input requested scope ids parent now shallow store)) := by
  have first : Ensures (fun current => current = store)
      (insertBudgetEnvelope (unusedEnvelope ids.runId parent.rootRunId (some parent.runId)
        (parent.depth + 1) requested scope now))
      (fun _ middle => ∃ envelopes,
        store.envelopes.insert (unusedEnvelope ids.runId parent.rootRunId (some parent.runId)
          (parent.depth + 1) requested scope now) = some envelopes ∧
        middle = { store with envelopes := envelopes }) := by
    apply ensures_tryMap
    rintro current envelopes rfl inserted
    exact ⟨envelopes, inserted, rfl⟩
  have second : Ensures (fun middle => ∃ envelopes,
        store.envelopes.insert (unusedEnvelope ids.runId parent.rootRunId (some parent.runId)
          (parent.depth + 1) requested scope now) = some envelopes ∧
        middle = { store with envelopes := envelopes })
      (insertDelegation (newDelegation options input scope ids parent now shallow))
      (fun _ middle => ∃ envelopes delegations,
        store.envelopes.insert (unusedEnvelope ids.runId parent.rootRunId (some parent.runId)
          (parent.depth + 1) requested scope now) = some envelopes ∧
        store.delegations.insert (newDelegation options input scope ids parent now shallow) =
          some delegations ∧
        middle = { store with envelopes := envelopes, delegations := delegations }) := by
    refine ensures_inspect_then fun _ _ => ?_
    refine ensures_demand_then fun _ => ensures_demand_then fun _ => ?_
    refine ensures_demand_then fun _ => ?_
    apply ensures_tryMap
    rintro middle delegations ⟨envelopes, insertedEnvelope, rfl⟩ inserted
    exact ⟨envelopes, delegations, insertedEnvelope, inserted, rfl⟩
  refine ensures_bind (onLedger_spares _) fun _ => ?_
  refine ensures_bind (onDelegations_ensures (ensures_bind first fun _ => second)) fun _ => ?_
  refine ensures_bind (onLedger_spares _) fun _ => ?_
  refine ensures_bind (onDelegations_ensures ?_) fun _ => ensures_pure _ fun _ holds => holds
  refine ensures_inspect_then fun _ _ => ensures_demand_then fun _ => ?_
  apply ensures_tryMap
  rintro middle reservations ⟨envelopes, delegations, insertedEnvelope, insertedDelegation, rfl⟩
    inserted
  exact
    { envelope := insertedEnvelope
      delegation := insertedDelegation
      reservation := inserted
      others := rfl }

/-- What a new child establishes: admission has found that there is room, and the rows of the
child are entered. -/
theorem createDelegatedRun_inserts {before after : DelegationStore → Prop}
    {room : DelegationStore → EnvelopeRow → NormalBudget → DelegationScope → Prop}
    (replayed : ∀ store, before store → after store)
    (admits : ∀ (tables : RunTables) (parent : EnvelopeRow) (requested : NormalBudget)
      (scope : DelegationScope), scopeWithin scope parent.scope →
      parent.depth + 1 ≤ parent.budget.maxDelegationDepth →
      Ensures (fun current => current = tables)
        (admitChild parent requested.val (reservationSummary tables.delegations parent.runId) now)
        (fun _ current => current = tables ∧ room tables.delegations parent requested scope))
    (enters : ∀ (store reached : DelegationStore) (parent : EnvelopeRow)
      (requested : NormalBudget) (scope : DelegationScope)
      (shallow : parent.depth + 1 ≤ parent.budget.maxDelegationDepth), before store →
      store.envelopes.find parent.runId = some parent → room store parent requested scope →
      ChildInserted options input requested scope (ChildIds.from createId) parent now shallow store
        reached → after reached) :
    Ensures (OnDelegations before) (createDelegatedRun options input now createId)
      (fun _ => OnDelegations after) := by
  apply createDelegatedRun_ensures fun tables initially => replayed tables.delegations initially
  intro tables parent requested scope shallow initially foundParent within
  refine ensures_bind (admits tables parent requested scope within shallow) fun _ => ?_
  refine ensures_of_fact _ (fun _ holds => holds.2) fun admitted => ?_
  refine ensures_mono insertChild_inserts (fun current holds => by rw [holds.1]; rfl) ?_
  intro _ reached inserted
  exact enters tables.delegations reached.delegations parent requested scope shallow initially
    foundParent admitted inserted

theorem insertedChild_balanced (balanced : Balanced capped store)
    (foundParent : store.envelopes.find parent.runId = some parent)
    (room : requested.val.capacity + parent.used.spent + parent.delegatedUsed.spent +
      heldBy store parent.runId ≤ parent.budget.capacity)
    (inserted : ChildInserted options input requested scope ids parent now shallow store reached) :
    Balanced capped reached := by
  have withEnvelope := balanced_insert_envelope balanced inserted.envelope rfl rfl
  obtain ⟨-, foundParentNow, foundChild⟩ := found_of_childInserted inserted foundParent
  rw [inserted.others]
  exact balanced_insert_child withEnvelope inserted.delegation inserted.reservation rfl rfl
    foundParentNow foundChild rfl rfl rfl fun _ => room

theorem admitChild_room {before : RunTables → Prop} (parent : EnvelopeRow)
    (requested : DelegationBudget) {reserved : ReservationSummary} (now : Nat) :
    Ensures before (admitChild parent requested reserved now)
      (fun _ tables => before tables ∧ requested.capacity + parent.used.spent +
        parent.delegatedUsed.spent + reserved.reserved ≤ parent.budget.capacity) := by
  refine ensures_demand_then fun _ => ensures_demand_then fun _ => ?_
  refine ensures_demand_then fun _ => ensures_demand_then fun _ => ?_
  exact ensures_demand_then fun _ => ensures_demand _ _

theorem createDelegatedRun_balanced :
    Keeps (OnDelegations (Balanced capped)) (createDelegatedRun options input now createId) :=
  createDelegatedRun_inserts (fun _ balanced => balanced)
    (fun _ parent requested _ _ _ => admitChild_room parent requested.val now)
    fun _ _ _ _ _ _ balanced foundParent room inserted =>
      insertedChild_balanced balanced foundParent room inserted

/-- Every usage report fits in what is left of the reporting run's ceilings. -/
def FittingReport (tables : RunTables) (op : RunOp) : Prop :=
  ∀ report ∈ reportedUsage op, ReportFits report.1 report.2 tables.delegations

instance (tables : RunTables) (op : RunOp) : Decidable (FittingReport tables op) := by
  unfold FittingReport
  infer_instance

theorem step_balanced (tables : RunTables) (op : RunOp)
    (fits : capped → FittingReport tables op)
    (balanced : OnDelegations (Balanced capped) tables) :
    OnDelegations (Balanced capped) (step options tables op) := by
  have opening : OpenRules
      (fun store => Balanced capped store ∧
        (capped → ∀ report ∈ reportedUsage op, ReportFits report.1 report.2 store))
      (Balanced capped) :=
    { entails := fun _ initially => initially.1
      opened := fun row unused uncharged =>
        ensures_from _ (insertBudgetEnvelope_balanced row unused uncharged)
          (fun _ initially => initially.1) }
  refine step_leads op settling_rules (fun _ => trivial) opening ?_ ?_ ⟨balanced, fits⟩
  · intro input now createId
    exact ensures_from _ createDelegatedRun_balanced fun _ initially => initially.1
  · intro runId usage isReport now
    refine ensures_from _ (updateBudgetUsage_balanced runId usage now) ?_
    rintro store ⟨kept, meets⟩
    exact ⟨kept, fun capping => meets capping (runId, usage) isReport⟩

theorem reach_balanced (options : RunOptions) (ops : List RunOp) :
    Balanced False (reach options ops).delegations :=
  run_invariant (step options) (OnDelegations (Balanced False))
    (fun tables op kept => step_balanced tables op False.elim kept) RunTables.empty ops
    balanced_empty

/-- What a parent reserved for a delegation is what the child's envelope allows. -/
def ReservedAsAllowed (store : DelegationStore) : Prop :=
  ∀ delegation ∈ store.delegations.rows, ∃ reservation ∈ store.reservations.rows,
    reservationEdge reservation = delegationEdge delegation ∧
      ∃ child, store.envelopes.find delegation.childRunId = some child ∧
        child.depth = delegation.depth ∧ reservation.reserved = child.budget.capacity

theorem delegations_reserved (options : RunOptions) (ops : List RunOp) :
    ReservedAsAllowed (reach options ops).delegations := by
  intro delegation delegationIn
  have balanced := reach_balanced options ops
  have edgeIn := List.mem_map_of_mem (f := delegationEdge) delegationIn
  rw [balanced.paired] at edgeIn
  obtain ⟨reservation, reservationIn, same⟩ := List.mem_map.mp edgeIn
  obtain ⟨child, found, depth⟩ := (balanced.joined delegation delegationIn).child
  obtain ⟨backing, foundBacking, reserved⟩ := balanced.backed reservation reservationIn
  rw [show reservation.childRunId = _ from congrArg Edge.childRunId same] at foundBacking
  obtain rfl := Option.some.inj (found.symm.trans foundBacking)
  exact ⟨reservation, reservationIn, same, child, found, depth, reserved⟩

theorem reach_balanced_of_fitting (options : RunOptions) (ops : List RunOp)
    (fits : EveryStep (step options) FittingReport RunTables.empty ops) :
    Balanced True (reach options ops).delegations :=
  run_invariant_of_everyStep (step options) FittingReport (OnDelegations (Balanced True))
    (fun tables op meets kept => step_balanced tables op (fun _ => meets) kept) RunTables.empty
    ops balanced_empty fits

variable {runId : String}

def usedOf (store : DelegationStore) (runId : String) : Usage :=
  match store.envelopes.find runId with
  | some row => row.used
  | none => 0

def delegatedOf (store : DelegationStore) (runId : String) : Usage :=
  match store.envelopes.find runId with
  | some row => row.delegatedUsed
  | none => 0

/-- The delegation was released with what its child has used to this day: since
the release the child reported nothing and was charged with nothing. -/
def SettledToDate (store : DelegationStore) (row : DelegationRow) : Prop :=
  match store.reservations.find row.delegationId, store.envelopes.find row.childRunId with
  | some reservation, some child =>
    match reservation.state with
    | .released _ charged _ => charged = child.effectiveUsage
    | .reserved => False
  | _, _ => False

instance (store : DelegationStore) (row : DelegationRow) :
    Decidable (SettledToDate store row) := by
  unfold SettledToDate
  split
  · split <;> infer_instance
  · infer_instance

def chargeUnder (store : DelegationStore) (delegationId : String) : Usage :=
  match store.reservations.find delegationId with
  | some row => row.charged
  | none => 0

theorem chargedTo_eq_delegations (balanced : Balanced capped store) (runId : String) :
    chargedTo store runId =
      ((directChildren store runId).map (fun row => chargeUnder store row.delegationId)).sum := by
  have byEdge : ∀ row ∈ store.reservations.rows,
      row.charged = chargeUnder store (reservationEdge row).delegationId := by
    intro row rowIn
    have found : store.reservations.find (reservationEdge row).delegationId = some row :=
      store.reservations.find_of_mem rowIn
    unfold chargeUnder
    rw [found]
  have ofReservations : (reservationsOf store runId).map ReservationRow.charged =
      ((store.reservations.rows.map reservationEdge).filter
        fun edge => decide (edge.parentRunId = runId)).map
          (fun edge => chargeUnder store edge.delegationId) := by
    rw [List.filter_map, List.map_map]
    apply List.map_congr_left
    intro row rowIn
    exact byEdge row (List.mem_filter.mp rowIn).1
  have ofDelegations :
      ((store.delegations.rows.map delegationEdge).filter
        fun edge => decide (edge.parentRunId = runId)).map
          (fun edge => chargeUnder store edge.delegationId) =
      (directChildren store runId).map (fun row => chargeUnder store row.delegationId) := by
    rw [List.filter_map, List.map_map]
    rfl
  unfold chargedTo
  rw [ofReservations, ← balanced.paired, ofDelegations]

theorem joined_of_child (balanced : Balanced capped store) {delegation : DelegationRow}
    (child : delegation ∈ directChildren store runId) :
    delegation.parentRunId = runId ∧ Joined store delegation := by
  obtain ⟨delegationIn, isParent⟩ := List.mem_filter.mp child
  exact ⟨of_decide_eq_true isParent, balanced.joined delegation delegationIn⟩

/-- The run has an envelope no further than `levels` from the deepest level. -/
def Within (store : DelegationStore) (levels : Nat) (runId : String) : Prop :=
  ∃ row, store.envelopes.find runId = some row ∧ 16 ≤ row.depth + levels

section

variable (balanced : Balanced capped store)
include balanced

theorem within_child (levels : Nat) (runId : String) (delegation : DelegationRow)
    (within : Within store (levels + 1) runId) (child : delegation ∈ directChildren store runId) :
    Within store levels delegation.childRunId := by
  obtain ⟨isParent, ⟨parent, foundParent, below⟩, ⟨envelope, found, level⟩⟩ :=
    joined_of_child balanced child
  obtain ⟨row, foundRow, deep⟩ := within
  rw [isParent, foundRow, Option.some.injEq] at foundParent
  refine ⟨envelope, found, ?_⟩
  rw [level, ← below, ← foundParent]
  omega

theorem no_children_at_bottom (within : Within store 0 runId) :
    directChildren store runId = [] := by
  obtain ⟨row, foundRow, deep⟩ := within
  apply List.eq_nil_iff_forall_not_mem.mpr
  intro delegation child
  obtain ⟨isParent, ⟨parent, foundParent, below⟩, -⟩ := joined_of_child balanced child
  rw [isParent, foundRow, Option.some.injEq] at foundParent
  have bounded := delegation.depthBounded.2
  rw [← below, ← foundParent] at bounded
  omega

theorem delegatedOf_eq_charged {levels : Nat} (within : Within store levels runId) :
    delegatedOf store runId =
      ((directChildren store runId).map (fun row => chargeUnder store row.delegationId)).sum := by
  obtain ⟨row, foundRow, -⟩ := within
  have key : row.runId = runId := store.envelopes.key_of_find foundRow
  unfold delegatedOf
  rw [foundRow, ← chargedTo_eq_delegations balanced, ← key]
  exact balanced.charged row (store.envelopes.mem_of_find foundRow)

end

theorem chargeUnder_settled {row : DelegationRow} (settled : SettledToDate store row) :
    chargeUnder store row.delegationId =
      usedOf store row.childRunId + delegatedOf store row.childRunId := by
  unfold SettledToDate at settled
  split at settled
  next reservation child found foundChild =>
    split at settled
    next reason charged releasedAt isReleased =>
      unfold chargeUnder usedOf delegatedOf ReservationRow.charged
      rw [found, foundChild]
      simp only [isReleased, settled]
      rfl
    next => exact settled.elim
  next => exact settled.elim

theorem delegatedUsed_eq_descendants (balanced : Balanced capped store) (row : EnvelopeRow)
    (rowIn : row ∈ store.envelopes.rows)
    (settled : ∀ delegation ∈ listDescendantsOfRun store row.runId,
      SettledToDate store delegation) :
    row.delegatedUsed =
      ((listDescendantsOfRun store row.runId).map
        (fun delegation => usedOf store delegation.childRunId)).sum := by
  have foundRow : store.envelopes.find row.runId = some row :=
    store.envelopes.find_of_mem rowIn
  have sorted : (listDescendantsOfRun store row.runId).Perm
      (descendantsBelow store 16 row.runId) := List.perm_insertionSort _ _
  have gathered := Forest.gathered_eq_sum_below (directChildren store)
    DelegationRow.childRunId (usedOf store) (delegatedOf store) (Within store)
    (SettledToDate store)
    (fun runId within => by
      rw [delegatedOf_eq_charged balanced within, no_children_at_bottom balanced within]
      rfl)
    (within_child balanced)
    (fun levels runId within direct => by
      rw [delegatedOf_eq_charged balanced within]
      congr 1
      apply List.map_congr_left
      exact fun delegation child => chargeUnder_settled (direct delegation child))
    16 row.runId ⟨row, foundRow, by omega⟩
    fun delegation below => settled delegation (sorted.mem_iff.mpr below)
  have isDelegated : delegatedOf store row.runId = row.delegatedUsed := by
    unfold delegatedOf
    rw [foundRow]
  rw [(sorted.map _).sum_eq, ← isDelegated]
  exact gathered

/-- What a run was charged with is always the sum of the charges of its released
reservations, and over a settled tree the sum of what its descendants used. -/
structure Conserved (store : DelegationStore) (row : EnvelopeRow) : Prop where
  charged : row.delegatedUsed = chargedTo store row.runId
  tree : (∀ delegation ∈ listDescendantsOfRun store row.runId, SettledToDate store delegation) →
    row.delegatedUsed =
      ((listDescendantsOfRun store row.runId).map
        (fun delegation => usedOf store delegation.childRunId)).sum

theorem delegation_budget_conserved (options : RunOptions) (ops : List RunOp) :
    (∀ row ∈ (reach options ops).delegations.envelopes.rows,
      Conserved (reach options ops).delegations row) ∧
    (EveryStep (step options) FittingReport RunTables.empty ops →
      ∀ row ∈ (reach options ops).delegations.envelopes.rows,
        WithinBudget (reach options ops).delegations row) := by
  constructor
  · intro row rowIn
    have balanced := reach_balanced options ops
    exact ⟨balanced.charged row rowIn, delegatedUsed_eq_descendants balanced row rowIn⟩
  · intro fits row rowIn
    exact (reach_balanced_of_fitting options ops fits).within trivial row rowIn

def Ended (tables : RunTables) (delegation : DelegationRow) : Prop :=
  delegation.status.active = false ∧
    (tables.ledger.runs.find delegation.childRunId).any (fun run => run.status.terminal) = true

instance (tables : RunTables) (delegation : DelegationRow) :
    Decidable (Ended tables delegation) := by
  unfold Ended
  infer_instance

def TreesAddUp (tables : RunTables) : Prop :=
  ∀ row ∈ tables.delegations.envelopes.rows,
    (∀ delegation ∈ listDescendantsOfRun tables.delegations row.runId, Ended tables delegation) →
      row.delegatedUsed =
        ((listDescendantsOfRun tables.delegations row.runId).map
          (fun delegation => usedOf tables.delegations delegation.childRunId)).sum

def CeilingsHold (tables : RunTables) : Prop :=
  ∀ row ∈ tables.delegations.envelopes.rows, WithinBudget tables.delegations row

def oneTurn : Usage where
  turns := 1
  inputTokens := 20
  outputTokens := 10
  modelCalls := 1
  toolCalls := 0

def nineTurns : Usage := { oneTurn with turns := 9 }

def grandchild : RunOp :=
  .createDelegatedRun
    { parentRunId := "r2"
      parentAttemptId := "a2"
      idempotencyKey := "k2"
      task := "look closer"
      workspaceId := "main"
      budget := { smallBudget with
        execution := { smallBudget.execution with maxDurationMs := 200 } }
      scope := mainScope
      expectedOutput := .text
      parentToolCallId := none }
    (callAt 4 ["d2", "c3", "m3", "r3", "a3", "e3"])

/-- The child ends first and is completed; the grandchild reports a turn
afterwards. -/
def lateGrandchildOps : List RunOp :=
  delegatedOps ++
    [ grandchild,
      .cancel
        { workspaceId := "main", conversationId := "c2", runId := "r2" }
        (callAt 5 ["e4"]),
      .completeChild "r2" (callAt 6 []),
      .updateExecutionUsage "r3" oneTurn none (callAt 7 []),
      .cancel
        { workspaceId := "main", conversationId := "c3", runId := "r3" }
        (callAt 8 ["e5"]),
      .completeChild "r3" (callAt 9 []) ]

def settledTreeOps : List RunOp :=
  delegatedOps ++
    [ grandchild,
      .updateExecutionUsage "r3" oneTurn none (callAt 5 []),
      .cancel
        { workspaceId := "main", conversationId := "c3", runId := "r3" }
        (callAt 6 ["e4"]),
      .completeChild "r3" (callAt 7 []),
      .updateExecutionUsage "r2" oneTurn none (callAt 8 []),
      .cancel
        { workspaceId := "main", conversationId := "c2", runId := "r2" }
        (callAt 9 ["e5"]),
      .completeChild "r2" (callAt 10 []) ]

theorem settled_tree_conserved :
    (∃ row ∈ (reach mainHost settledTreeOps).delegations.envelopes.rows,
      row.runId = "r1" ∧ row.delegatedUsed = oneTurn + oneTurn ∧
        row.delegatedUsed =
          ((listDescendantsOfRun (reach mainHost settledTreeOps).delegations "r1").map
            (fun delegation => usedOf (reach mainHost settledTreeOps).delegations
              delegation.childRunId)).sum) ∧
      CeilingsHold (reach mainHost settledTreeOps) := by
  have conserved := delegation_budget_conserved mainHost settledTreeOps
  have root : ((reach mainHost settledTreeOps).delegations.envelopes.find "r1").map
      EnvelopeRow.delegatedUsed = some (oneTurn + oneTurn) := by decide +kernel
  have settled : ∀ delegation ∈
      listDescendantsOfRun (reach mainHost settledTreeOps).delegations "r1",
      SettledToDate (reach mainHost settledTreeOps).delegations delegation := by
    decide +kernel
  obtain ⟨row, found, isUsed⟩ := Option.map_eq_some_iff.mp root
  obtain ⟨rowIn, isRoot⟩ := (Table.find_some_iff _ _ _).mp found
  have tree := (conserved.1 row rowIn).tree
  rw [isRoot] at tree
  exact ⟨⟨row, rowIn, isRoot, isUsed, tree settled⟩, conserved.2 (by decide +kernel)⟩

/-- The whole tree below `r1` has ended, and its grandchild's turn reached the
child but not the root; and a root that reports nine of its eight turns is over
its ceiling. -/
theorem late_grandchild_not_charged :
    ¬ TreesAddUp (reach mainHost lateGrandchildOps) ∧
      ¬ CeilingsHold (reach mainHost (delegatedOps ++
        [.updateExecutionUsage "r1" nineTurns none (callAt 4 [])])) := by
  constructor
  · intro addUp
    have root : ((reach mainHost lateGrandchildOps).delegations.envelopes.find "r1").map
        EnvelopeRow.delegatedUsed = some 0 := by decide +kernel
    have ended : ∀ delegation ∈
        listDescendantsOfRun (reach mainHost lateGrandchildOps).delegations "r1",
        Ended (reach mainHost lateGrandchildOps) delegation := by
      decide +kernel
    have below : ((listDescendantsOfRun (reach mainHost lateGrandchildOps).delegations "r1").map
        fun delegation => usedOf (reach mainHost lateGrandchildOps).delegations
          delegation.childRunId).sum = oneTurn := by decide +kernel
    obtain ⟨row, found, isUsed⟩ := Option.map_eq_some_iff.mp root
    obtain ⟨rowIn, isRoot⟩ := (Table.find_some_iff _ _ _).mp found
    have wrong := addUp row rowIn
    rw [isRoot, below, isUsed] at wrong
    exact absurd (wrong ended) (by decide)
  · intro hold
    have exceeding : ∃ row ∈ (reach mainHost (delegatedOps ++
        [.updateExecutionUsage "r1" nineTurns none (callAt 4 [])])).delegations.envelopes.rows,
        ¬ WithinBudget (reach mainHost (delegatedOps ++
          [.updateExecutionUsage "r1" nineTurns none (callAt 4 [])])).delegations row := by
      decide +kernel
    obtain ⟨row, rowIn, exceeds⟩ := exceeding
    exact exceeds (hold row rowIn)

end OpenRill.Runs.BudgetTree
