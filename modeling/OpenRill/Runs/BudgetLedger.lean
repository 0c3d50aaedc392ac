import OpenRill.Runs.Operations

/-!
# The budget ledger of a run tree

What holds of envelopes, delegations and reservations after every operation: a
delegation and its reservation join the same two runs, the depths of their
envelopes differ by one, a reservation holds what its child may use, and an
envelope has been charged with exactly what its released reservations say. When
every reported usage fits, no envelope exceeds its ceilings either; the
invariant has that part under `capped`.
-/

namespace OpenRill.Runs.BudgetLedger

open Lib State Ledger Delegations

variable {store : DelegationStore} {runId : String} {Amount : Type} {parent : EnvelopeRow}

structure Edge where
  delegationId : String
  parentRunId : String
  childRunId : String

def delegationEdge (row : DelegationRow) : Edge where
  delegationId := row.delegationId
  parentRunId := row.parentRunId
  childRunId := row.childRunId

def reservationEdge (row : ReservationRow) : Edge where
  delegationId := row.delegationId
  parentRunId := row.parentRunId
  childRunId := row.childRunId

def chargedTo (store : DelegationStore) (runId : String) : Usage :=
  ((reservationsOf store runId).map ReservationRow.charged).sum

def heldBy (store : DelegationStore) (runId : String) : Capacity :=
  ((reservationsOf store runId).map ReservationRow.held).sum

/-- Own usage, charged usage and open reservations are within the ceilings. -/
def WithinBudget (store : DelegationStore) (row : EnvelopeRow) : Prop :=
  row.used.spent + row.delegatedUsed.spent + heldBy store row.runId ≤ row.budget.capacity

instance (store : DelegationStore) (row : EnvelopeRow) : Decidable (WithinBudget store row) := by
  unfold WithinBudget
  infer_instance

structure Joined (store : DelegationStore) (row : DelegationRow) : Prop where
  parent : ∃ envelope, store.envelopes.find row.parentRunId = some envelope ∧
    envelope.depth + 1 = row.depth
  child : ∃ envelope, store.envelopes.find row.childRunId = some envelope ∧
    envelope.depth = row.depth

structure Balanced (capped : Prop) (store : DelegationStore) : Prop where
  paired : store.delegations.rows.map delegationEdge = store.reservations.rows.map reservationEdge
  joined : ∀ row ∈ store.delegations.rows, Joined store row
  backed : ∀ row ∈ store.reservations.rows, ∃ envelope,
    store.envelopes.find row.childRunId = some envelope ∧ row.reserved = envelope.budget.capacity
  charged : ∀ row ∈ store.envelopes.rows, row.delegatedUsed = chargedTo store row.runId
  within : capped → ∀ row ∈ store.envelopes.rows, WithinBudget store row

variable {capped : Prop}

theorem balanced_empty : Balanced capped DelegationStore.empty where
  paired := rfl
  joined := by
    intro row rowIn
    cases rowIn
  backed := by
    intro row rowIn
    cases rowIn
  charged := by
    intro row rowIn
    cases rowIn
  within := by
    intro _ row rowIn
    cases rowIn

variable {row : ReservationRow}

section

variable (balanced : Balanced capped store)
include balanced

theorem delegation_of_reservation (rowIn : row ∈ store.reservations.rows) :
    ∃ delegation ∈ store.delegations.rows, delegationEdge delegation = reservationEdge row := by
  have edgeIn : reservationEdge row ∈ store.delegations.rows.map delegationEdge := by
    rw [balanced.paired]
    exact List.mem_map.mpr ⟨row, rowIn, rfl⟩
  obtain ⟨delegation, delegationIn, same⟩ := List.mem_map.mp edgeIn
  exact ⟨delegation, delegationIn, same⟩

theorem parent_envelope (rowIn : row ∈ store.reservations.rows) :
    ∃ envelope, store.envelopes.find row.parentRunId = some envelope := by
  obtain ⟨delegation, delegationIn, same⟩ := delegation_of_reservation balanced rowIn
  obtain ⟨envelope, found, -⟩ := (balanced.joined delegation delegationIn).parent
  have sameParent : delegation.parentRunId = row.parentRunId := congrArg Edge.parentRunId same
  exact ⟨envelope, by rw [← sameParent]; exact found⟩

theorem no_reservations (fresh : store.envelopes.find runId = none) :
    reservationsOf store runId = [] := by
  apply List.filter_eq_nil_iff.mpr
  intro row rowIn
  obtain ⟨envelope, found⟩ := parent_envelope balanced rowIn
  simp only [decide_eq_true_eq]
  intro same
  rw [same, fresh] at found
  cases found

end

variable {changed : DelegationStore} {envelopes : Table EnvelopeRow.runId} {old row : EnvelopeRow}

theorem balanced_of_same (balanced : Balanced capped store)
    (envelopes : changed.envelopes = store.envelopes)
    (reservations : changed.reservations = store.reservations)
    (edges : changed.delegations.rows.map delegationEdge =
      store.delegations.rows.map delegationEdge)
    (joined : ∀ row ∈ changed.delegations.rows, Joined store row) : Balanced capped changed where
  paired := by
    rw [edges, reservations]
    exact balanced.paired
  joined row rowIn := by
    obtain ⟨parent, child⟩ := joined row rowIn
    exact ⟨by rw [envelopes]; exact parent, by rw [envelopes]; exact child⟩
  backed row rowIn := by
    rw [reservations] at rowIn
    rw [envelopes]
    exact balanced.backed row rowIn
  charged row rowIn := by
    rw [envelopes] at rowIn
    have same : chargedTo changed row.runId = chargedTo store row.runId := by
      unfold chargedTo reservationsOf
      rw [reservations]
    rw [same]
    exact balanced.charged row rowIn
  within meets row rowIn := by
    rw [envelopes] at rowIn
    have same : heldBy changed row.runId = heldBy store row.runId := by
      unfold heldBy reservationsOf
      rw [reservations]
    unfold WithinBudget
    rw [same]
    exact balanced.within meets row rowIn

theorem balanced_of_unrelated (balanced : Balanced capped store)
    (envelopes : changed.envelopes = store.envelopes)
    (reservations : changed.reservations = store.reservations)
    (delegations : changed.delegations = store.delegations) : Balanced capped changed := by
  refine balanced_of_same balanced envelopes reservations (by rw [delegations]) ?_
  intro row rowIn
  rw [delegations] at rowIn
  exact balanced.joined row rowIn

structure SameCeilings (first second : EnvelopeRow) : Prop where
  runId : first.runId = second.runId
  depth : first.depth = second.depth
  budget : first.budget = second.budget

theorem find_updated_envelope (present : envelopes.find row.runId = some old)
    (same : SameCeilings row old) (runId : String) (envelope : EnvelopeRow)
    (found : envelopes.find runId = some envelope) :
    ∃ updated, (envelopes.update row).find runId = some updated ∧ SameCeilings updated envelope :=
  envelopes.related_update row present SameCeilings (fun _ => ⟨rfl, rfl, rfl⟩) same found

section Lookup

variable (lookup : ∀ runId envelope, store.envelopes.find runId = some envelope →
  ∃ later, changed.envelopes.find runId = some later ∧ SameCeilings later envelope)

include lookup

theorem joined_of_lookup {row : DelegationRow} (joined : Joined store row) :
    Joined changed row := by
  obtain ⟨⟨parent, foundParent, below⟩, ⟨child, foundChild, level⟩⟩ := joined
  obtain ⟨parentNow, foundParentNow, sameParent⟩ := lookup _ parent foundParent
  obtain ⟨childNow, foundChildNow, sameChild⟩ := lookup _ child foundChild
  exact ⟨⟨parentNow, foundParentNow, by rw [sameParent.depth]; exact below⟩,
    ⟨childNow, foundChildNow, by rw [sameChild.depth]; exact level⟩⟩

theorem backed_of_lookup {reserved : Capacity}
    (backed : ∃ envelope, store.envelopes.find runId = some envelope ∧
      reserved = envelope.budget.capacity) :
    ∃ envelope, changed.envelopes.find runId = some envelope ∧
      reserved = envelope.budget.capacity := by
  obtain ⟨child, foundChild, isCapacity⟩ := backed
  obtain ⟨childNow, foundChildNow, sameChild⟩ := lookup _ child foundChild
  exact ⟨childNow, foundChildNow, by rw [sameChild.budget]; exact isCapacity⟩

end Lookup

theorem balanced_update_envelope (balanced : Balanced capped store)
    (found : store.envelopes.find old.runId = some old) (same : SameCeilings row old)
    (charged : row.delegatedUsed = old.delegatedUsed) (within : capped → WithinBudget store row) :
    Balanced capped { store with envelopes := store.envelopes.update row } := by
  have present : store.envelopes.find row.runId = some old := by
    rw [same.runId]
    exact found
  have lookup := find_updated_envelope present same
  refine
    { paired := balanced.paired
      joined := fun delegation delegationIn =>
        joined_of_lookup lookup (balanced.joined delegation delegationIn)
      backed := fun reservation reservationIn =>
        backed_of_lookup lookup (balanced.backed reservation reservationIn)
      charged := ?_
      within := ?_ }
  · intro envelope envelopeIn
    rcases (store.envelopes.mem_update_iff row present envelope).mp envelopeIn with
      isRow | ⟨otherIn, -⟩
    · rw [isRow, charged, same.runId]
      exact balanced.charged old (store.envelopes.mem_of_find found)
    · exact balanced.charged envelope otherIn
  · intro meets envelope envelopeIn
    rcases (store.envelopes.mem_update_iff row present envelope).mp envelopeIn with
      isRow | ⟨otherIn, -⟩
    · rw [isRow]
      exact within meets
    · exact balanced.within meets envelope otherIn

theorem balanced_insert_envelope (balanced : Balanced capped store)
    (inserted : store.envelopes.insert row = some envelopes) (unused : row.used = 0)
    (uncharged : row.delegatedUsed = 0) :
    Balanced capped { store with envelopes := envelopes } := by
  obtain ⟨absent, rowsEq⟩ := (store.envelopes.insert_some_iff envelopes row).mp inserted
  have fresh : store.envelopes.find row.runId = none :=
    (store.envelopes.find_none_iff row.runId).mpr absent
  have none := no_reservations balanced fresh
  have lookup := fun runId (envelope : EnvelopeRow)
      (found : store.envelopes.find runId = some envelope) =>
    (⟨envelope, store.envelopes.kept_insert envelopes row inserted found, rfl, rfl, rfl⟩ :
      ∃ later, envelopes.find runId = some later ∧ SameCeilings later envelope)
  refine
    { paired := balanced.paired
      joined := fun delegation delegationIn =>
        joined_of_lookup lookup (balanced.joined delegation delegationIn)
      backed := fun reservation reservationIn =>
        backed_of_lookup lookup (balanced.backed reservation reservationIn)
      charged := ?_
      within := ?_ }
  · intro envelope envelopeIn
    rw [rowsEq] at envelopeIn
    rcases List.mem_append.mp envelopeIn with old | new
    · exact balanced.charged envelope old
    have isRow : envelope = row := by simpa using new
    have nothing : chargedTo store row.runId = 0 := by
      unfold chargedTo
      rw [none]
      rfl
    rw [isRow, uncharged]
    exact nothing.symm
  · intro meets envelope envelopeIn
    rw [rowsEq] at envelopeIn
    rcases List.mem_append.mp envelopeIn with old | new
    · exact balanced.within meets envelope old
    have isRow : envelope = row := by simpa using new
    have nothing : heldBy store row.runId = 0 := by
      unfold heldBy
      rw [none]
      rfl
    have same : heldBy { store with envelopes := envelopes } row.runId =
        heldBy store row.runId := rfl
    rw [isRow]
    unfold WithinBudget
    rw [same, nothing, unused, uncharged]
    refine (Capacity.le_iff _ _).mpr ⟨?_, ?_, ?_, ?_⟩ <;> simp [Usage.spent]

variable {delegations : Table DelegationRow.delegationId}
variable {reservations : Table ReservationRow.delegationId} {row : ReservationRow}

theorem sum_inserted [AddCommMonoid Amount]
    (inserted : store.reservations.insert row = some reservations)
    (amount : ReservationRow → Amount) (delegations : Table DelegationRow.delegationId)
    (runId : String) :
    ((reservationsOf
        { store with delegations := delegations, reservations := reservations }
        runId).map amount).sum =
      ((reservationsOf store runId).map amount).sum +
        (if row.parentRunId = runId then amount row else 0) := by
  obtain ⟨-, rowsEq⟩ := (store.reservations.insert_some_iff reservations row).mp inserted
  simp only [reservationsOf, Table.sum_filter, rowsEq, List.map_append,
    List.sum_append, List.map_cons, List.map_nil, List.sum_cons, List.sum_nil, add_zero,
    decide_eq_true_eq]

theorem balanced_insert_child (balanced : Balanced capped store) {delegation : DelegationRow}
    {child : EnvelopeRow}
    (insertedDelegation : store.delegations.insert delegation = some delegations)
    (inserted : store.reservations.insert row = some reservations)
    (sameEdge : delegationEdge delegation = reservationEdge row) (isOpen : row.state = .reserved)
    (foundParent : store.envelopes.find delegation.parentRunId = some parent)
    (foundChild : store.envelopes.find delegation.childRunId = some child)
    (below : parent.depth + 1 = delegation.depth) (level : child.depth = delegation.depth)
    (backing : row.reserved = child.budget.capacity)
    (fits : capped → row.reserved + parent.used.spent + parent.delegatedUsed.spent +
      heldBy store parent.runId ≤ parent.budget.capacity) :
    Balanced capped { store with delegations := delegations, reservations := reservations } := by
  obtain ⟨-, delegationRows⟩ :=
    (store.delegations.insert_some_iff delegations delegation).mp insertedDelegation
  obtain ⟨-, reservationRows⟩ :=
    (store.reservations.insert_some_iff reservations row).mp inserted
  have uncharged : row.charged = 0 := by
    unfold ReservationRow.charged
    rw [isOpen]
  have holds : row.held = row.reserved := by
    unfold ReservationRow.held
    rw [isOpen]
  have parentKey : parent.runId = delegation.parentRunId :=
    store.envelopes.key_of_find foundParent
  have rowParent : row.parentRunId = parent.runId := by
    rw [parentKey]
    exact (congrArg Edge.parentRunId sameEdge).symm
  have rowChild : row.childRunId = delegation.childRunId :=
    (congrArg Edge.childRunId sameEdge).symm
  refine { paired := ?_, joined := ?_, backed := ?_, charged := ?_, within := ?_ }
  · simp only [delegationRows, reservationRows, List.map_append, List.map_cons, List.map_nil,
      balanced.paired, sameEdge]
  · intro other otherIn
    rw [delegationRows] at otherIn
    rcases List.mem_append.mp otherIn with old | new
    · obtain ⟨parentSide, childSide⟩ := balanced.joined other old
      exact ⟨parentSide, childSide⟩
    · have isNew : other = delegation := by simpa using new
      rw [isNew]
      exact ⟨⟨parent, foundParent, below⟩, ⟨child, foundChild, level⟩⟩
  · intro other otherIn
    rw [reservationRows] at otherIn
    rcases List.mem_append.mp otherIn with old | new
    · exact balanced.backed other old
    · have isNew : other = row := by simpa using new
      rw [isNew, rowChild]
      exact ⟨child, foundChild, backing⟩
  · intro envelope envelopeIn
    rw [chargedTo, sum_inserted inserted, uncharged, ite_self, add_zero]
    exact balanced.charged envelope envelopeIn
  · intro meets envelope envelopeIn
    have before := balanced.within meets envelope envelopeIn
    unfold WithinBudget heldBy at before ⊢
    rw [sum_inserted inserted, holds]
    by_cases own : row.parentRunId = envelope.runId
    · have isParent : envelope = parent :=
        store.envelopes.row_unique envelopeIn (store.envelopes.mem_of_find foundParent)
          (own.symm.trans rowParent)
      have room := fits meets
      unfold heldBy at room
      rw [if_pos own, isParent]
      simp only [Capacity.le_iff, Capacity.add_turns, Capacity.add_modelCalls,
        Capacity.add_toolCalls, Capacity.add_totalTokens] at room ⊢
      omega
    · rw [if_neg own, add_zero]
      exact before

theorem sum_released [AddCommMonoid Amount]
    (found : store.reservations.find row.delegationId = some row) (reason : DelegationOutcome)
    (usage : Usage) (now : Nat) (envelopes : Table EnvelopeRow.runId)
    (amount : ReservationRow → Amount) (runId : String) :
    ((reservationsOf
        { store with
          envelopes := envelopes
          reservations := store.reservations.update (row.releasedAs reason usage now) }
        runId).map amount).sum + (if row.parentRunId = runId then amount row else 0) =
      ((reservationsOf store runId).map amount).sum +
        (if row.parentRunId = runId then amount (row.releasedAs reason usage now) else 0) := by
  simp only [reservationsOf, Table.sum_filter, decide_eq_true_eq]
  exact store.reservations.sum_update (row.releasedAs reason usage now) found
    fun other => if other.parentRunId = runId then amount other else 0

theorem balanced_release (balanced : Balanced capped store)
    (found : store.reservations.find row.delegationId = some row) (isOpen : row.state = .reserved)
    (foundParent : store.envelopes.find row.parentRunId = some parent) (reason : DelegationOutcome)
    (usage : Usage) (now : Nat) (fits : capped → usage.spent ≤ row.reserved) :
    Balanced capped
      { store with
        reservations := store.reservations.update (row.releasedAs reason usage now)
        envelopes := store.envelopes.update (parent.charging usage now) } := by
  have parentKey : parent.runId = row.parentRunId := store.envelopes.key_of_find foundParent
  have present : store.envelopes.find (parent.charging usage now).runId = some parent := by
    have sameKey : (parent.charging usage now).runId = row.parentRunId := parentKey
    rw [sameKey]
    exact foundParent
  have presentRow :
      store.reservations.find (row.releasedAs reason usage now).delegationId = some row := found
  have lookup := find_updated_envelope present ⟨rfl, rfl, rfl⟩
  have uncharged : row.charged = 0 := by
    unfold ReservationRow.charged
    rw [isOpen]
  have holds : row.held = row.reserved := by
    unfold ReservationRow.held
    rw [isOpen]
  have counted := sum_released found reason usage now
    (store.envelopes.update (parent.charging usage now)) ReservationRow.charged
  have freed := sum_released found reason usage now
    (store.envelopes.update (parent.charging usage now)) ReservationRow.held
  have holdsNow : (row.releasedAs reason usage now).held = 0 := rfl
  simp only [uncharged, ite_self, add_zero] at counted
  simp only [holds, holdsNow, ite_self, add_zero] at freed
  refine { paired := ?_, joined := ?_, backed := ?_, charged := ?_, within := ?_ }
  · rw [balanced.paired]
    exact (store.reservations.map_update _ presentRow reservationEdge rfl).symm
  · exact fun delegation delegationIn =>
      joined_of_lookup lookup (balanced.joined delegation delegationIn)
  · intro reservation reservationIn
    have source : ∃ other ∈ store.reservations.rows,
        other.childRunId = reservation.childRunId ∧ other.reserved = reservation.reserved := by
      rcases (store.reservations.mem_update_iff _ presentRow reservation).mp reservationIn with
        isReleased | ⟨otherIn, -⟩
      · rw [isReleased]
        exact ⟨row, store.reservations.mem_of_find found, rfl, rfl⟩
      · exact ⟨reservation, otherIn, rfl, rfl⟩
    obtain ⟨other, otherIn, sameChild, sameReserved⟩ := source
    rw [← sameChild, ← sameReserved]
    exact backed_of_lookup lookup (balanced.backed other otherIn)
  · intro envelope envelopeIn
    rw [chargedTo, counted]
    rcases (store.envelopes.mem_update_iff _ present envelope).mp envelopeIn with
      isParent | ⟨otherIn, different⟩
    · have before := balanced.charged parent (store.envelopes.mem_of_find foundParent)
      have own : row.parentRunId = (parent.charging usage now).runId := parentKey.symm
      rw [isParent, if_pos own]
      have chargedNow : (parent.charging usage now).delegatedUsed =
          parent.delegatedUsed + usage := rfl
      rw [chargedNow, before]
      rfl
    · have notOwn : row.parentRunId ≠ envelope.runId := by
        intro same
        exact different (same.symm.trans parentKey.symm)
      rw [if_neg notOwn, add_zero]
      exact balanced.charged envelope otherIn
  · intro meets envelope envelopeIn
    unfold WithinBudget heldBy
    rcases (store.envelopes.mem_update_iff _ present envelope).mp envelopeIn with
      isParent | ⟨otherIn, different⟩
    · have before := balanced.within meets parent (store.envelopes.mem_of_find foundParent)
      have room := fits meets
      have freedHere := freed parent.runId
      rw [if_pos parentKey.symm] at freedHere
      unfold WithinBudget heldBy at before
      rw [← freedHere] at before
      rw [isParent]
      simp only [Capacity.le_iff, Capacity.add_turns, Capacity.add_modelCalls,
        Capacity.add_toolCalls, Capacity.add_totalTokens, EnvelopeRow.charging, Usage.spent,
        Usage.add_turns, Usage.add_modelCalls, Usage.add_toolCalls, Usage.add_inputTokens,
        Usage.add_outputTokens] at before room ⊢
      omega
    · have notOwn : row.parentRunId ≠ envelope.runId := by
        intro same
        exact different (same.symm.trans parentKey.symm)
      have before := balanced.within meets envelope otherIn
      have freedHere := freed envelope.runId
      rw [if_neg notOwn, add_zero] at freedHere
      rw [freedHere]
      exact before

end OpenRill.Runs.BudgetLedger
