import Mathlib.Data.List.Perm.Subperm
import OpenRill.Runs.BudgetTree

/-!
# The scope of a delegated run

Scope, depth and deadline of a child are checked against its parent once, when
the child is created, and no later write of an envelope changes them. A run that
descends from another is therefore no wider than it, over any number of levels.
The same check counts the children of the parent: those it ever had, and those
whose reservation is open. A delegation that is active has an open reservation,
so the count bounds the active ones.
-/

namespace OpenRill.Runs.DelegationScope

open Lib Lib.Runs Lib.Transaction State Ledger Delegations Lifecycle DelegationService Operations
open LedgerRules DelegationRules BudgetLedger BudgetTree

variable {store changed : DelegationStore} {now : Nat} {delegationId : String} {held : Prop}
variable {status : DelegationStatus} {run ancestor parent : EnvelopeRow} {options : RunOptions}
variable {input : CreateDelegatedRunInput}

def Descends (store : DelegationStore) : String → DelegationRow → Prop :=
  Forest.Reaches (directChildren store) DelegationRow.childRunId

structure NoWider (run ancestor : EnvelopeRow) : Prop where
  scope : scopeWithin run.scope ancestor.scope
  deadline : run.deadlineAt ≤ ancestor.deadlineAt
  depth : run.depth ≤ ancestor.budget.maxDelegationDepth
  limit : run.budget.maxDelegationDepth ≤ ancestor.budget.maxDelegationDepth
  deeper : ancestor.depth < run.depth
  root : run.rootRunId = ancestor.rootRunId

/-- Every descendant of a run is no wider than it, and carries the scope that its
delegation shows. -/
def Narrowing (store : DelegationStore) : Prop :=
  ∀ ancestorRunId row, Descends store ancestorRunId row →
    ∃ ancestor run, store.envelopes.find ancestorRunId = some ancestor ∧
      store.envelopes.find row.childRunId = some run ∧ run.scope = row.scope ∧
      run.depth = row.depth ∧ NoWider run ancestor

def ListsDescendants (store : DelegationStore) : Prop :=
  ∀ runId row, row ∈ listDescendantsOfRun store runId ↔ Descends store runId row

def activeChildren (store : DelegationStore) (runId : String) : List DelegationRow :=
  (directChildren store runId).filter (fun row => row.status.active)

structure WithinLimits (store : DelegationStore) (row : EnvelopeRow) : Prop where
  reserved : (reservationSummary store row.runId).activeChildren ≤ row.budget.maxActiveChildren
  active : (activeChildren store row.runId).length ≤ row.budget.maxActiveChildren
  total : (reservationSummary store row.runId).totalChildren ≤ row.budget.maxTotalChildren

/-- The envelopes of the two ends of a delegation, the child's no wider. -/
def Narrowed (store : DelegationStore) (row : DelegationRow) : Prop :=
  ∃ parent child, store.envelopes.find row.parentRunId = some parent ∧
    store.envelopes.find row.childRunId = some child ∧ child.scope = row.scope ∧
    child.depth = row.depth ∧ NoWider child parent

def openChildren (store : DelegationStore) (runId : String) : Nat :=
  (reservationsOf store runId).countP (fun row => decide (row.state = .reserved))

structure Scoped (store : DelegationStore) : Prop where
  narrowed : ∀ row ∈ store.delegations.rows, Narrowed store row
  total : ∀ row ∈ store.envelopes.rows,
    (directChildren store row.runId).length ≤ row.budget.maxTotalChildren
  reserved : ∀ row ∈ store.envelopes.rows,
    openChildren store row.runId ≤ row.budget.maxActiveChildren

def Open (store : DelegationStore) (delegationId : String) : Prop :=
  ∃ row, store.reservations.find delegationId = some row ∧ row.state = .reserved

/-- Every active delegation holds its share. -/
def Covered (store : DelegationStore) : Prop :=
  ∀ row ∈ store.delegations.rows, row.status.active = true → Open store row.delegationId

/-- The tables while a transaction settles one delegation: the others are covered,
and of this one its status is known and whether it is. -/
structure Working (held : Prop) (delegationId : String) (status : DelegationStatus)
    (store : DelegationStore) : Prop where
  bounded : Scoped store
  others : ∀ row ∈ store.delegations.rows, row.delegationId ≠ delegationId →
    row.status.active = true → Open store row.delegationId
  known : (store.delegations.find delegationId).map DelegationRow.status = some status
  own : held → Open store delegationId

structure Kept (store : DelegationStore) : Prop where
  bounded : Scoped store
  covered : Covered store

theorem kept_empty : Kept DelegationStore.empty where
  bounded :=
    { narrowed := by
        intro row rowIn
        cases rowIn
      total := by
        intro row rowIn
        cases rowIn
      reserved := by
        intro row rowIn
        cases rowIn }
  covered := by
    intro row rowIn
    cases rowIn

theorem working_of_found (kept : Kept store) {current : DelegationRow}
    (found : store.delegations.find delegationId = some current) :
    Working (current.status.active = true) delegationId current.status store where
  bounded := kept.bounded
  others row rowIn _ active := kept.covered row rowIn active
  known := by rw [found, Option.map_some]
  own active := by
    have key : current.delegationId = delegationId := store.delegations.key_of_find found
    rw [← key]
    exact kept.covered current (store.delegations.mem_of_find found) active

theorem kept_of_working (working : Working held delegationId status store)
    (holds : status.active = true → held) : Kept store where
  bounded := working.bounded
  covered row rowIn active := by
    by_cases isOwn : row.delegationId = delegationId
    · have found : store.delegations.find delegationId = some row := by
        rw [← isOwn]
        exact store.delegations.find_of_mem rowIn
      have known := working.known
      rw [found, Option.map_some, Option.some.injEq] at known
      rw [known] at active
      rw [isOwn]
      exact working.own (holds active)
    · exact working.others row rowIn isOwn active

variable {row : DelegationRow}

structure Limits where
  runId : String
  rootRunId : String
  depth : Nat
  budget : DelegationBudget
  deadlineAt : Nat
  scope : DelegationScope

def limitsOf (row : EnvelopeRow) : Limits where
  runId := row.runId
  rootRunId := row.rootRunId
  depth := row.depth
  budget := row.budget
  deadlineAt := row.deadlineAt
  scope := row.scope

theorem noWider_of_limits {runNow ancestorNow : EnvelopeRow} (noWider : NoWider run ancestor)
    (sameRun : limitsOf runNow = limitsOf run)
    (sameAncestor : limitsOf ancestorNow = limitsOf ancestor) : NoWider runNow ancestorNow := by
  have runRoot : runNow.rootRunId = run.rootRunId := congrArg Limits.rootRunId sameRun
  have runDepth : runNow.depth = run.depth := congrArg Limits.depth sameRun
  have runBudget : runNow.budget = run.budget := congrArg Limits.budget sameRun
  have runDeadline : runNow.deadlineAt = run.deadlineAt := congrArg Limits.deadlineAt sameRun
  have runScope : runNow.scope = run.scope := congrArg Limits.scope sameRun
  have aboveRoot : ancestorNow.rootRunId = ancestor.rootRunId :=
    congrArg Limits.rootRunId sameAncestor
  have aboveDepth : ancestorNow.depth = ancestor.depth := congrArg Limits.depth sameAncestor
  have aboveBudget : ancestorNow.budget = ancestor.budget :=
    congrArg Limits.budget sameAncestor
  have aboveDeadline : ancestorNow.deadlineAt = ancestor.deadlineAt :=
    congrArg Limits.deadlineAt sameAncestor
  have aboveScope : ancestorNow.scope = ancestor.scope := congrArg Limits.scope sameAncestor
  refine { scope := ?_, deadline := ?_, depth := ?_, limit := ?_, deeper := ?_, root := ?_ }
  · rw [runScope, aboveScope]
    exact noWider.scope
  · rw [runDeadline, aboveDeadline]
    exact noWider.deadline
  · rw [runDepth, aboveBudget]
    exact noWider.depth
  · rw [runBudget, aboveBudget]
    exact noWider.limit
  · rw [aboveDepth, runDepth]
    exact noWider.deeper
  · rw [runRoot, aboveRoot]
    exact noWider.root

structure Bond where
  edge : Edge
  depth : Nat
  scope : DelegationScope

def bondOf (row : DelegationRow) : Bond where
  edge := delegationEdge row
  depth := row.depth
  scope := row.scope

/-- A write after which every envelope has the limits it had and every delegation
its bond, and no more reservations are open. -/
structure Quiet (store changed : DelegationStore) : Prop where
  envelopes : ∀ runId row, store.envelopes.find runId = some row →
    ∃ now, changed.envelopes.find runId = some now ∧ limitsOf now = limitsOf row
  known : ∀ row ∈ changed.envelopes.rows, ∃ old ∈ store.envelopes.rows, limitsOf row = limitsOf old
  bonds : changed.delegations.rows.map bondOf = store.delegations.rows.map bondOf
  opened : ∀ runId, openChildren changed runId ≤ openChildren store runId

theorem directChildren_of_bonds
    (bonds : changed.delegations.rows.map bondOf = store.delegations.rows.map bondOf)
    (runId : String) :
    (directChildren changed runId).length = (directChildren store runId).length := by
  have counted : ∀ rows : List DelegationRow,
      (rows.filter fun row => decide (row.parentRunId = runId)).length =
        (rows.map bondOf).countP (fun bond => decide (bond.edge.parentRunId = runId)) := by
    intro rows
    rw [List.countP_map, List.countP_eq_length_filter]
    rfl
  unfold directChildren
  rw [counted, counted, bonds]

theorem narrowed_of_quiet (quiet : Quiet store changed) {now : DelegationRow}
    (narrowed : Narrowed store row) (same : bondOf now = bondOf row) : Narrowed changed now := by
  obtain ⟨parent, child, foundParent, foundChild, scope, depth, noWider⟩ := narrowed
  obtain ⟨parentNow, foundParentNow, sameParent⟩ := quiet.envelopes _ parent foundParent
  obtain ⟨childNow, foundChildNow, sameChild⟩ := quiet.envelopes _ child foundChild
  have isParent : now.parentRunId = row.parentRunId :=
    congrArg (fun bond => bond.edge.parentRunId) same
  have isChild : now.childRunId = row.childRunId :=
    congrArg (fun bond => bond.edge.childRunId) same
  have isScope : now.scope = row.scope := congrArg Bond.scope same
  have isDepth : now.depth = row.depth := congrArg Bond.depth same
  have childScope : childNow.scope = child.scope := congrArg Limits.scope sameChild
  have childDepth : childNow.depth = child.depth := congrArg Limits.depth sameChild
  refine ⟨parentNow, childNow, ?_, ?_, ?_, ?_, ?_⟩
  · rw [isParent]
    exact foundParentNow
  · rw [isChild]
    exact foundChildNow
  · rw [childScope, isScope]
    exact scope
  · rw [childDepth, isDepth]
    exact depth
  · exact noWider_of_limits noWider sameChild sameParent

theorem scoped_of_quiet (bounded : Scoped store) (quiet : Quiet store changed) :
    Scoped changed where
  narrowed row rowIn := by
    have bondIn : bondOf row ∈ store.delegations.rows.map bondOf := by
      rw [← quiet.bonds]
      exact List.mem_map.mpr ⟨row, rowIn, rfl⟩
    obtain ⟨old, oldIn, same⟩ := List.mem_map.mp bondIn
    exact narrowed_of_quiet quiet (bounded.narrowed old oldIn) same.symm
  total row rowIn := by
    obtain ⟨old, oldIn, same⟩ := quiet.known row rowIn
    have sameRun : row.runId = old.runId := congrArg Limits.runId same
    have sameBudget : row.budget = old.budget := congrArg Limits.budget same
    rw [directChildren_of_bonds quiet.bonds, sameRun, sameBudget]
    exact bounded.total old oldIn
  reserved row rowIn := by
    obtain ⟨old, oldIn, same⟩ := quiet.known row rowIn
    have sameRun : row.runId = old.runId := congrArg Limits.runId same
    have sameBudget : row.budget = old.budget := congrArg Limits.budget same
    rw [sameRun, sameBudget]
    exact le_trans (quiet.opened old.runId) (bounded.reserved old oldIn)

theorem quiet_of_unrelated (envelopes : changed.envelopes = store.envelopes)
    (delegations : changed.delegations = store.delegations)
    (reservations : changed.reservations = store.reservations) : Quiet store changed where
  envelopes runId row found := ⟨row, by rw [envelopes]; exact found, rfl⟩
  known row rowIn := ⟨row, by rw [← envelopes]; exact rowIn, rfl⟩
  bonds := by rw [delegations]
  opened runId := by
    unfold openChildren reservationsOf
    rw [reservations]

theorem quiet_of_envelope {store : DelegationStore} {old row : EnvelopeRow}
    (found : store.envelopes.find old.runId = some old) (same : limitsOf row = limitsOf old) :
    Quiet store { store with envelopes := store.envelopes.update row } := by
  have sameRun : row.runId = old.runId := congrArg Limits.runId same
  have present : store.envelopes.find row.runId = some old := by
    rw [sameRun]
    exact found
  refine { envelopes := ?_, known := ?_, bonds := rfl, opened := fun runId => le_refl _ }
  · intro runId other foundOther
    have lookup := store.envelopes.find_update row present runId
    by_cases own : row.runId = runId
    · rw [if_pos own] at lookup
      rw [← own, present, Option.some.injEq] at foundOther
      refine ⟨row, lookup, ?_⟩
      rw [← foundOther]
      exact same
    · rw [if_neg own] at lookup
      exact ⟨other, lookup.trans foundOther, rfl⟩
  · intro other otherIn
    rcases (store.envelopes.mem_update_iff row present other).mp otherIn with isRow | ⟨oldIn, -⟩
    · rw [isRow]
      exact ⟨old, store.envelopes.mem_of_find found, same⟩
    · exact ⟨other, oldIn, rfl⟩

theorem quiet_of_status (found : store.delegations.find row.delegationId = some row)
    (status : DelegationStatus) (startedAt endedAt : Option Nat) (resultSha256 : Option String)
    (now : Nat) :
    Quiet store
      { store with
        delegations := store.delegations.update
          (row.moved status startedAt endedAt resultSha256 now) } where
  envelopes _ other foundOther := ⟨other, foundOther, rfl⟩
  known other otherIn := ⟨other, otherIn, rfl⟩
  bonds := store.delegations.map_update
    (row.moved status startedAt endedAt resultSha256 now) found _ rfl
  opened _ := le_refl _

theorem quiet_of_release {row : ReservationRow}
    (found : store.reservations.find row.delegationId = some row) (reason : DelegationOutcome)
    (charged : Usage) (now : Nat) :
    Quiet store
      { store with
        reservations := store.reservations.update (row.releasedAs reason charged now) } where
  envelopes _ other foundOther := ⟨other, foundOther, rfl⟩
  known other otherIn := ⟨other, otherIn, rfl⟩
  bonds := rfl
  opened runId := by
    have present : store.reservations.find (row.releasedAs reason charged now).delegationId =
        some row := found
    have counted : ∀ rows : List ReservationRow,
        (rows.filter fun row => decide (row.parentRunId = runId)).countP
            (fun row => decide (row.state = .reserved)) =
          rows.countP (fun row => decide (row.parentRunId = runId ∧ row.state = .reserved)) := by
      intro rows
      rw [List.countP_filter]
      congr 1
      funext other
      simp only [Bool.decide_and, Bool.and_comm]
    unfold openChildren reservationsOf
    rw [counted, counted]
    have written := store.reservations.countP_update (row.releasedAs reason charged now) present
      fun row => decide (row.parentRunId = runId ∧ row.state = .reserved)
    have released : decide ((row.releasedAs reason charged now).parentRunId = runId ∧
        (row.releasedAs reason charged now).state = .reserved) = false := by
      simp [ReservationRow.releasedAs]
    rw [released, Bool.toNat_false] at written
    dsimp only
    omega

theorem working_of_unrelated (working : Working held delegationId status store)
    (quiet : Quiet store changed) (delegations : changed.delegations = store.delegations)
    (reservations : changed.reservations = store.reservations) :
    Working held delegationId status changed := by
  have sameOpen : ∀ wanted, Open store wanted → Open changed wanted := by
    rintro wanted ⟨row, found, isOpen⟩
    refine ⟨row, ?_, isOpen⟩
    rw [reservations]
    exact found
  refine
    { bounded := scoped_of_quiet working.bounded quiet
      others := ?_
      known := ?_
      own := fun holds => sameOpen delegationId (working.own holds) }
  · intro row rowIn different active
    rw [delegations] at rowIn
    exact sameOpen _ (working.others row rowIn different active)
  · rw [delegations]
    exact working.known

theorem working_waitRules : WaitRules True (Working held delegationId status) where
  waits _ _ working := working_of_unrelated working (quiet_of_unrelated rfl rfl rfl) rfl rfl
  deliveries _ _ _ working :=
    working_of_unrelated working (quiet_of_unrelated rfl rfl rfl) rfl rfl

theorem updateDelegationStatus_working (next : DelegationStatus) {startedAt endedAt : Option Nat}
    {resultSha256 : Option String} :
    Ensures (Working held delegationId status)
      (updateDelegationStatus delegationId next startedAt endedAt resultSha256 now)
      (fun _ => Working held delegationId next) := by
  refine ensures_bind (ensures_inspect _) fun delegation => ?_
  refine ensures_bind (ensures_expect _ _) fun row => ensures_change _ ?_
  rintro store ⟨⟨working, isLookup⟩, isRow⟩
  have found : store.delegations.find delegationId = some row := isLookup.symm.trans isRow
  have key : row.delegationId = delegationId := store.delegations.key_of_find found
  have present : store.delegations.find
      (row.moved next startedAt endedAt resultSha256 now).delegationId = some row := by
    change store.delegations.find row.delegationId = some row
    rw [key]
    exact found
  refine
    { bounded := scoped_of_quiet working.bounded (quiet_of_status present next _ _ _ _)
      others := ?_
      known := ?_
      own := working.own }
  · intro other otherIn different active
    rcases (store.delegations.mem_update_iff _ present other).mp otherIn with isMoved | ⟨old, -⟩
    · rw [isMoved] at different
      exact absurd key different
    · exact working.others other old different active
  · have lookup := store.delegations.find_update _ present delegationId
    have isOwn : (row.moved next startedAt endedAt resultSha256 now).delegationId =
        delegationId := key
    rw [if_pos isOwn] at lookup
    rw [lookup, Option.map_some]
    rfl

theorem release_working (working : Working held delegationId status store) {row : ReservationRow}
    (found : store.reservations.find delegationId = some row)
    (foundParent : store.envelopes.find row.parentRunId = some parent) (reason : DelegationOutcome)
    {charged : Usage} (now : Nat) :
    Working False delegationId status
      { store with
        reservations := store.reservations.update (row.releasedAs reason charged now)
        envelopes := store.envelopes.update (parent.charging charged now) } := by
  have key : row.delegationId = delegationId := store.reservations.key_of_find found
  have present : store.reservations.find (row.releasedAs reason charged now).delegationId =
      some row := by
    change store.reservations.find row.delegationId = some row
    rw [key]
    exact found
  have parentKey : parent.runId = row.parentRunId := store.envelopes.key_of_find foundParent
  have own : store.envelopes.find parent.runId = some parent := by
    rw [parentKey]
    exact foundParent
  have released : Scoped
      { store with
        reservations := store.reservations.update (row.releasedAs reason charged now) } :=
    scoped_of_quiet working.bounded (quiet_of_release present reason charged now)
  have chargedEnvelope : Scoped
      { store with
        reservations := store.reservations.update (row.releasedAs reason charged now)
        envelopes := store.envelopes.update (parent.charging charged now) } :=
    scoped_of_quiet released
      (@quiet_of_envelope
        { store with
          reservations := store.reservations.update (row.releasedAs reason charged now) }
        parent (parent.charging charged now) own rfl)
  refine
    { bounded := chargedEnvelope
      others := ?_
      known := working.known
      own := fun impossible => impossible.elim }
  intro other otherIn different active
  obtain ⟨reservation, foundReservation, isOpen⟩ := working.others other otherIn different active
  refine ⟨reservation, ?_, isOpen⟩
  have lookup := store.reservations.find_update (row.releasedAs reason charged now) present
    other.delegationId
  have elsewhere : (row.releasedAs reason charged now).delegationId ≠ other.delegationId := by
    intro same
    exact different (same.symm.trans key)
  rw [if_neg elsewhere] at lookup
  exact lookup.trans foundReservation

theorem working_weakened {weaker : Prop} (working : Working held delegationId status store)
    (implies : weaker → held) : Working weaker delegationId status store where
  bounded := working.bounded
  others := working.others
  known := working.known
  own holds := working.own (implies holds)

theorem releaseReservation_working (current : DelegationRow) (reason : DelegationOutcome)
    (now : Nat) :
    Ensures (Working held current.delegationId status) (releaseReservation current reason now)
      (fun _ => Working False current.delegationId status) := by
  refine ensures_bind (ensures_inspect _) fun envelope => ?_
  refine ensures_bind (ensures_expect _ _) fun child => ?_
  refine ensures_from (Working held current.delegationId status) ?_ fun _ holds => holds.1.1
  refine ensures_bind (ensures_inspect _) fun found => ?_
  refine ensures_bind (ensures_expect _ _) fun row => ?_
  split
  next durableReason durableCharge releasedAt _ =>
    refine ensures_bind (ensures_demand _ _) fun _ => ensures_pure _ ?_
    rintro store ⟨⟨⟨working, -⟩, -⟩, -⟩
    exact working_weakened working False.elim
  next isOpen =>
    refine ensures_at fun store initially => ?_
    obtain ⟨⟨working, isFound⟩, isRow⟩ := initially
    have found : store.reservations.find current.delegationId = some row :=
      isFound.symm.trans isRow
    apply ensures_write
    refine ensures_inspect_then fun middle isMiddle => ?_
    apply ensures_expect_then
    intro parent foundParent
    rw [isMiddle] at foundParent
    apply ensures_write
    apply ensures_return
    exact release_working working found foundParent reason now

variable {envelopes : Table EnvelopeRow.runId}
variable {row : EnvelopeRow} {delegation : DelegationRow} {runId : String}

theorem narrowed_of_inserted (inserted : store.envelopes.insert row = some envelopes)
    (narrowed : Narrowed store delegation) :
    Narrowed { store with envelopes := envelopes } delegation := by
  obtain ⟨absent, -⟩ := (store.envelopes.insert_some_iff envelopes row).mp inserted
  obtain ⟨parent, child, foundParent, foundChild, rest⟩ := narrowed
  have kept : ∀ runId other, store.envelopes.find runId = some other →
      envelopes.find runId = some other := by
    intro runId other found
    rw [store.envelopes.find_insert envelopes row runId inserted]
    have different : row.runId ≠ runId := by
      intro same
      apply absent other (store.envelopes.mem_of_find found)
      rw [same]
      exact store.envelopes.key_of_find found
    rw [if_neg different]
    exact found
  exact ⟨parent, child, kept _ _ foundParent, kept _ _ foundChild, rest⟩

theorem no_children (bounded : Scoped store)
    (absent : ∀ row ∈ store.envelopes.rows, row.runId ≠ runId) :
    directChildren store runId = [] := by
  apply List.filter_eq_nil_iff.mpr
  intro row rowIn
  obtain ⟨parent, -, foundParent, -⟩ := bounded.narrowed row rowIn
  simp only [decide_eq_true_eq]
  intro same
  apply absent parent (store.envelopes.mem_of_find foundParent)
  rw [← same]
  exact store.envelopes.key_of_find foundParent

theorem no_openChildren (balanced : Balanced False store)
    (absent : ∀ row ∈ store.envelopes.rows, row.runId ≠ runId) : openChildren store runId = 0 := by
  unfold openChildren
  rw [no_reservations balanced ((store.envelopes.find_none_iff runId).mpr absent)]
  rfl

theorem kept_insert_envelope (kept : Kept store) (balanced : Balanced False store)
    (inserted : store.envelopes.insert row = some envelopes) :
    Kept { store with envelopes := envelopes } := by
  obtain ⟨absent, rowsEq⟩ := (store.envelopes.insert_some_iff envelopes row).mp inserted
  refine
    { bounded :=
        { narrowed := fun delegation delegationIn =>
            narrowed_of_inserted inserted (kept.bounded.narrowed delegation delegationIn)
          total := ?_
          reserved := ?_ }
      covered := kept.covered }
  · intro other otherIn
    rcases (store.envelopes.mem_insert_iff envelopes row inserted other).mp otherIn with old | new
    · exact kept.bounded.total other old
    rw [new]
    have none := no_children kept.bounded absent
    have same : directChildren { store with envelopes := envelopes } row.runId =
        directChildren store row.runId := rfl
    rw [same, none]
    exact Nat.zero_le _
  · intro other otherIn
    rcases (store.envelopes.mem_insert_iff envelopes row inserted other).mp otherIn with old | new
    · exact kept.bounded.reserved other old
    rw [new]
    have none := no_openChildren balanced absent
    have same : openChildren { store with envelopes := envelopes } row.runId =
        openChildren store row.runId := rfl
    rw [same, none]
    exact Nat.zero_le _

structure Admitted (store : DelegationStore) (parent : EnvelopeRow)
    (requested : DelegationBudget) (scope : DelegationScope) (now : Nat) : Prop where
  scope : scopeWithin scope parent.scope
  depth : parent.depth + 1 ≤ parent.budget.maxDelegationDepth
  limit : requested.maxDelegationDepth ≤ parent.budget.maxDelegationDepth
  deadline : now + requested.execution.maxDurationMs ≤ parent.deadlineAt
  active : (reservationSummary store parent.runId).activeChildren < parent.budget.maxActiveChildren
  total : (reservationSummary store parent.runId).totalChildren < parent.budget.maxTotalChildren

theorem admitChild_admits {before : RunTables → Prop} (parent : EnvelopeRow)
    (requested : DelegationBudget) (scope : DelegationScope) (now : Nat)
    (within : scopeWithin scope parent.scope)
    (shallow : parent.depth + 1 ≤ parent.budget.maxDelegationDepth) :
    Ensures before
      (admitChild parent requested (reservationSummary store parent.runId) now)
      (fun _ tables => before tables ∧ Admitted store parent requested scope now) := by
  apply ensures_demand_then
  intro limits
  apply ensures_demand_then
  intro _
  apply ensures_demand_then
  intro time
  apply ensures_demand_then
  intro active
  apply ensures_demand_then
  intro total
  refine ensures_mono (ensures_demand _ _) (fun _ holds => holds) ?_
  intro _ tables holds
  exact ⟨holds.1,
    { scope := within
      depth := shallow
      limit := limits.1
      deadline := time.2
      active := active
      total := total }⟩

variable {delegations : Table DelegationRow.delegationId}
  {reservations : Table ReservationRow.delegationId}

theorem children_of_inserted (inserted : store.delegations.insert delegation = some delegations)
    (envelopes : Table EnvelopeRow.runId) (reservations : Table ReservationRow.delegationId)
    (runId : String) :
    (directChildren
        { store with
          envelopes := envelopes
          delegations := delegations
          reservations := reservations }
        runId).length =
      (directChildren store runId).length + (if delegation.parentRunId = runId then 1 else 0) := by
  obtain ⟨-, rowsEq⟩ := (store.delegations.insert_some_iff delegations delegation).mp inserted
  unfold directChildren
  rw [rowsEq, List.filter_append, List.length_append]
  by_cases same : delegation.parentRunId = runId
  · simp [same]
  · simp [same]

theorem openChildren_of_inserted {reservation : ReservationRow}
    (inserted : store.reservations.insert reservation = some reservations)
    (isOpen : reservation.state = .reserved) (envelopes : Table EnvelopeRow.runId)
    (delegations : Table DelegationRow.delegationId) (runId : String) :
    openChildren
        { store with
          envelopes := envelopes
          delegations := delegations
          reservations := reservations }
        runId =
      openChildren store runId + (if reservation.parentRunId = runId then 1 else 0) := by
  obtain ⟨-, rowsEq⟩ := (store.reservations.insert_some_iff reservations reservation).mp inserted
  unfold openChildren reservationsOf
  rw [rowsEq, List.filter_append, List.countP_append]
  by_cases same : reservation.parentRunId = runId
  · simp [same, isOpen]
  · simp [same]

theorem kept_insert_child (kept : Kept store) (balanced : Balanced False store)
    {requested : NormalBudget} {scope : DelegationScope} {ids : ChildIds}
    {shallow : parent.depth + 1 ≤ parent.budget.maxDelegationDepth} {reached : DelegationStore}
    (foundParent : store.envelopes.find parent.runId = some parent)
    (admitted : Admitted store parent requested.val scope now)
    (inserted : ChildInserted options input requested scope ids parent now shallow store reached) :
    Kept reached := by
  obtain ⟨different, foundParentNow, foundChild⟩ := found_of_childInserted inserted foundParent
  have withEnvelope := kept_insert_envelope kept balanced inserted.envelope
  rw [inserted.others]
  have isParent : ∀ row ∈ reached.envelopes.rows, row.runId = parent.runId → row = parent := by
    intro row rowIn same
    exact reached.envelopes.row_unique rowIn (reached.envelopes.mem_of_find foundParentNow) same
  refine
    { bounded :=
        { narrowed := ?_, total := ?_, reserved := ?_ }
      covered := ?_ }
  · intro row rowIn
    rcases (store.delegations.mem_insert_iff _ _ inserted.delegation row).mp rowIn with
      old | new
    · exact withEnvelope.bounded.narrowed row old
    rw [new]
    refine ⟨parent, _, foundParentNow, foundChild, rfl, rfl, ?_⟩
    exact
      { scope := admitted.scope
        deadline := admitted.deadline
        depth := admitted.depth
        limit := admitted.limit
        deeper := Nat.lt_succ_self parent.depth
        root := rfl }
  · intro row rowIn
    rw [children_of_inserted inserted.delegation]
    by_cases same : parent.runId = row.runId
    · rw [if_pos (show (newDelegation options input scope ids parent now shallow).parentRunId =
        row.runId from same), isParent row rowIn same.symm]
      exact admitted.total
    · rw [if_neg (show (newDelegation options input scope ids parent now shallow).parentRunId ≠
        row.runId from same), Nat.add_zero]
      exact withEnvelope.bounded.total row rowIn
  · intro row rowIn
    rw [openChildren_of_inserted inserted.reservation rfl]
    by_cases same : parent.runId = row.runId
    · rw [if_pos (show (newReservation ids parent.runId requested.val now).parentRunId =
        row.runId from same), isParent row rowIn same.symm]
      exact admitted.active
    · rw [if_neg (show (newReservation ids parent.runId requested.val now).parentRunId ≠
        row.runId from same), Nat.add_zero]
      exact withEnvelope.bounded.reserved row rowIn
  · intro row rowIn active
    rcases (store.delegations.mem_insert_iff _ _ inserted.delegation row).mp rowIn with old | new
    · obtain ⟨reservation, found, isOpen⟩ := kept.covered row old active
      exact ⟨reservation, store.reservations.kept_insert _ _ inserted.reservation found, isOpen⟩
    · have lookup := store.reservations.find_insert _ _ ids.delegationId inserted.reservation
      rw [new]
      exact ⟨_, lookup.trans (if_pos rfl), rfl⟩

/-- What an operation may start from. -/
def Sound (store : DelegationStore) : Prop := Kept store ∧ Balanced False store

theorem insertBudgetEnvelope_kept (row : EnvelopeRow) :
    Ensures Sound (insertBudgetEnvelope row) (fun _ => Kept) := by
  apply ensures_tryMap
  rintro store envelopes ⟨kept, balanced⟩ inserted
  exact kept_insert_envelope kept balanced inserted

theorem updateBudgetUsage_kept (runId : String) (usage : Usage) (now : Nat) :
    Keeps Kept (updateBudgetUsage runId usage now) := by
  refine ensures_bind (ensures_inspect _) fun envelope => ?_
  refine ensures_bind (ensures_expect _ _) fun row => ensures_change _ ?_
  rintro store ⟨⟨kept, isEnvelope⟩, isRow⟩
  have found : store.envelopes.find runId = some row := isEnvelope.symm.trans isRow
  have own := store.envelopes.find_self found
  exact
    { bounded := scoped_of_quiet kept.bounded
        (@quiet_of_envelope store row (row.reporting usage now) own rfl)
      covered := kept.covered }

theorem createDelegatedRun_kept {createId : Nat → String} :
    Ensures (OnDelegations Sound) (createDelegatedRun options input now createId)
      (fun _ => OnDelegations Kept) :=
  createDelegatedRun_inserts (fun _ sound => sound.1)
    (fun _ parent requested scope within shallow =>
      admitChild_admits parent requested.val scope now within shallow)
    fun _ _ _ _ _ _ sound foundParent admitted inserted =>
      kept_insert_child sound.1 sound.2 foundParent admitted inserted

theorem kept_of_unrelated (kept : Kept store) (envelopes : changed.envelopes = store.envelopes)
    (delegations : changed.delegations = store.delegations)
    (reservations : changed.reservations = store.reservations) : Kept changed where
  bounded := scoped_of_quiet kept.bounded (quiet_of_unrelated envelopes delegations reservations)
  covered row rowIn active := by
    rw [delegations] at rowIn
    obtain ⟨reservation, found, isOpen⟩ := kept.covered row rowIn active
    refine ⟨reservation, ?_, isOpen⟩
    rw [reservations]
    exact found

theorem kept_waitRules : WaitRules True Kept where
  waits _ _ kept := kept_of_unrelated kept rfl rfl rfl
  deliveries _ _ _ kept := kept_of_unrelated kept rfl rfl rfl

theorem kept_rules : SettleRules True Kept
    (fun current held status => Working held current.delegationId status) where
  resting := kept_waitRules
  opens _ _ found kept := working_of_found kept found
  weakens _ _ _ _ _ implies working := working_weakened working implies
  closes _ _ _ _ holds working := kept_of_working working holds
  waits _ _ _ := working_waitRules
  moved _ _ _ next _ _ _ _ := updateDelegationStatus_working next
  released current _ _ reason now := releaseReservation_working current reason now

theorem step_kept (tables : RunTables) (op : RunOp) (sound : OnDelegations Sound tables) :
    OnDelegations Kept (step options tables op) :=
  step_leads op kept_rules (fun _ => trivial)
    ⟨fun _ initially => initially.1, fun row _ _ => insertBudgetEnvelope_kept row⟩
    (fun _ _ _ => createDelegatedRun_kept)
    (fun runId usage _ now => ensures_from Kept (updateBudgetUsage_kept runId usage now)
      fun _ initially => initially.1) sound

theorem reach_sound (options : RunOptions) (ops : List RunOp) :
    Sound (reach options ops).delegations :=
  run_invariant (step options) (OnDelegations Sound)
    (fun tables op sound =>
      ⟨step_kept tables op sound, step_balanced tables op False.elim sound.2⟩)
    RunTables.empty ops ⟨kept_empty, balanced_empty⟩

theorem noWider_trans {middle : EnvelopeRow} (first : NoWider run middle)
    (second : NoWider middle ancestor) : NoWider run ancestor where
  scope :=
    ⟨fun value valueIn => second.scope.1 value (first.scope.1 value valueIn),
      fun value valueIn => second.scope.2.1 value (first.scope.2.1 value valueIn),
      fun value valueIn => second.scope.2.2 value (first.scope.2.2 value valueIn)⟩
  deadline := le_trans first.deadline second.deadline
  depth := le_trans first.depth second.limit
  limit := le_trans first.limit second.limit
  deeper := lt_trans second.deeper first.deeper
  root := first.root.trans second.root

theorem narrowing_of_scoped (bounded : Scoped store) : Narrowing store := by
  intro ancestorRunId row descends
  induction descends with
  | child row rowIn =>
    obtain ⟨rowIn, isParent⟩ := List.mem_filter.mp rowIn
    have narrowed := bounded.narrowed row rowIn
    unfold Narrowed at narrowed
    rw [of_decide_eq_true isParent] at narrowed
    exact narrowed
  | under middle row _ rowIn ih =>
    obtain ⟨rowIn, isParent⟩ := List.mem_filter.mp rowIn
    obtain ⟨parent, child, foundParent, foundChild, scope, depth, noWider⟩ :=
      bounded.narrowed row rowIn
    obtain ⟨ancestor, run, foundAncestor, foundRun, -, -, above⟩ := ih
    rw [of_decide_eq_true isParent, foundRun, Option.some.injEq] at foundParent
    rw [← foundParent] at noWider
    exact ⟨ancestor, child, foundAncestor, foundChild, scope, depth, noWider_trans noWider above⟩

theorem listsDescendants_of_balanced (balanced : Balanced False store) :
    ListsDescendants store := by
  intro runId row
  have sorted : (listDescendantsOfRun store runId).Perm (descendantsBelow store 16 runId) :=
    List.perm_insertionSort _ _
  rw [sorted.mem_iff]
  -- a run without an envelope has no children, one with an envelope has a depth
  apply Forest.mem_below_iff
    fun levels runId => Within store levels runId ∨ directChildren store runId = []
  · intro node deep
    rcases deep with within | childless
    · exact no_children_at_bottom balanced within
    · exact childless
  · intro levels node edge deep edgeIn
    rcases deep with within | childless
    · exact Or.inl (within_child balanced levels node edge within edgeIn)
    · rw [childless] at edgeIn
      cases edgeIn
  · by_cases known : ∃ envelope, store.envelopes.find runId = some envelope
    · obtain ⟨envelope, found⟩ := known
      exact Or.inl ⟨envelope, found, by omega⟩
    right
    apply List.eq_nil_iff_forall_not_mem.mpr
    intro child childIn
    obtain ⟨isParent, joined⟩ := joined_of_child balanced childIn
    obtain ⟨parent, foundParent, -⟩ := joined.parent
    rw [isParent] at foundParent
    exact known ⟨parent, foundParent⟩

theorem activeChildren_le (covered : Covered store) (balanced : Balanced False store)
    (runId : String) :
    (activeChildren store runId).length ≤ openChildren store runId := by
  have distinct : ((activeChildren store runId).map DelegationRow.delegationId).Nodup := by
    apply List.Nodup.sublist _ store.delegations.keysNodup
    apply List.Sublist.map
    exact List.filter_sublist.trans List.filter_sublist
  have covers : (activeChildren store runId).map DelegationRow.delegationId ⊆
      ((reservationsOf store runId).filter
        fun row => decide (row.state = .reserved)).map ReservationRow.delegationId := by
    intro delegationId idIn
    obtain ⟨row, rowIn, isId⟩ := List.mem_map.mp idIn
    obtain ⟨childIn, active⟩ := List.mem_filter.mp rowIn
    obtain ⟨delegationIn, isParent⟩ := List.mem_filter.mp childIn
    obtain ⟨reservation, found, isOpen⟩ := covered row delegationIn active
    have reservationIn := store.reservations.mem_of_find found
    have sameId : reservation.delegationId = row.delegationId :=
      store.reservations.key_of_find found
    obtain ⟨delegation, otherIn, sameEdge⟩ := delegation_of_reservation balanced reservationIn
    have isRow : delegation = row := by
      apply store.delegations.row_unique otherIn delegationIn
      exact (congrArg Edge.delegationId sameEdge).trans sameId
    have sameParent : row.parentRunId = reservation.parentRunId := by
      rw [← isRow]
      exact congrArg Edge.parentRunId sameEdge
    apply List.mem_map.mpr
    refine ⟨reservation, ?_, sameId.trans isId⟩
    apply List.mem_filter.mpr
    refine ⟨List.mem_filter.mpr ⟨reservationIn, ?_⟩, decide_eq_true isOpen⟩
    rw [← sameParent]
    exact isParent
  have fewer := (distinct.subperm covers).length_le
  rw [List.length_map, List.length_map, ← List.countP_eq_length_filter] at fewer
  exact fewer

theorem withinLimits_of_sound (sound : Sound store) {row : EnvelopeRow}
    (rowIn : row ∈ store.envelopes.rows) : WithinLimits store row where
  reserved := sound.1.bounded.reserved row rowIn
  active := le_trans (activeChildren_le sound.1.covered sound.2 row.runId)
    (sound.1.bounded.reserved row rowIn)
  total := sound.1.bounded.total row rowIn

/-- After every run of the host, every descendant of a run is no wider than it, the
descendant query lists exactly these, and every run keeps to its limits. -/
theorem delegation_scope_narrows (options : RunOptions) (ops : List RunOp) :
    Narrowing (reach options ops).delegations ∧
      ListsDescendants (reach options ops).delegations ∧
      ∀ row ∈ (reach options ops).delegations.envelopes.rows,
        WithinLimits (reach options ops).delegations row := by
  have sound := reach_sound options ops
  refine ⟨narrowing_of_scoped sound.1.bounded, listsDescendants_of_balanced sound.2, ?_⟩
  intro row rowIn
  exact withinLimits_of_sound sound rowIn

end OpenRill.Runs.DelegationScope
