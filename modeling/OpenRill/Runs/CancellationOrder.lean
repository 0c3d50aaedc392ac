import OpenRill.Runs.DelegationScope

/-!
# The order in which a subtree is cancelled

The active descendants of a run are cancelled deepest first, so that no run ends before
those it waits for. In a forest a delegation lies one level below the run it leaves, and
the order lists every active descendant once, behind its own descendants.
-/

namespace OpenRill.Runs.CancellationOrder

open Lib Ledger Delegations Operations DelegationScope BudgetLedger BudgetTree

section Sorting

variable {Item : Type} {before within : Item → Item → Prop} [DecidableRel before]

variable (taken : ∀ first second, before first second → within first second) (passed : ∀ first
  second, ¬ before first second → within second first) (chained : ∀ first second third, within
  first second → within second third → within first third)

include taken passed chained

theorem pairwise_orderedInsert (item : Item) (items : List Item) (sorted : items.Pairwise within) :
    (items.orderedInsert before item).Pairwise within := by
  induction items with
  | nil => exact List.pairwise_singleton within item
  | cons first rest ih =>
    rw [List.pairwise_cons] at sorted
    rw [List.orderedInsert_cons]
    split
    next isBefore =>
      refine List.pairwise_cons.mpr ⟨?_, List.pairwise_cons.mpr sorted⟩
      intro other otherIn
      rcases List.mem_cons.mp otherIn with isFirst | inRest
      · rw [isFirst]
        exact taken item first isBefore
      · exact chained item first other (taken item first isBefore) (sorted.1 other inRest)
    next isAfter =>
      refine List.pairwise_cons.mpr ⟨?_, ih sorted.2⟩
      intro other otherIn
      rcases (List.mem_orderedInsert before).mp otherIn with isItem | inRest
      · rw [isItem]
        exact passed item first isAfter
      · exact sorted.1 other inRest

/-- A sort by one relation is sorted by every order that the relation decides between. -/
theorem pairwise_insertionSort_within (items : List Item) :
    (items.insertionSort before).Pairwise within := by
  induction items with
  | nil => exact List.Pairwise.nil
  | cons first rest ih =>
    exact pairwise_orderedInsert taken passed chained first (rest.insertionSort before) ih

end Sorting

variable (localeCompare : String → String → Int)

/-- The comparator of the sort is not positive: `right.depth - left.depth`, then
`right.createdAt - left.createdAt`, then the identifiers by `localeCompare`. -/
def deeperFirst (left right : DelegationRow) : Prop :=
  right.depth < left.depth ∨
    (right.depth = left.depth ∧
      (right.createdAt < left.createdAt ∨
        (right.createdAt = left.createdAt ∧
          localeCompare right.delegationId left.delegationId ≤ 0)))

instance : DecidableRel (deeperFirst localeCompare) := fun left right => by
  unfold deeperFirst
  infer_instance

def cancellationOrder (store : DelegationStore) (parentRunId : String) : List DelegationRow :=
  ((listDescendantsOfRun store parentRunId).filter
    (fun row => row.status.active)).insertionSort (deeperFirst localeCompare)

variable {store : DelegationStore} {runId : String}

/-- Every run has a depth, and a delegation leads one level down to a run of its own. -/
structure DelegationForest (store : DelegationStore) : Prop where
  single : ∀ first ∈ store.delegations.rows, ∀ second ∈ store.delegations.rows,
    first.childRunId = second.childRunId → first = second
  leveled : ∃ depthOf : String → Nat, ∀ row ∈ store.delegations.rows,
    row.depth = depthOf row.parentRunId + 1 ∧ depthOf row.childRunId = row.depth

theorem forest_of_balanced (balanced : Balanced False store)
    (single : ∀ first ∈ store.delegations.rows, ∀ second ∈ store.delegations.rows,
      first.childRunId = second.childRunId → first = second) : DelegationForest store := by
  refine ⟨single, fun runId => ((store.envelopes.find runId).map EnvelopeRow.depth).getD 0, ?_⟩
  intro row rowIn
  obtain ⟨⟨parent, foundParent, below⟩, ⟨child, foundChild, same⟩⟩ := balanced.joined row rowIn
  dsimp only
  rw [foundParent, foundChild]
  exact ⟨below.symm, same⟩

theorem mem_directChildren {row : DelegationRow} (rowIn : row ∈ directChildren store runId) :
    row ∈ store.delegations.rows ∧ row.parentRunId = runId :=
  ⟨(List.mem_filter.mp rowIn).1, of_decide_eq_true (List.mem_filter.mp rowIn).2⟩

section

variable (forest : DelegationForest store)
include forest

theorem ranked_of_forest :
    Forest.Ranked (directChildren store) DelegationRow.childRunId DelegationRow.depth where
  deeper := by
    rintro parent child ⟨⟨node, parentIn⟩, childIn⟩
    obtain ⟨depthOf, leveled⟩ := forest.leveled
    obtain ⟨parentKnown, -⟩ := mem_directChildren parentIn
    obtain ⟨childKnown, isParent⟩ := mem_directChildren childIn
    rw [(leveled child childKnown).1, isParent, (leveled parent parentKnown).2]
  single := by
    rintro first second child ⟨⟨node, firstIn⟩, ofFirst⟩ ⟨⟨other, secondIn⟩, ofSecond⟩
    apply forest.single first (mem_directChildren firstIn).1 second (mem_directChildren secondIn).1
    exact (mem_directChildren ofFirst).2.symm.trans (mem_directChildren ofSecond).2
  distinct _ := (List.Nodup.of_map _ store.delegations.keysNodup).filter _

theorem listDescendants_nodup : (listDescendantsOfRun store runId).Nodup := by
  unfold listDescendantsOfRun
  rw [(List.perm_insertionSort _ _).nodup_iff]
  apply Forest.nodup_below (ranked_of_forest forest)
  intro first firstIn second secondIn
  obtain ⟨depthOf, leveled⟩ := forest.leveled
  obtain ⟨firstKnown, ofFirst⟩ := mem_directChildren firstIn
  obtain ⟨secondKnown, ofSecond⟩ := mem_directChildren secondIn
  rw [(leveled first firstKnown).1, (leveled second secondKnown).1, ofFirst, ofSecond]

/-- No delegation is deeper than sixteen, so sixteen levels reach every descendant. -/
theorem listDescendants_complete (row : DelegationRow) :
    row ∈ listDescendantsOfRun store runId ↔ Descends store runId row := by
  unfold listDescendantsOfRun
  rw [(List.perm_insertionSort _ _).mem_iff]
  apply Forest.mem_below_iff
    fun levels node => ∀ child ∈ directChildren store node, 17 ≤ levels + child.depth
  · intro node deep
    apply List.eq_nil_iff_forall_not_mem.mpr
    intro child childIn
    have bounded := child.depthBounded
    have below := deep child childIn
    omega
  · intro levels node edge deep edgeIn child childIn
    have below := deep edge edgeIn
    have next := (ranked_of_forest forest).deeper edge child ⟨⟨node, edgeIn⟩, childIn⟩
    omega
  · intro child _
    have bounded := child.depthBounded
    omega

theorem depth_lt_of_descends {row descendant : DelegationRow} (known : row ∈ store.delegations.rows)
    (descends : Descends store row.childRunId descendant) : row.depth < descendant.depth := by
  have isEdge : row ∈ directChildren store row.parentRunId :=
    List.mem_filter.mpr ⟨known, decide_eq_true rfl⟩
  have ranked := ranked_of_forest forest
  induction descends with
  | child edge edgeIn =>
    have next := ranked.deeper row edge ⟨⟨_, isEdge⟩, edgeIn⟩
    omega
  | under middle edge reaches edgeIn ih =>
    have middleIn : ∃ node, middle ∈ directChildren store node := by
      cases reaches with
      | child _ middleIn => exact ⟨_, middleIn⟩
      | under _ _ _ middleIn => exact ⟨_, middleIn⟩
    have next := ranked.deeper middle edge ⟨middleIn, edgeIn⟩
    omega

end

/-- The order lists the active descendants of a run once each, and no run of the list is
followed by one of its own descendants. -/
theorem cancellationOrder_complete (localeCompare : String → String → Int)
    (forest : DelegationForest store) (runId : String) :
    (∀ row, row ∈ cancellationOrder localeCompare store runId ↔
      Descends store runId row ∧ row.status.active = true) ∧
    (cancellationOrder localeCompare store runId).Nodup ∧
    (cancellationOrder localeCompare store runId).Pairwise
      (fun earlier later => ¬ Descends store earlier.childRunId later) := by
  have listed : ∀ row, row ∈ cancellationOrder localeCompare store runId ↔
      Descends store runId row ∧ row.status.active = true := by
    intro row
    unfold cancellationOrder
    rw [List.mem_insertionSort, List.mem_filter, listDescendants_complete forest]
  refine ⟨listed, ?_, ?_⟩
  · unfold cancellationOrder
    rw [(List.perm_insertionSort _ _).nodup_iff]
    exact (listDescendants_nodup forest).filter _
  have sorted : (cancellationOrder localeCompare store runId).Pairwise
      (fun earlier later => later.depth ≤ earlier.depth) := by
    apply pairwise_insertionSort_within
    · intro first second isBefore
      rcases isBefore with deeper | ⟨same, -⟩ <;> omega
    · intro first second isAfter
      by_contra shallower
      exact isAfter (Or.inl (by omega))
    · intro first second third upper lower
      exact le_trans lower upper
  refine sorted.imp_of_mem ?_
  intro earlier later earlierIn _ shallower descends
  have known : earlier ∈ store.delegations.rows := by
    cases ((listed earlier).mp earlierIn).1 with
    | child _ rowIn => exact (mem_directChildren rowIn).1
    | under _ _ _ rowIn => exact (mem_directChildren rowIn).1
  have deeper := depth_lt_of_descends forest known descends
  omega

def threeRuns : DelegationStore := (reach mainHost (delegatedOps ++ [grandchild])).delegations

theorem grandchild_cancelled_first :
    (cancellationOrder (fun _ _ => 0) threeRuns "r1").map DelegationRow.delegationId =
        ["d2", "d1"] ∧
      (cancellationOrder (fun _ _ => 0) threeRuns "r1").Nodup := by
  have single : ∀ first ∈ threeRuns.delegations.rows, ∀ second ∈ threeRuns.delegations.rows,
      first.childRunId = second.childRunId → first = second := by
    decide +kernel
  have forest := forest_of_balanced (reach_sound mainHost (delegatedOps ++ [grandchild])).2 single
  exact ⟨by decide +kernel, (cancellationOrder_complete (fun _ _ => 0) forest "r1").2.1⟩

end OpenRill.Runs.CancellationOrder
