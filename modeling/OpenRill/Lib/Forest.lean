import Mathlib.Algebra.BigOperators.Group.List.Basic
import Mathlib.Data.List.Nodup
import Mathlib.Logic.Relation

/-!
# Sums over a forest

A forest is given by the edges that leave a node and the node an edge leads to.
`below` collects the edges of a number of levels. An amount that every node
gathers from its children, their own amounts with what they gathered, is the sum
of the own amounts over all edges below. Where nothing lies deeper than the levels
that are collected, these are the edges of all paths from the node.
-/

namespace OpenRill.Lib.Forest

universe u v w

variable {Node : Type u} {Edge : Type v} (children : Node → List Edge) (target : Edge → Node)
variable {node : Node} {edge : Edge}

/-- The edges of `levels` levels below a node, each before those below it. -/
def below : Nat → Node → List Edge
  | 0, _ => []
  | levels + 1, node =>
    (children node).flatMap (fun edge => edge :: below levels (target edge))

inductive Reaches (node : Node) : Edge → Prop
  | child (edge : Edge) (edgeIn : edge ∈ children node) : Reaches node edge
  | under (middle edge : Edge) (reaches : Reaches node middle)
      (edgeIn : edge ∈ children (target middle)) : Reaches node edge

variable {children target}

theorem Reaches.trans {first : Edge} (reachesFirst : Reaches children target node first)
    (reaches : Reaches children target (target first) edge) :
    Reaches children target node edge := by
  induction reaches with
  | child edge edgeIn => exact Reaches.under first edge reachesFirst edgeIn
  | under middle edge _ edgeIn ih => exact Reaches.under middle edge ih edgeIn

theorem Reaches.first (reaches : Reaches children target node edge) :
    edge ∈ children node ∨
      ∃ first ∈ children node, Reaches children target (target first) edge := by
  induction reaches with
  | child edge edgeIn => exact Or.inl edgeIn
  | under middle edge _ edgeIn ih =>
    rcases ih with middleIn | ⟨first, firstIn, rest⟩
    · exact Or.inr ⟨middle, middleIn, Reaches.child edge edgeIn⟩
    · exact Or.inr ⟨first, firstIn, Reaches.under middle edge rest edgeIn⟩

/-- `deep levels node` says that nothing lies further below the node than
`levels`. -/
theorem mem_below_iff (deep : Nat → Node → Prop)
    (bottom : ∀ node, deep 0 node → children node = [])
    (deeper : ∀ levels node edge, deep (levels + 1) node → edge ∈ children node →
      deep levels (target edge))
    (levels : Nat) (node : Node) (isDeep : deep levels node) (edge : Edge) :
    edge ∈ below children target levels node ↔ Reaches children target node edge := by
  induction levels generalizing node with
  | zero =>
    have childless : children node = [] := bottom node isDeep
    constructor
    · intro inNothing
      cases inNothing
    intro reaches
    rcases reaches.first with edgeIn | ⟨first, firstIn, -⟩
    · rw [childless] at edgeIn
      cases edgeIn
    · rw [childless] at firstIn
      cases firstIn
  | succ levels ih =>
    constructor
    · intro edgeIn
      obtain ⟨first, firstIn, inFirst⟩ := List.mem_flatMap.mp edgeIn
      rcases List.mem_cons.mp inFirst with isFirst | inRest
      · rw [isFirst]
        exact Reaches.child first firstIn
      · have rest := (ih (target first) (deeper levels node first isDeep firstIn)).mp inRest
        exact (Reaches.child first firstIn).trans rest
    · intro reaches
      apply List.mem_flatMap.mpr
      rcases reaches.first with edgeIn | ⟨first, firstIn, rest⟩
      · exact ⟨edge, edgeIn, List.mem_cons_self⟩
      · have inRest := (ih (target first) (deeper levels node first isDeep firstIn)).mpr rest
        exact ⟨first, firstIn, List.mem_cons_of_mem first inRest⟩

variable {rank : Edge → Nat}

/-- An edge of the forest is followed by the edges that leave its target. -/
def Follows (children : Node → List Edge) (target : Edge → Node) (parent child : Edge) : Prop :=
  (∃ node, parent ∈ children node) ∧ child ∈ children (target parent)

theorem follows_of_below {levels : Nat} (edgeIn : edge ∈ below children target levels node) :
    ∃ first ∈ children node, Relation.ReflTransGen (Follows children target) first edge := by
  induction levels generalizing node with
  | zero => cases edgeIn
  | succ levels ih =>
    obtain ⟨first, firstIn, inFirst⟩ := List.mem_flatMap.mp edgeIn
    rcases List.mem_cons.mp inFirst with isFirst | inRest
    · rw [isFirst]
      exact ⟨first, firstIn, Relation.ReflTransGen.refl⟩
    · obtain ⟨second, secondIn, follows⟩ := ih inRest
      exact ⟨first, firstIn, Relation.ReflTransGen.head ⟨⟨node, firstIn⟩, secondIn⟩ follows⟩

/-- Edges are ranked by their level, and each follows at most one edge. -/
structure Ranked (children : Node → List Edge) (target : Edge → Node) (rank : Edge → Nat) :
    Prop where
  deeper : ∀ parent child, Follows children target parent child → rank child = rank parent + 1
  single : ∀ first second child, Follows children target first child →
    Follows children target second child → first = second
  distinct : ∀ node, (children node).Nodup

section

variable (ranked : Ranked children target rank)
include ranked

theorem rank_le_of_follows {first last : Edge}
    (follows : Relation.ReflTransGen (Follows children target) first last) :
    rank first ≤ rank last := by
  induction follows with
  | refl => exact Nat.le_refl _
  | tail _ step ih =>
    have next := ranked.deeper _ _ step
    omega

/-- Two edges of one rank have no edge in common below them. -/
theorem same_branch {first second last : Edge} (level : rank first = rank second)
    (fromFirst : Relation.ReflTransGen (Follows children target) first last)
    (fromSecond : Relation.ReflTransGen (Follows children target) second last) :
    first = second := by
  induction fromFirst with
  | refl =>
    rcases fromSecond.cases_tail with same | ⟨middle, toMiddle, step⟩
    · exact same
    · have shallower := rank_le_of_follows ranked toMiddle
      have next := ranked.deeper middle first step
      omega
  | tail toMiddle step ih =>
    rcases fromSecond.cases_tail with same | ⟨other, toOther, stepOther⟩
    · rw [same] at step
      have shallower := rank_le_of_follows ranked toMiddle
      have next := ranked.deeper _ second step
      omega
    · rw [ranked.single _ _ _ stepOther step] at toOther
      exact ih toOther

theorem nodup_below (levels : Nat) (node : Node)
    (level : ∀ first ∈ children node, ∀ second ∈ children node, rank first = rank second) :
    (below children target levels node).Nodup := by
  induction levels generalizing node with
  | zero => exact List.nodup_nil
  | succ levels ih =>
    refine List.nodup_flatMap.mpr ⟨?_, ?_⟩
    · intro first firstIn
      refine List.nodup_cons.mpr ⟨?_, ih (target first) ?_⟩
      · intro again
        obtain ⟨second, secondIn, follows⟩ := follows_of_below again
        have shallower := rank_le_of_follows ranked follows
        have next := ranked.deeper first second ⟨⟨node, firstIn⟩, secondIn⟩
        omega
      · intro second secondIn third thirdIn
        rw [ranked.deeper first second ⟨⟨node, firstIn⟩, secondIn⟩,
          ranked.deeper first third ⟨⟨node, firstIn⟩, thirdIn⟩]
    · have onBranch : ∀ first ∈ children node, ∀ edge,
          edge ∈ first :: below children target levels (target first) →
          Relation.ReflTransGen (Follows children target) first edge := by
        intro first firstIn edge edgeIn
        rcases List.mem_cons.mp edgeIn with isFirst | inRest
        · rw [isFirst]
        · obtain ⟨second, secondIn, follows⟩ := follows_of_below inRest
          exact Relation.ReflTransGen.head ⟨⟨node, firstIn⟩, secondIn⟩ follows
      refine (ranked.distinct node).imp_of_mem ?_
      intro first second firstIn secondIn different edge inFirst inSecond
      exact different (same_branch ranked (level first firstIn second secondIn)
        (onBranch first firstIn edge inFirst) (onBranch second secondIn edge inSecond))

end

variable (children target) {Amount : Type w} [AddCommMonoid Amount]

theorem sum_flatMap {Item : Type v} {Result : Type v} (items : List Item)
    {expand : Item → List Result} {amount : Result → Amount} :
    ((items.flatMap expand).map amount).sum =
      (items.map (fun item => ((expand item).map amount).sum)).sum := by
  induction items with
  | nil => rfl
  | cons item rest ih => simp [ih]

/-- `deep levels node` says that nothing lies further below the node than
`levels`, and `settled` which edges carry what their target gathered. -/
theorem gathered_eq_sum_below (own gathered : Node → Amount) (deep : Nat → Node → Prop)
    (settled : Edge → Prop)
    (bottom : ∀ node, deep 0 node → gathered node = 0)
    (deeper : ∀ levels node edge, deep (levels + 1) node → edge ∈ children node →
      deep levels (target edge))
    (gathers : ∀ levels node, deep levels node → (∀ edge ∈ children node, settled edge) →
      gathered node =
        ((children node).map (fun edge => own (target edge) + gathered (target edge))).sum)
    (levels : Nat) (node : Node) (isDeep : deep levels node)
    (allSettled : ∀ edge ∈ below children target levels node, settled edge) :
    gathered node =
      ((below children target levels node).map (fun edge => own (target edge))).sum := by
  induction levels generalizing node with
  | zero => exact bottom node isDeep
  | succ levels ih =>
    have direct : ∀ edge ∈ children node, settled edge := by
      intro edge edgeIn
      apply allSettled edge
      exact List.mem_flatMap.mpr ⟨edge, edgeIn, by simp⟩
    have rest : ∀ edge ∈ children node,
        gathered (target edge) =
          ((below children target levels (target edge)).map
            fun other => own (target other)).sum := by
      intro edge edgeIn
      apply ih (target edge) (deeper levels node edge isDeep edgeIn)
      intro other otherIn
      apply allSettled other
      exact List.mem_flatMap.mpr ⟨edge, edgeIn, List.mem_cons_of_mem edge otherIn⟩
    calc
      gathered node =
          ((children node).map fun edge => own (target edge) + gathered (target edge)).sum :=
        gathers (levels + 1) node isDeep direct
      _ = ((children node).map fun edge =>
            ((edge :: below children target levels (target edge)).map
              fun other => own (target other)).sum).sum := by
        congr 1
        apply List.map_congr_left
        intro edge edgeIn
        rw [rest edge edgeIn, List.map_cons, List.sum_cons]
      _ = ((below children target (levels + 1) node).map fun edge => own (target edge)).sum :=
        (sum_flatMap (children node)).symm

end OpenRill.Lib.Forest
