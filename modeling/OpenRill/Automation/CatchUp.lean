import OpenRill.Automation.NextOccurrence
import Mathlib.Data.Set.Card

/-!
# The catch-up plan

What `startupPlan` makes of an overdue job: the first missed occurrences that the policy
lets it take, and a cursor at the least occurrence after the start. It throws only where no
next occurrence can be computed.
-/

namespace OpenRill.Automation.CatchUp

open Lib.Checked Schedule NextOccurrence

variable {parts : String → Nat → ZonedParts} {definition : JobDefinition} {now limit first : Nat}
variable {cursor : Option Nat} {walked : List Nat × Option Nat}

section Specification

variable (parts : String → Nat → ZonedParts) (definition : JobDefinition)

def LaterOf (after : Nat) : Set Nat :=
  Later parts definition.schedule definition.timezone after

/-- The occurrences from the cursor on that are not after `now`. -/
def Missed (now : Nat) : Option Nat → Set Nat
  | none => ∅
  | some first =>
    { instant | instant ≤ now ∧ (instant = first ∨ instant ∈ LaterOf parts definition first) }

def Taken (first now : Nat) (plan : WakePlan) : CatchUpPolicy → Prop
  | .skip => plan.pending = [] ∧ plan.skipped = [first] ∧ plan.lastScheduledFor = some first
  | .runOnce => plan.pending = [first] ∧ plan.skipped = []
  | .bounded limit => plan.skipped = [] ∧
    plan.pending.length = min limit (Missed parts definition now (some first)).ncard ∧
    ∀ taken ∈ plan.pending, ∀ instant ∈ Missed parts definition now (some first),
      instant < taken → instant ∈ plan.pending

structure CaughtUp (first now : Nat) (plan : WakePlan) : Prop where
  increasing : plan.pending.Pairwise (· < ·)
  missed : ∀ instant ∈ plan.instants, instant ∈ Missed parts definition now (some first)
  taken : Taken parts definition first now plan definition.catchUpPolicy
  next : ∀ next, plan.nextScheduledFor = some next → IsLeast (LaterOf parts definition now) next
  exhausted : plan.nextScheduledFor = none → LaterOf parts definition now = ∅

def NoFuture (instant : Nat) : Prop :=
  ∀ later ∈ LaterOf parts definition instant, horizon instant definition.schedule < later

/-- The plan of a start at `now`, or the error of an instant that has no future. -/
def PlanExact (cursor : Option Nat) (now : Nat) : Prop :=
  match cursor, startupPlan (zonesOf parts) definition cursor now with
  | some first, .ok plan =>
    if first ≤ now then CaughtUp parts definition first now plan
    else plan.instants = [] ∧ plan.nextScheduledFor = cursor
  | none, .ok plan => plan.instants = [] ∧ plan.nextScheduledFor = none
  | some first, .error _ => first ≤ now ∧ ∃ instant ≤ now, NoFuture parts definition instant
  | none, .error _ => False

end Specification

variable {after earlier next : Nat}

theorem later_subset (before : earlier ≤ after) :
    LaterOf parts definition after ⊆ LaterOf parts definition earlier :=
  fun _ member => ⟨Nat.lt_of_le_of_lt before member.1, member.2⟩

theorem nextAfter_exact (parts : String → Nat → ZonedParts)
    (normalized : Normalized definition.schedule) (safe : after ≤ maxSafeInteger) :
    match nextAfter (zonesOf parts) definition after with
    | .ok (some next) => IsLeast (LaterOf parts definition after) next
    | .ok none => LaterOf parts definition after = ∅
    | .error _ => NoFuture parts definition after := by
  have exactly := next_exact parts normalized definition.timezone after
  unfold NextExact at exactly
  unfold nextAfter
  cases isNext : computeNextScheduledFor (zonesOf parts) definition.schedule definition.timezone
      after with
  | error failure =>
    rw [isNext] at exactly
    exact exactly.resolve_left (Nat.not_lt.mpr safe)
  | ok found =>
    rw [isNext] at exactly
    cases found with
    | none => exact exactly
    | some result => exact exactly.1

def Stands (parts : String → Nat → ZonedParts) (definition : JobDefinition) (now : Nat) :
    Option Nat → Prop
  | none => LaterOf parts definition now = ∅
  | some cursor => cursor ≤ now ∨ IsLeast (LaterOf parts definition now) cursor

theorem least_of_earlier (before : earlier ≤ now) (future : now < next)
    (least : IsLeast (LaterOf parts definition earlier) next) :
    IsLeast (LaterOf parts definition now) next :=
  ⟨⟨future, least.1.2⟩, fun _ member => least.2 (later_subset before member)⟩

theorem stands_some (before : earlier ≤ now)
    (least : IsLeast (LaterOf parts definition earlier) next) :
    Stands parts definition now (some next) := by
  rcases Nat.lt_or_ge now next with future | overdue
  · exact Or.inr (least_of_earlier before future least)
  · exact Or.inl overdue

theorem stands_none (before : earlier ≤ now)
    (nothing : LaterOf parts definition earlier = ∅) : Stands parts definition now none :=
  Set.subset_eq_empty (later_subset before) nothing

theorem missed_next (now : Nat)
    (least : ∀ next, cursor = some next → IsLeast (LaterOf parts definition earlier) next)
    (nothing : cursor = none → LaterOf parts definition earlier = ∅) (instant : Nat) :
    instant ∈ Missed parts definition now cursor ↔
      instant ≤ now ∧ instant ∈ LaterOf parts definition earlier := by
  cases cursor with
  | none => simp [Missed, nothing rfl]
  | some next =>
    obtain ⟨member, lower⟩ := least next rfl
    constructor
    · rintro ⟨within, rfl | later⟩
      · exact ⟨within, member⟩
      · exact ⟨within, later_subset (Nat.le_of_lt member.1) later⟩
    · rintro ⟨within, later⟩
      refine ⟨within, ?_⟩
      rcases Nat.eq_or_lt_of_le (lower later) with same | after
      · exact Or.inl same.symm
      · exact Or.inr ⟨after, later.2⟩

/-- What the loop of the bounded policy takes from a cursor, and where it leaves it. -/
structure Walked (parts : String → Nat → ZonedParts) (definition : JobDefinition) (now limit : Nat)
    (cursor : Option Nat) (walked : List Nat × Option Nat) : Prop where
  increasing : walked.1.Pairwise (· < ·)
  split : ∀ instant, instant ∈ Missed parts definition now cursor ↔
    instant ∈ walked.1 ∨ instant ∈ Missed parts definition now walked.2
  before : ∀ taken ∈ walked.1, ∀ instant ∈ Missed parts definition now walked.2, taken < instant
  bounded : walked.1.length ≤ limit
  full : walked.1.length = limit ∨ Missed parts definition now walked.2 = ∅
  stands : Stands parts definition now walked.2

theorem walked_nothing (stands : Stands parts definition now cursor)
    (done : limit = 0 ∨ Missed parts definition now cursor = ∅) :
    Walked parts definition now limit cursor ([], cursor) where
  increasing := List.Pairwise.nil
  split := by simp
  before := by simp
  bounded := Nat.zero_le limit
  full := done.imp_left Eq.symm
  stands := stands

theorem walked_cons {next : Option Nat} {rest : List Nat × Option Nat} (overdue : first ≤ now)
    (least : ∀ instant, next = some instant → IsLeast (LaterOf parts definition first) instant)
    (nothing : next = none → LaterOf parts definition first = ∅)
    (walked : Walked parts definition now limit next rest) :
    Walked parts definition now (limit + 1) (some first) (first :: rest.1, rest.2) := by
  have later : ∀ instant ∈ Missed parts definition now next, first < instant :=
    fun instant member => ((missed_next now least nothing instant).mp member).2.1
  constructor
  · refine List.Pairwise.cons (fun instant member => ?_) walked.increasing
    exact later instant ((walked.split instant).mpr (Or.inl member))
  · intro instant
    have isNext := (missed_next now least nothing instant).symm.trans (walked.split instant)
    rw [List.mem_cons, or_assoc, ← isNext]
    constructor
    · rintro ⟨within, rfl | member⟩
      · exact Or.inl rfl
      · exact Or.inr ⟨within, member⟩
    · rintro (rfl | ⟨within, member⟩)
      · exact ⟨overdue, Or.inl rfl⟩
      · exact ⟨within, Or.inr member⟩
  · intro taken takenIn instant member
    rcases List.mem_cons.mp takenIn with rfl | inRest
    · exact later instant ((walked.split instant).mpr (Or.inr member))
    · exact walked.before taken inRest instant member
  · exact Nat.succ_le_succ walked.bounded
  · exact walked.full.imp_left (congrArg Nat.succ)
  · exact walked.stands

theorem boundedPending_walks (parts : String → Nat → ZonedParts)
    (normalized : Normalized definition.schedule) (safe : now ≤ maxSafeInteger) (limit : Nat)
    (cursor : Option Nat) (stands : Stands parts definition now cursor) :
    match boundedPending (zonesOf parts) definition now limit cursor with
    | .ok walked => Walked parts definition now limit cursor walked
    | .error _ => ∃ instant ≤ now, NoFuture parts definition instant := by
  induction limit generalizing cursor with
  | zero => exact walked_nothing stands (Or.inl rfl)
  | succ limit ih =>
    cases cursor with
    | none => exact walked_nothing stands (Or.inr rfl)
    | some first =>
      unfold boundedPending
      by_cases overdue : first ≤ now
      · rw [if_pos overdue]
        have exactly := nextAfter_exact parts normalized (overdue.trans safe)
        cases isNext : nextAfter (zonesOf parts) definition first with
        | error failure =>
          rw [isNext] at exactly
          exact ⟨first, overdue, exactly⟩
        | ok next =>
          rw [isNext] at exactly
          have least : ∀ instant, next = some instant →
              IsLeast (LaterOf parts definition first) instant := by
            rintro instant rfl
            exact exactly
          have nothing : next = none → LaterOf parts definition first = ∅ := by
            rintro rfl
            exact exactly
          have standsNext : Stands parts definition now next := by
            cases next with
            | none => exact stands_none overdue (nothing rfl)
            | some instant => exact stands_some overdue (least instant rfl)
          have rest := ih next standsNext
          simp only [bind, Except.bind]
          cases isRest : boundedPending (zonesOf parts) definition now limit next with
          | error failure =>
            rw [isRest] at rest
            exact rest
          | ok walked =>
            rw [isRest] at rest
            exact walked_cons overdue least nothing rest
      · rw [if_neg overdue]
        refine walked_nothing stands (Or.inr ?_)
        rw [Set.eq_empty_iff_forall_notMem]
        rintro instant ⟨within, rfl | later⟩
        · exact overdue within
        · exact overdue (Nat.le_of_lt (Nat.lt_of_lt_of_le later.1 within))

theorem missed_finite (cursor : Option Nat) : (Missed parts definition now cursor).Finite := by
  refine (Finset.range (now + 1)).finite_toSet.subset fun instant member => ?_
  rw [Finset.mem_coe, Finset.mem_range]
  cases cursor with
  | none => exact absurd member (Set.notMem_empty instant)
  | some first => exact Nat.lt_succ_of_le member.1

theorem Walked.length_eq (walk : Walked parts definition now limit cursor walked) :
    walked.1.length = min limit (Missed parts definition now cursor).ncard := by
  have distinct : walked.1.Nodup := walk.increasing.imp fun less => Nat.ne_of_lt less
  have counted : (walked.1.toFinset : Set Nat).ncard = walked.1.length := by
    rw [Set.ncard_coe_finset, List.toFinset_card_of_nodup distinct]
  have subset : (walked.1.toFinset : Set Nat) ⊆ Missed parts definition now cursor := by
    intro instant member
    exact (walk.split instant).mpr (Or.inl (by simpa using member))
  have most := Set.ncard_le_ncard subset (missed_finite cursor)
  have within := walk.bounded
  rcases walk.full with isFull | isEmpty
  · omega
  have same : Missed parts definition now cursor = (walked.1.toFinset : Set Nat) := by
    ext instant
    rw [walk.split, isEmpty]
    simp
  rw [same, counted]
  omega

variable {plan : WakePlan}

theorem caughtUp_single (overdue : first ≤ now) (instants : plan.instants = [first])
    (pending : plan.pending.Pairwise (· < ·))
    (taken : Taken parts definition first now plan definition.catchUpPolicy)
    (stands : match plan.nextScheduledFor with
      | some next => IsLeast (LaterOf parts definition now) next
      | none => LaterOf parts definition now = ∅) : CaughtUp parts definition first now plan where
  increasing := pending
  missed := by
    rw [instants]
    intro instant member
    rw [List.mem_singleton.mp member]
    exact ⟨overdue, Or.inl rfl⟩
  taken := taken
  next := by
    intro next isNext
    rw [isNext] at stands
    exact stands
  exhausted := by
    intro isNone
    rw [isNone] at stands
    exact stands

theorem caughtUp_bounded (policy : definition.catchUpPolicy = .bounded limit)
    (walk : Walked parts definition now limit (some first) walked)
    (pending : plan.pending = walked.1) (skipped : plan.skipped = [])
    (next : ∀ next, plan.nextScheduledFor = some next → IsLeast (LaterOf parts definition now) next)
    (exhausted : plan.nextScheduledFor = none → LaterOf parts definition now = ∅) :
    CaughtUp parts definition first now plan where
  increasing := by
    rw [pending]
    exact walk.increasing
  missed := by
    intro instant member
    rw [WakePlan.instants, pending, skipped, List.append_nil] at member
    exact (walk.split instant).mpr (Or.inl member)
  taken := by
    rw [policy]
    refine ⟨skipped, ?_, ?_⟩
    · rw [pending]
      exact walk.length_eq
    · rw [pending]
      intro taken takenIn instant member earlier
      rcases (walk.split instant).mp member with inWalk | left
      · exact inWalk
      · exact absurd (walk.before taken takenIn instant left) (Nat.lt_asymm earlier)
  next := next
  exhausted := exhausted

theorem overdue_exact (parts : String → Nat → ZonedParts)
    (normalized : Normalized definition.schedule) (safe : now ≤ maxSafeInteger)
    (overdue : first ≤ now) :
    match startupPlan (zonesOf parts) definition (some first) now with
    | .ok plan => CaughtUp parts definition first now plan
    | .error _ => ∃ instant ≤ now, NoFuture parts definition instant := by
  have exactly := nextAfter_exact parts normalized safe
  unfold startupPlan
  simp only [Nat.not_lt.mpr overdue, if_false]
  cases policy : definition.catchUpPolicy with
  | skip =>
    cases isNext : nextAfter (zonesOf parts) definition now with
    | error failure =>
      rw [isNext] at exactly
      exact ⟨now, Nat.le_refl now, exactly⟩
    | ok next =>
      rw [isNext] at exactly
      refine caughtUp_single overdue rfl List.Pairwise.nil ?_ ?_
      · rw [policy]
        exact ⟨rfl, rfl, rfl⟩
      · cases next <;> exact exactly
  | runOnce =>
    cases isNext : nextAfter (zonesOf parts) definition now with
    | error failure =>
      rw [isNext] at exactly
      exact ⟨now, Nat.le_refl now, exactly⟩
    | ok next =>
      rw [isNext] at exactly
      refine caughtUp_single overdue rfl (List.pairwise_singleton _ _) ?_ ?_
      · rw [policy]
        exact ⟨rfl, rfl⟩
      · cases next <;> exact exactly
  | bounded limit =>
    have walks := boundedPending_walks parts normalized safe limit (some first) (Or.inl overdue)
    simp only [bind, Except.bind]
    cases isWalk : boundedPending (zonesOf parts) definition now limit (some first) with
    | error failure =>
      rw [isWalk] at walks
      exact walks
    | ok walked =>
      rw [isWalk] at walks
      have stands := walks.stands
      by_cases behind : walked.2.any (fun cursor => decide (cursor ≤ now)) = true
      · simp only [behind, if_true]
        cases isNext : nextAfter (zonesOf parts) definition now with
        | error failure =>
          rw [isNext] at exactly
          exact ⟨now, Nat.le_refl now, exactly⟩
        | ok next =>
          rw [isNext] at exactly
          refine caughtUp_bounded policy walks rfl rfl ?_ ?_
          · rintro instant rfl
            exact exactly
          · rintro rfl
            exact exactly
      · simp only [behind, if_false, Bool.false_eq_true]
        refine caughtUp_bounded policy walks rfl rfl ?_ ?_
        · intro instant isCursor
          replace isCursor : walked.2 = some instant := isCursor
          rw [isCursor] at stands behind
          exact stands.resolve_left fun within => behind (by simpa using within)
        · intro isCursor
          replace isCursor : walked.2 = none := isCursor
          rw [isCursor] at stands
          exact stands

def everyYear (policy : CatchUpPolicy) : JobDefinition where
  schedule := .interval 31536000000 0
  timezone := "UTC"
  catchUpPolicy := policy

end OpenRill.Automation.CatchUp
