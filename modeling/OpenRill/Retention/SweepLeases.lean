import OpenRill.Retention.Sweeps

/-!
# The lease of the sweeps

Every row is pruned by the coordinator that claimed the lease last, whatever the clocks of the
coordinators say: the lease is checked in the transaction of the prune, and a claim has a
token of its own.
-/

namespace OpenRill.Retention.SweepLeases

open OpenRill.Lib OpenRill.Lib.Runs
open Sweeps

def claimOf : SweepEvent → Option (String × String)
  | .claimed ownerId leaseToken _ => some (ownerId, leaseToken)
  | _ => none

/-- The owners and tokens that claimed the lease, in order. -/
def claims (log : List SweepEvent) : List (String × String) := log.filterMap claimOf

def lastClaim (log : List SweepEvent) : Option (String × String) := (claims log).getLast?

theorem claims_append_one (log : List SweepEvent) (event : SweepEvent) :
    claims (log ++ [event]) = claims log ++ (claimOf event).toList := by
  unfold claims
  cases found : claimOf event with
  | none => simp [found]
  | some claim => simp [found]

def PrunedByClaim (log : List SweepEvent) : Prop :=
  ∀ before ownerId leaseToken key deleted now after,
    log = before ++ .inspected ownerId leaseToken key deleted now :: after →
      lastClaim before = some (ownerId, leaseToken)

theorem prunedByClaim_append {log : List SweepEvent} {event : SweepEvent}
    (lawful : PrunedByClaim log)
    (last : ∀ ownerId leaseToken key deleted now,
      event = .inspected ownerId leaseToken key deleted now →
        lastClaim log = some (ownerId, leaseToken)) :
    PrunedByClaim (log ++ [event]) := by
  intro before ownerId leaseToken key deleted now after split
  rcases List.eq_nil_or_concat after with rfl | ⟨rest, other, rfl⟩
  · have same := List.append_inj' split rfl
    have isEvent : event = .inspected ownerId leaseToken key deleted now := by
      simpa using same.2
    rw [← same.1]
    exact last ownerId leaseToken key deleted now isEvent
  · have same : log = before ++ .inspected ownerId leaseToken key deleted now :: rest := by
      rw [List.concat_eq_append, ← List.cons_append, ← List.append_assoc] at split
      exact (List.append_inj' split rfl).1
    exact lawful before ownerId leaseToken key deleted now rest same

variable {ownerId leaseToken : String} {now leaseExpiresAt : Nat} {lease : Option LeaseRow}

/-- The lease is held by the last claim, and no two claims have one token. -/
structure Exclusive (ledger : RetentionLedger) : Prop where
  held : ∀ lease, ledger.lease = some lease →
    lastClaim ledger.log = some (lease.ownerId, lease.leaseToken)
  known : ∀ claim ∈ claims ledger.log, claim.2 ∈ ledger.tokens
  distinct : ((claims ledger.log).map Prod.snd).Nodup
  pruned : PrunedByClaim ledger.log

variable {setting : Setting} {ledger next : RetentionLedger}

section

variable (exclusive : Exclusive ledger)
include exclusive

theorem exclusive_of_same (log : next.log = ledger.log) (tokens : ledger.tokens ⊆ next.tokens)
    (lease : ∀ lease, next.lease = some lease → ∃ held, ledger.lease = some held ∧
      held.ownerId = lease.ownerId ∧ held.leaseToken = lease.leaseToken) : Exclusive next := by
  refine ⟨?_, ?_, ?_, ?_⟩
  · intro row found
    obtain ⟨held, isHeld, owner, token⟩ := lease row found
    rw [log, ← owner, ← token]
    exact exclusive.held held isHeld
  · rw [log]
    intro claim claimIn
    exact tokens (exclusive.known claim claimIn)
  · rw [log]
    exact exclusive.distinct
  · rw [log]
    exact exclusive.pruned

theorem exclusive_goTo (coordinator : Nat) (phase : Phase) :
    Exclusive (ledger.goTo coordinator phase) :=
  exclusive_of_same exclusive rfl (fun _ tokenIn => tokenIn)
    fun lease found => ⟨lease, found, rfl, rfl⟩

theorem exclusive_inspected {key : SweepKey} {deleted : Bool}
    (owns : ownsLease ledger.lease ownerId leaseToken now = true) (log : next.log =
      ledger.log ++ [.inspected ownerId leaseToken key deleted now])
    (lease : next.lease = ledger.lease) (tokens : next.tokens = ledger.tokens) :
    Exclusive next := by
  have same : claims next.log = claims ledger.log := by
    rw [log, claims_append_one]
    exact List.append_nil _
  refine ⟨?_, ?_, ?_, ?_⟩
  · rw [lease]
    unfold lastClaim
    rw [same]
    exact exclusive.held
  · rw [same, tokens]
    exact exclusive.known
  · rw [same]
    exact exclusive.distinct
  · rw [log]
    apply prunedByClaim_append exclusive.pruned
    intro otherOwner otherToken otherKey otherDeleted otherNow isEvent
    cases isEvent
    obtain ⟨held, isHeld, holds⟩ := (Option.any_eq_true _ _).mp owns
    have isOwner : held.ownerId = ownerId ∧ held.leaseToken = leaseToken := by
      have both := (Bool.and_eq_true _ _ ▸ holds : _ ∧ _).1
      exact of_decide_eq_true both
    rw [← isOwner.1, ← isOwner.2]
    exact exclusive.held held isHeld

theorem exclusive_claimed {lease : LeaseRow} (fresh : leaseToken ∉ ledger.tokens)
    (holds : lease.heldBy ownerId leaseToken = true)
    (log : next.log = ledger.log ++ [.claimed ownerId leaseToken now])
    (isLease : next.lease = some lease) (tokens : next.tokens = ledger.tokens ++ [leaseToken]) :
    Exclusive next := by
  have isOwner : lease.ownerId = ownerId ∧ lease.leaseToken = leaseToken := of_decide_eq_true holds
  have grown : claims next.log = claims ledger.log ++ [(ownerId, leaseToken)] := by
    rw [log, claims_append_one]
    rfl
  refine ⟨?_, ?_, ?_, ?_⟩
  · intro other isOther
    rw [isLease] at isOther
    cases isOther
    unfold lastClaim
    rw [grown, List.getLast?_concat, isOwner.1, isOwner.2]
  · rw [grown, tokens]
    intro claim claimIn
    rcases List.mem_append.mp claimIn with earlier | isLast
    · exact List.mem_append_left _ (exclusive.known claim earlier)
    · rw [List.mem_singleton.mp isLast]
      exact List.mem_append_right _ List.mem_cons_self
  · rw [grown, List.map_append, List.nodup_append]
    refine ⟨exclusive.distinct, by simp, ?_⟩
    intro first firstIn second secondIn same
    have isToken : second = leaseToken := by simpa using secondIn
    obtain ⟨claim, claimIn, rfl⟩ := List.mem_map.mp firstIn
    rw [isToken] at same
    exact fresh (same ▸ exclusive.known claim claimIn)
  · rw [log]
    apply prunedByClaim_append exclusive.pruned
    intro otherOwner otherToken otherKey otherDeleted otherNow isEvent
    contradiction

end

theorem upsertLease_busy
    (busy : ¬ (upsertLease lease ownerId leaseToken now leaseExpiresAt).heldBy ownerId leaseToken
      = true) : lease = some (upsertLease lease ownerId leaseToken now leaseExpiresAt) := by
  cases lease with
  | none => exact absurd (decide_eq_true ⟨rfl, rfl⟩) busy
  | some held =>
    unfold upsertLease at busy ⊢
    dsimp only at busy ⊢
    split at busy
    next => exact absurd (decide_eq_true ⟨rfl, rfl⟩) busy
    next current => rw [if_neg current]

theorem renewLease_holder {renewed : LeaseRow}
    (isRenewed : renewLease lease ownerId leaseToken now leaseExpiresAt = some renewed) :
    ∃ held, lease = some held ∧ held.ownerId = renewed.ownerId ∧
      held.leaseToken = renewed.leaseToken := by
  cases lease with
  | none => contradiction
  | some held =>
    unfold renewLease at isRenewed
    dsimp only at isRenewed
    split at isRenewed
    next =>
      cases isRenewed
      exact ⟨held, rfl, rfl, rfl⟩
    next => contradiction

theorem step_exclusive (op : SweepOp) (exclusive : Exclusive ledger) :
    Exclusive (step setting ledger op) := by
  have unchanged (coordinator : Nat) (phase : Phase) :=
    exclusive_goTo exclusive coordinator phase
  cases op with
  | sweepAll coordinator =>
    simp only [step]
    split
    next =>
      split
      next => exact unchanged _ _
      next => exact exclusive
    next => exact exclusive
  | prune coordinator limit after =>
    simp only [step]
    split
    next =>
      split
      next => exact unchanged _ _
      next => exact exclusive
    next => exact exclusive
  | claim coordinator leaseToken now =>
    simp only [step]
    split
    next caller limit after _ =>
      split
      next => exact exclusive
      next fresh =>
        split
        next holds =>
          exact exclusive_claimed exclusive fresh holds rfl rfl rfl
        next busy =>
          refine exclusive_of_same exclusive rfl
            (fun token tokenIn => List.mem_append_left _ tokenIn) ?_
          intro lease found
          refine ⟨lease, ?_, rfl, rfl⟩
          rw [← found]
          exact upsertLease_busy busy
    next => exact exclusive
  | schedule coordinator deadline =>
    simp only [step]
    split
    next =>
      exact exclusive_of_same exclusive rfl (fun _ tokenIn => tokenIn)
        fun lease found => ⟨lease, found, rfl, rfl⟩
    next => exact exclusive
  | list coordinator =>
    simp only [step]
    split
    next => exact unchanged _ _
    next => exact exclusive
  | turn coordinator now =>
    simp only [step]
    split
    next batch _ =>
      split
      next =>
        unfold beginTurn
        split
        next =>
          split
          next => exact unchanged _ _
          next renewed isRenewed =>
            refine exclusive_of_same exclusive rfl (fun _ tokenIn => tokenIn) ?_
            intro lease found
            cases found
            exact renewLease_holder isRenewed
        next => exact unchanged _ _
      next => exact exclusive
    next => exact exclusive
  | inspect coordinator lookups =>
    simp only [step]
    split
    next batch _ =>
      split
      next now candidate rest _ _ =>
        unfold inspectNext
        dsimp only
        split
        next owns =>
          split
          next => exact unchanged _ _
          next => exact exclusive_inspected exclusive owns rfl rfl rfl
        next => exact unchanged _ _
      next => exact exclusive
    next => exact exclusive
  | finish coordinator =>
    simp only [step]
    split
    next =>
      split
      next => exact unchanged _ _
      next => exact exclusive
    next => exact exclusive
  | release coordinator =>
    simp only [step]
    split
    next call result _ =>
      refine exclusive_of_same exclusive rfl (fun _ tokenIn => tokenIn) ?_
      intro lease found
      obtain ⟨held, -⟩ := Option.filter_eq_some_iff.mp found
      exact ⟨lease, held, rfl, rfl⟩
    next => exact exclusive
  | store coordinator now =>
    simp only [step]
    split
    next revision result _ =>
      split
      next =>
        have same : claims (ledger.log ++ [.swept coordinator result.state
            (advanceSweepState ledger.sweepState revision result.nextCursor now).2]) =
              claims ledger.log := by
          rw [claims_append_one]
          exact List.append_nil _
        refine ⟨?_, ?_, ?_, ?_⟩
        · unfold lastClaim
          change ∀ lease, ledger.lease = some lease → (claims (ledger.log ++ _)).getLast? = _
          rw [same]
          exact exclusive.held
        · change ∀ claim ∈ claims (ledger.log ++ _), claim.2 ∈ ledger.tokens
          rw [same]
          exact exclusive.known
        · change ((claims (ledger.log ++ _)).map Prod.snd).Nodup
          rw [same]
          exact exclusive.distinct
        · apply prunedByClaim_append exclusive.pruned
          intro otherOwner otherToken otherKey otherDeleted otherNow isEvent
          contradiction
      next => exact unchanged _ _
    next => exact exclusive
  | crash coordinator => exact unchanged _ _
  | others rows =>
    simp only [step]
    split
    next =>
      exact exclusive_of_same exclusive rfl (fun _ tokenIn => tokenIn)
        fun lease found => ⟨lease, found, rfl, rfl⟩
    next => exact exclusive

theorem initial_exclusive : Exclusive RetentionLedger.initial := by
  refine ⟨?_, ?_, List.nodup_nil, ?_⟩
  · intro lease found
    contradiction
  · intro claim claimIn
    contradiction
  · intro before ownerId leaseToken key deleted now after split
    have length := congrArg List.length split
    simp [RetentionLedger.initial] at length

theorem reach_exclusive (setting : Setting) (ops : List SweepOp) :
    Exclusive (reach setting ops) :=
  run_invariant (step setting) Exclusive (fun _ op kept => step_exclusive op kept) _ ops
    initial_exclusive

/-- Once another claim has succeeded, no row is pruned under the token of an earlier one. -/
def OldOwnersPruneNothing (log : List SweepEvent) : Prop :=
  ∀ before oldOwner oldToken oldNow between owner token now after,
    log = before ++ .claimed oldOwner oldToken oldNow ::
      (between ++ .claimed owner token now :: after) →
    ∀ pruner prunerToken key deleted pruneTime,
      .inspected pruner prunerToken key deleted pruneTime ∈ after → prunerToken ≠ oldToken

theorem exclusive_oldOwners (exclusive : Exclusive ledger) :
    OldOwnersPruneNothing ledger.log := by
  intro before oldOwner oldToken oldNow between owner token now after split pruner prunerToken
    key deleted pruneTime inspected same
  obtain ⟨earlier, later, isAfter⟩ := List.append_of_mem inspected
  obtain ⟨middle, isMiddle⟩ :
      ∃ middle, middle = between ++ .claimed owner token now :: earlier := ⟨_, rfl⟩
  have parts : ledger.log = before ++ .claimed oldOwner oldToken oldNow :: middle ++
      .inspected pruner prunerToken key deleted pruneTime :: later := by
    rw [split, isAfter, isMiddle]
    simp
  have last := exclusive.pruned _ _ _ _ _ _ _ parts
  have split_claims : claims (before ++ .claimed oldOwner oldToken oldNow :: middle) =
      claims before ++ (oldOwner, oldToken) :: claims middle := by
    simp [claims, claimOf]
  have some_middle : claims middle ≠ [] := by
    rw [isMiddle]
    simp [claims, claimOf]
  have isLast : (pruner, prunerToken) ∈ claims middle := by
    unfold lastClaim at last
    rw [split_claims, List.getLast?_append_of_ne_nil _ (by simp),
      List.getLast?_cons_of_ne_nil some_middle] at last
    exact List.mem_of_getLast? last
  have distinct := exclusive.distinct
  have whole : claims ledger.log = claims before ++ (oldOwner, oldToken) ::
      (claims middle ++ claims (.inspected pruner prunerToken key deleted pruneTime :: later)) := by
    rw [parts]
    simp [claims, claimOf]
  rw [whole, List.map_append, List.map_cons, List.map_append] at distinct
  have tail := (List.nodup_append.mp distinct).2.1
  have inMiddle : prunerToken ∈ (claims middle).map Prod.snd :=
    List.mem_map.mpr ⟨(pruner, prunerToken), isLast, rfl⟩
  apply (List.nodup_cons.mp tail).1
  rw [← same]
  exact List.mem_append_left _ inMiddle

end OpenRill.Retention.SweepLeases
