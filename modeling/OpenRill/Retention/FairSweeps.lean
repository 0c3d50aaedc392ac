import OpenRill.Retention.SweepLeases
import OpenRill.Retention.SweepPages

/-!
# Fair sweeps

A sweep whose cursor the sweep state takes is a sweep of the keyset library: it began at the
cursor that stood there, and what lies between the two cursors was inspected. Sweeps that
overlap read the same cursor, and of those one is taken. So all candidates are inspected
within one taken sweep for each page, and one more.
-/

namespace OpenRill.Retention.FairSweeps

open OpenRill.Lib OpenRill.Lib.Runs OpenRill.Lib.KeysetSweeps
open OpenRill.Retention.Deliveries OpenRill.Retention.Sweeps OpenRill.Retention.SweepPages
open SweepLeases

variable {events : List SweepEvent} {members : Finset SweepKey} {size coordinator now goal : Nat}
variable {phase : Phase} {setting : Setting} {ledger next : RetentionLedger} {key : SweepKey}
variable {batch : Batch} {seen : SweepKey → Prop} {cursor : Option SweepKey}
variable {rows : Table LedgerRow.entityKey} {candidate : CandidateRow} {revision : Option Nat}

def entityOf (key : SweepKey) : Lex (String × String) := (ofLex key).2

def inspects (key : SweepKey) : SweepEvent → Bool
  | .inspected _ _ other _ _ => decide (entityOf other = entityOf key)
  | _ => false

def Inspected (events : List SweepEvent) (key : SweepKey) : Prop :=
  ∃ event ∈ events, inspects key event = true

instance (events : List SweepEvent) (key : SweepKey) : Decidable (Inspected events key) :=
  inferInstanceAs (Decidable (∃ event ∈ events, inspects key event = true))

def taken : SweepEvent → Bool
  | .swept _ .completed stored => stored
  | _ => false

def takenSweeps (events : List SweepEvent) : Nat := events.countP taken

theorem inspected_append (inspected : Inspected events key) (more : List SweepEvent) :
    Inspected (events ++ more) key := by
  obtain ⟨event, eventIn, isInspected⟩ := inspected
  exact ⟨event, List.mem_append_left more eventIn, isInspected⟩

section Calls

variable {next : Option SweepKey}

def cursorKey (state : Option SweepStateRow) : Option SweepKey :=
  (state.bind SweepStateRow.cursor).map RetentionCursor.key

def stateRevision (state : Option SweepStateRow) : Nat :=
  (state.map SweepStateRow.revision).getD 0

def expected : Caller → Option (Option Nat)
  | .sweep revision => some revision
  | .operator => none

/-- The revision with which a coordinator will store its cursor. -/
def expectation : Phase → Option (Option Nat)
  | .idle => none
  | .called caller _ _ => expected caller
  | .leased call _ => expected call.caller
  | .scheduled call _ => expected call.caller
  | .pruning batch => expected batch.call.caller
  | .closing call _ => expected call.caller
  | .storing revision _ => some revision

/-- The loop of a sweep: what it has processed was inspected, and what it has not is still to
come, or comes after a full page. -/
structure Looping (members : Finset SweepKey) (seen : SweepKey → Prop)
    (cursor : Option SweepKey) (batch : Batch) : Prop where
  page : ∃ done : List CandidateRow,
    batch.lastProcessed = done.getLast? ∧
    batch.listed = (done ++ batch.candidates).length ∧
    (done ++ batch.candidates).Pairwise (fun first second => first.key < second.key) ∧
    (∀ candidate ∈ done ++ batch.candidates, After cursor candidate.key ∧ candidate.key ∈ members) ∧
    (∀ candidate ∈ done, seen candidate.key) ∧
    (∀ key ∈ members, After cursor key → seen key ∨
      (∃ candidate ∈ batch.candidates, candidate.key = key) ∨
      (batch.listed = batch.call.limit ∧
        ∀ candidate ∈ done ++ batch.candidates, candidate.key < key))

def Moved (members : Finset SweepKey) (size : Nat) (seen : SweepKey → Prop)
    (cursor : Option SweepKey) (result : BatchResult) : Prop :=
  match result.state with
  | .completed =>
    KeysetSweeps.Sweeps members size seen cursor (result.nextCursor.map RetentionCursor.key)
  | .leaseLost => Breaks members seen cursor (result.nextCursor.map RetentionCursor.key)

/-- A sweep that can still store its cursor goes on where the sweep state stands. -/
def Continues (members : Finset SweepKey) (size : Nat) (seen : SweepKey → Prop)
    (cursor : Option SweepKey) : Phase → Prop
  | .idle => True
  | .called _ limit after => size ≤ limit ∧ after.map RetentionCursor.key = cursor
  | .leased call _ => size ≤ call.limit ∧ call.after.map RetentionCursor.key = cursor
  | .scheduled call _ => size ≤ call.limit ∧ call.after.map RetentionCursor.key = cursor
  | .pruning batch =>
    size ≤ batch.call.limit ∧ batch.call.after.map RetentionCursor.key = cursor ∧
      Looping members seen cursor batch
  | .closing _ none => True
  | .closing _ (some result) => Moved members size seen cursor result
  | .storing _ result => Moved members size seen cursor result

variable {more : SweepKey → Prop}

theorem sweeps_mono (grown : ∀ key, seen key → more key)
    (sweeps : KeysetSweeps.Sweeps members size seen cursor next) :
    KeysetSweeps.Sweeps members size more cursor next := by
  cases sweeps with
  | round all => exact .round fun key keyIn after => grown key (all key keyIn after)
  | page last later full all =>
    exact .page last later full fun key keyIn after upTo => grown key (all key keyIn after upTo)

theorem breaks_mono (grown : ∀ key, seen key → more key) (breaks : Breaks members seen cursor next) :
    Breaks members more cursor next := by
  cases breaks with
  | stays => exact .stays
  | moves last later all =>
    exact .moves last later fun key keyIn after upTo => grown key (all key keyIn after upTo)

theorem moved_mono {result : BatchResult} (grown : ∀ key, seen key → more key)
    (moved : Moved members size seen cursor result) : Moved members size more cursor result := by
  unfold Moved at *
  split
  next isState =>
    rw [isState] at moved
    exact sweeps_mono grown moved
  next isState =>
    rw [isState] at moved
    exact breaks_mono grown moved

theorem looping_mono (grown : ∀ key, seen key → more key)
    (looping : Looping members seen cursor batch) : Looping members more cursor batch := by
  obtain ⟨done, last, listed, ascending, within, processed, covered⟩ := looping.page
  refine ⟨done, last, listed, ascending, within,
    fun candidate candidateIn => grown _ (processed candidate candidateIn), ?_⟩
  intro key keyIn after
  rcases covered key keyIn after with isSeen | rest
  · exact .inl (grown key isSeen)
  · exact .inr rest

theorem continues_mono (grown : ∀ key, seen key → more key)
    (continues : Continues members size seen cursor phase) :
    Continues members size more cursor phase := by
  cases phase with
  | idle => trivial
  | called => exact continues
  | leased => exact continues
  | scheduled => exact continues
  | pruning batch =>
    exact ⟨continues.1, continues.2.1, looping_mono grown continues.2.2⟩
  | closing call result =>
    cases result with
    | none => trivial
    | some result => exact @moved_mono _ _ _ _ _ result grown continues
  | storing revision result => exact @moved_mono _ _ _ _ _ result grown continues

theorem moved_completed (positive : 0 < size) (large : size ≤ batch.call.limit)
    (looping : Looping members seen cursor batch) (finished : batch.candidates = []) :
    Moved members size seen cursor batch.completed := by
  obtain ⟨done, last, listed, ascending, within, processed, covered⟩ := looping.page
  rw [finished, List.append_nil] at listed ascending within
  rw [finished] at covered
  simp only [List.append_nil, List.not_mem_nil, false_and, exists_false, false_or] at covered
  unfold Moved Batch.completed
  by_cases full : batch.listed = batch.call.limit
  · rw [if_pos full]
    rcases List.eq_nil_or_concat done with rfl | ⟨earlier, final, rfl⟩
    · simp only [List.length_nil] at listed
      omega
    rw [List.concat_eq_append] at last listed ascending within covered
    rw [List.getLast?_concat] at last
    have finalIn : final ∈ earlier ++ [final] := by simp
    rw [last]
    refine .page final.key (within final finalIn).1 ?_ ?_
    · have keys : ((earlier ++ [final]).map CandidateRow.key).Nodup :=
        (List.pairwise_map.mpr ascending).imp fun less => ne_of_lt less
      have subset : ((earlier ++ [final]).map CandidateRow.key).toFinset ⊆
          members.filter (fun key => After cursor key ∧ key ≤ final.key) := by
        intro key keyIn
        obtain ⟨candidate, candidateIn, rfl⟩ := List.mem_map.mp (List.mem_toFinset.mp keyIn)
        refine Finset.mem_filter.mpr
          ⟨(within candidate candidateIn).2, (within candidate candidateIn).1, ?_⟩
        rcases List.mem_append.mp candidateIn with isEarlier | isFinal
        · exact le_of_lt ((List.pairwise_append.mp ascending).2.2 candidate isEarlier final
            (by simp))
        · rw [List.mem_singleton.mp isFinal]
      have bound := Finset.card_le_card subset
      rw [List.toFinset_card_of_nodup keys, List.length_map, ← listed] at bound
      omega
    · intro key keyIn after upTo
      rcases covered key keyIn after with isSeen | ⟨-, beyond⟩
      · exact isSeen
      · exact absurd (beyond final finalIn) (not_lt.mpr upTo)
  · rw [if_neg full]
    refine .round ?_
    intro key keyIn after
    rcases covered key keyIn after with isSeen | ⟨isFull, -⟩
    · exact isSeen
    · exact absurd isFull full

theorem moved_leaseLost {batch : Batch} (same : batch.call.after.map RetentionCursor.key = cursor)
    (looping : Looping members seen cursor batch) :
    Moved members size seen cursor batch.leaseLost := by
  obtain ⟨done, last, listed, ascending, within, processed, covered⟩ := looping.page
  unfold Moved Batch.leaseLost
  rcases List.eq_nil_or_concat done with rfl | ⟨earlier, final, rfl⟩
  · rw [List.getLast?_nil] at last
    rw [last]
    rw [same]
    exact .stays
  · rw [List.concat_eq_append] at last ascending within processed covered
    rw [List.getLast?_concat] at last
    have finalIn : final ∈ earlier ++ [final] ++ batch.candidates := by simp
    rw [last]
    refine .moves final.key (within final finalIn).1 ?_
    intro key keyIn after upTo
    rcases covered key keyIn after with isSeen | ⟨candidate, candidateIn, rfl⟩ | ⟨-, beyond⟩
    · exact isSeen
    · have later := (List.pairwise_append.mp ascending).2.2 final (by simp) candidate candidateIn
      exact absurd later (not_lt.mpr upTo)
    · exact absurd (beyond final finalIn) (not_lt.mpr upTo)

end Calls

section Tidy

variable {pruned : Table LedgerRow.entityKey} {workspaceId : String}
variable {tombstones written : Table TombstoneRow.entityKey}
variable {lookups : LedgerRow → List RetentionProtectionCode} {result : PruneResult}
variable {state : Option SweepStateRow} {cursor : Option RetentionCursor}

/-- What holds of every store: rows with a deadline have ended, revisions count from one, and
no coordinator expects a revision that is still to come. -/
structure Tidy (ledger : RetentionLedger) : Prop where
  ended : Ended ledger.rows
  numbered : ∀ row, ledger.sweepState = some row → 1 ≤ row.revision
  older : ∀ coordinator revision, expectation (ledger.phases coordinator) = some revision →
    revision.getD 0 ≤ stateRevision ledger.sweepState

theorem tidy_move (tidy : Tidy ledger) (ended : Ended next.rows)
    (state : next.sweepState = ledger.sweepState)
    (phases : next.phases = Function.update ledger.phases coordinator phase)
    (older : ∀ revision, expectation phase = some revision →
      revision.getD 0 ≤ stateRevision ledger.sweepState) : Tidy next := by
  refine ⟨ended, ?_, ?_⟩
  · rw [state]
    exact tidy.numbered
  rw [state, phases]
  intro other revision expects
  by_cases same : other = coordinator
  · rw [same, Function.update_self] at expects
    exact older revision expects
  · rw [Function.update_of_ne same] at expects
    exact tidy.older other revision expects

theorem scheduleRows_ended (ended : Ended rows) (deadline : LedgerRow → Option Nat) :
    Ended (scheduleRows rows deadline) := by
  intro row rowIn scheduled
  obtain ⟨old, oldIn, rfl⟩ := List.mem_map.mp rowIn
  unfold scheduleRow at *
  split
  next fresh => exact fresh.2
  next kept =>
    rw [if_neg kept] at scheduled
    exact ended old oldIn scheduled

theorem pruneRow_rows (isPruned : pruneRow workspaceId rows tombstones candidate lookups now =
      some ((pruned, written), result)) : ∀ row, row ∈ pruned.rows → row ∈ rows.rows := by
  intro row rowIn
  unfold pruneRow at isPruned
  split at isPruned
  next =>
    cases isPruned
    exact rowIn
  next =>
    split at isPruned
    next =>
      obtain ⟨written, -, isResult⟩ := Option.map_eq_some_iff.mp isPruned
      cases isResult
      exact ((rows.mem_deleteWhere_iff _ _).mp rowIn).1
    next =>
      cases isPruned
      exact rowIn

theorem pruneRow_left (isPruned : pruneRow workspaceId rows tombstones candidate lookups now =
      some ((pruned, written), result)) :
    ∀ row ∈ rows.rows, row ∈ pruned.rows ∨
      row.entityKey = (candidate.entityKind, candidate.entityId) := by
  intro row rowIn
  unfold pruneRow at isPruned
  split at isPruned
  next =>
    cases isPruned
    exact .inl rowIn
  next found isFound =>
    split at isPruned
    next =>
      obtain ⟨written, -, isResult⟩ := Option.map_eq_some_iff.mp isPruned
      cases isResult
      by_cases same : row.entityKey = found.entityKey
      · exact .inr (same.trans (rows.key_of_find isFound))
      · exact .inl ((rows.mem_deleteWhere_iff _ _).mpr ⟨rowIn, decide_eq_false same⟩)
    next =>
      cases isPruned
      exact .inl rowIn

theorem advance_taken (stored : (advanceSweepState state revision cursor now).2 = true) :
    revision.getD 0 = stateRevision state ∧
      stateRevision (advanceSweepState state revision cursor now).1 = stateRevision state + 1 ∧
        cursorKey (advanceSweepState state revision cursor now).1 =
          cursor.map RetentionCursor.key := by
  unfold advanceSweepState at *
  cases revision with
  | none =>
    cases state with
    | none => exact ⟨rfl, rfl, rfl⟩
    | some row => contradiction
  | some revision =>
    cases state with
    | none => contradiction
    | some row =>
      dsimp only at *
      split at stored
      next same =>
        rw [if_pos same]
        exact ⟨same.symm, rfl, rfl⟩
      next => contradiction

theorem advance_refused (refused : (advanceSweepState state revision cursor now).2 = false) :
    (advanceSweepState state revision cursor now).1 = state := by
  unfold advanceSweepState at *
  cases revision with
  | none =>
    cases state with
    | none => contradiction
    | some row => rfl
  | some revision =>
    cases state with
    | none => rfl
    | some row =>
      dsimp only at *
      split at refused
      next => contradiction
      next other => rw [if_neg other]

theorem advance_numbered (numbered : ∀ row, state = some row → 1 ≤ row.revision) :
    ∀ row, (advanceSweepState state revision cursor now).1 = some row → 1 ≤ row.revision := by
  intro row isRow
  cases stored : (advanceSweepState state revision cursor now).2 with
  | false =>
    rw [advance_refused stored] at isRow
    exact numbered row isRow
  | true =>
    have next := (advance_taken stored).2.1
    rw [isRow] at next
    change row.revision = _ at next
    omega

theorem tidy_goTo (tidy : Tidy ledger) (older : ∀ revision, expectation phase = some revision →
      revision.getD 0 ≤ stateRevision ledger.sweepState) : Tidy (ledger.goTo coordinator phase) :=
  tidy_move tidy tidy.ended rfl rfl older

theorem tidy_kept {coordinator : Nat} {phase : Phase} (tidy : Tidy ledger)
    (same : expectation phase = expectation (ledger.phases coordinator)) :
    ∀ revision, expectation phase = some revision →
      revision.getD 0 ≤ stateRevision ledger.sweepState := by
  intro revision expects
  rw [same] at expects
  exact tidy.older coordinator revision expects

theorem tidy_none (nothing : expectation phase = none) :
    ∀ revision, expectation phase = some revision →
      revision.getD 0 ≤ stateRevision ledger.sweepState := by
  intro revision expects
  rw [nothing] at expects
  contradiction

theorem step_tidy (op : SweepOp) (tidy : Tidy ledger) : Tidy (step setting ledger op) := by
  cases op with
  | sweepAll coordinator =>
    simp only [step]
    split
    next =>
      split
      next =>
        refine tidy_goTo tidy ?_
        intro revision expects
        cases expects
        exact Nat.le_refl _
      next => exact tidy
    next => exact tidy
  | prune coordinator limit after =>
    simp only [step]
    split
    next =>
      split
      next => exact tidy_goTo tidy (tidy_none rfl)
      next => exact tidy
    next => exact tidy
  | claim coordinator leaseToken now =>
    simp only [step]
    split
    next caller limit after isPhase =>
      split
      next => exact tidy
      next =>
        split
        next =>
          exact tidy_move tidy tidy.ended rfl rfl (tidy_kept tidy (by rw [isPhase]; rfl))
        next => exact tidy_move tidy tidy.ended rfl rfl (tidy_none rfl)
    next => exact tidy
  | schedule coordinator deadline =>
    simp only [step]
    split
    next call leaseExpiresAt isPhase =>
      exact tidy_move tidy (scheduleRows_ended tidy.ended deadline) rfl rfl
        (tidy_kept tidy (by rw [isPhase]; rfl))
    next => exact tidy
  | list coordinator =>
    simp only [step]
    split
    next call leaseExpiresAt isPhase =>
      exact tidy_goTo tidy (tidy_kept tidy (by rw [isPhase]; rfl))
    next => exact tidy
  | turn coordinator now =>
    simp only [step]
    split
    next batch isPhase =>
      split
      next =>
        have kept (phase : Phase) (same : expectation phase = expected batch.call.caller) :=
          @tidy_kept _ coordinator phase tidy (by rw [isPhase, same]; rfl)
        unfold beginTurn
        split
        next =>
          split
          next => exact tidy_goTo tidy (kept _ rfl)
          next => exact tidy_move tidy tidy.ended rfl rfl (kept _ rfl)
        next => exact tidy_goTo tidy (kept _ rfl)
      next => exact tidy
    next => exact tidy
  | inspect coordinator lookups =>
    simp only [step]
    split
    next batch isPhase =>
      split
      next now candidate rest _ _ =>
        have kept (phase : Phase) (same : expectation phase = expected batch.call.caller) :=
          @tidy_kept _ coordinator phase tidy (by rw [isPhase, same]; rfl)
        unfold inspectNext
        dsimp only
        split
        next =>
          split
          next => exact tidy_goTo tidy (kept _ rfl)
          next rows tombstones result isPruned =>
            refine tidy_move tidy ?_ rfl rfl (kept _ rfl)
            intro row rowIn
            exact tidy.ended row (pruneRow_rows isPruned row rowIn)
        next => exact tidy_goTo tidy (kept _ rfl)
      next => exact tidy
    next => exact tidy
  | finish coordinator =>
    simp only [step]
    split
    next batch isPhase =>
      split
      next => exact tidy_goTo tidy (tidy_kept tidy (by rw [isPhase]; rfl))
      next => exact tidy
    next => exact tidy
  | release coordinator =>
    simp only [step]
    split
    next call result isPhase =>
      split
      next revision result isCaller =>
        refine tidy_move tidy tidy.ended rfl rfl (@tidy_kept _ coordinator _ tidy ?_)
        rw [isPhase]
        simp only [expectation]
        rw [isCaller]
        rfl
      next => exact tidy_move tidy tidy.ended rfl rfl (tidy_none rfl)
    next => exact tidy
  | store coordinator now =>
    simp only [step]
    split
    next revision result isPhase =>
      split
      next =>
        have further : stateRevision ledger.sweepState ≤ stateRevision
            (advanceSweepState ledger.sweepState revision result.nextCursor now).1 := by
          cases stored : (advanceSweepState ledger.sweepState revision result.nextCursor now).2
          · rw [advance_refused stored]
          · rw [(advance_taken stored).2.1]
            exact Nat.le_succ _
        refine ⟨tidy.ended, advance_numbered tidy.numbered, ?_⟩
        intro other otherRevision expects
        by_cases same : other = coordinator
        · rw [same] at expects
          simp only [RetentionLedger.goTo, Function.update_self] at expects
          contradiction
        · simp only [RetentionLedger.goTo, Function.update_of_ne same] at expects
          exact le_trans (tidy.older other otherRevision expects) further
      next => exact tidy_goTo tidy (tidy_none rfl)
    next => exact tidy
  | crash coordinator => exact tidy_goTo tidy (tidy_none rfl)
  | others rows =>
    simp only [step]
    split
    next ended => exact ⟨ended, tidy.numbered, tidy.older⟩
    next => exact tidy

theorem reach_tidy (setting : Setting) (ops : List SweepOp) : Tidy (reach setting ops) := by
  have initial : Tidy RetentionLedger.initial := by
    refine ⟨?_, ?_, ?_⟩
    · intro row rowIn
      contradiction
    · intro row isRow
      contradiction
    · intro coordinator revision expects
      contradiction
  exact run_invariant (step setting) Tidy (fun _ op kept => step_tidy op kept) _ ops initial

end Tidy

variable {rest : List CandidateRow}

/-- The candidates of a stretch of a run: the rows that a listing finds due are those of them
that are there, and other services leave them. -/
def Fixed (members : Finset SweepKey) (ledger : RetentionLedger) : SweepOp → Prop
  | .list coordinator =>
    match ledger.phases coordinator with
    | .scheduled call _ =>
      ∀ row ∈ ledger.rows.rows, ∀ deadline ∈ row.cleanupAfter,
        (sweepKey deadline row.entityKind row.entityId ∈ members ↔ deadline ≤ call.startedAt)
    | _ => True
  | .others rows => ∀ key ∈ members, key ∈ rowKeys ledger.rows → key ∈ rowKeys rows
  | _ => True

instance (members : Finset SweepKey) (ledger : RetentionLedger) (op : SweepOp) :
    Decidable (Fixed members ledger op) := by
  unfold Fixed
  split
  · split
    · infer_instance
    · infer_instance
  · infer_instance
  · infer_instance

/-- Of the goal so many sweeps are still to be taken as are needed, a candidate that is gone
was inspected, and the sweeps that can still be taken go on at the cursor. -/
structure Fair (members : Finset SweepKey) (size goal : Nat) (events : List SweepEvent)
    (ledger : RetentionLedger) : Prop where
  budget : ∃ budget, budget ≤ goal - takenSweeps events ∧
    Within members size (Inspected events) budget (cursorKey ledger.sweepState)
  left : ∀ key ∈ members, key ∉ rowKeys ledger.rows → Inspected events key
  continues : ∀ coordinator revision,
    expectation (ledger.phases coordinator) = some revision →
      revision.getD 0 = stateRevision ledger.sweepState →
        Continues members size (Inspected events) (cursorKey ledger.sweepState)
          (ledger.phases coordinator)

variable {more : List SweepEvent}

theorem fair_move (fair : Fair members size goal events ledger)
    (state : next.sweepState = ledger.sweepState)
    (phases : next.phases = Function.update ledger.phases coordinator phase)
    (quiet : takenSweeps more = 0) (left : ∀ key ∈ members, key ∉ rowKeys next.rows →
      key ∉ rowKeys ledger.rows ∨ Inspected (events ++ more) key)
    (continues : ∀ revision, expectation phase = some revision →
      revision.getD 0 = stateRevision ledger.sweepState →
        Continues members size (Inspected (events ++ more)) (cursorKey ledger.sweepState) phase) :
    Fair members size goal (events ++ more) next := by
  have grown : ∀ key, Inspected events key → Inspected (events ++ more) key :=
    fun _ inspected => inspected_append inspected more
  obtain ⟨budget, enough, within⟩ := fair.budget
  have counted : takenSweeps (events ++ more) = takenSweeps events + takenSweeps more :=
    List.countP_append
  refine ⟨⟨budget, by omega, ?_⟩, ?_, ?_⟩
  · rw [state]
    exact within_mono grown within
  · intro key keyIn gone
    rcases left key keyIn gone with before | inspected
    · exact grown key (fair.left key keyIn before)
    · exact inspected
  · rw [state, phases]
    intro other revision expects current
    by_cases same : other = coordinator
    · rw [same, Function.update_self] at expects ⊢
      exact continues revision expects current
    · rw [Function.update_of_ne same] at expects ⊢
      exact continues_mono grown (fair.continues other revision expects current)

def Steps (members : Finset SweepKey) (size goal : Nat) (events : List SweepEvent)
    (ledger next : RetentionLedger) : Prop :=
  ∃ more, next.log = ledger.log ++ more ∧ Fair members size goal (events ++ more) next

section

variable (fair : Fair members size goal events ledger)
include fair

theorem steps_same : Steps members size goal events ledger ledger :=
  ⟨[], by rw [List.append_nil], by rw [List.append_nil]; exact fair⟩

theorem steps_move (log : next.log = ledger.log) (state : next.sweepState = ledger.sweepState)
    (phases : next.phases = Function.update ledger.phases coordinator phase)
    (left : ∀ key ∈ members, key ∈ rowKeys ledger.rows → key ∈ rowKeys next.rows)
    (continues : ∀ revision, expectation phase = some revision →
      revision.getD 0 = stateRevision ledger.sweepState →
        Continues members size (Inspected events) (cursorKey ledger.sweepState) phase) :
    Steps members size goal events ledger next := by
  refine ⟨[], by rw [log, List.append_nil], fair_move fair state phases rfl ?_ ?_⟩
  · intro key keyIn gone
    exact .inl fun there => gone (left key keyIn there)
  · rw [List.append_nil]
    exact continues

theorem steps_goTo (continues : ∀ revision, expectation phase = some revision →
      revision.getD 0 = stateRevision ledger.sweepState →
        Continues members size (Inspected events) (cursorKey ledger.sweepState) phase) :
    Steps members size goal events ledger (ledger.goTo coordinator phase) :=
  steps_move fair rfl rfl rfl (fun _ _ there => there) continues

end

theorem fair_continues (other : Phase) (fair : Fair members size goal events ledger)
    (isPhase : ledger.phases coordinator = phase) (same : expectation other = expectation phase)
    (expects : expectation other = some revision)
    (current : revision.getD 0 = stateRevision ledger.sweepState) :
    Continues members size (Inspected events) (cursorKey ledger.sweepState) phase := by
  have continues := fair.continues coordinator revision
  rw [isPhase] at continues
  exact continues (same ▸ expects) current

theorem scheduleRows_keys (deadline : LedgerRow → Option Nat) (there : key ∈ rowKeys rows) :
    key ∈ rowKeys (scheduleRows rows deadline) := by
  obtain ⟨row, rowIn, found, isDeadline, isKey⟩ := mem_rowKeys_iff.mp there
  refine mem_rowKeys_iff.mpr ⟨row, List.mem_map.mpr ⟨row, rowIn, ?_⟩, found, isDeadline, isKey⟩
  unfold scheduleRow
  rw [if_neg]
  rintro ⟨missing, -⟩
  rw [isDeadline] at missing
  contradiction

theorem looping_listed {call : PruneCall} {leaseExpiresAt : Nat} (tidy : Tidy ledger)
    (fair : Fair members size goal events ledger)
    (due : ∀ row ∈ ledger.rows.rows, ∀ deadline ∈ row.cleanupAfter,
      (sweepKey deadline row.entityKind row.entityId ∈ members ↔ deadline ≤ call.startedAt))
    (same : call.after.map RetentionCursor.key = cursorKey ledger.sweepState) :
    Looping members (Inspected events) (cursorKey ledger.sweepState) {
      call, leaseExpiresAt
      listed := (listCandidates setting.workspaceId ledger.rows call.startedAt call.limit
        call.after).length
      candidates := listCandidates setting.workspaceId ledger.rows call.startedAt call.limit
        call.after
      index := 0, operationNow := none, lastProcessed := none, views := [] } := by
  refine ⟨[], rfl, rfl, listCandidates_ascending tidy.ended, ?_, by simp, ?_⟩
  · intro candidate listed
    obtain ⟨behind, row, rowIn, deadline, found, passed, isKey⟩ := listed_due tidy.ended listed
    rw [same] at behind
    rw [isKey] at behind ⊢
    exact ⟨behind, (due row rowIn deadline found).mpr passed⟩
  · intro key keyIn behind
    by_cases there : key ∈ rowKeys ledger.rows
    · obtain ⟨row, rowIn, deadline, found, rfl⟩ := mem_rowKeys_iff.mp there
      rw [← same] at behind
      have passed := (due row rowIn deadline found).mp keyIn
      exact .inr (due_listed tidy.ended rowIn found passed behind)
    · exact .inl (fair.left key keyIn there)

theorem looping_inspected {more : SweepKey → Prop} {protectedBy : List RetentionProtectionCode}
    (grown : ∀ key, seen key → more key) (inspected : more candidate.key)
    (isNext : batch.candidates = candidate :: rest) (looping : Looping members seen cursor batch) :
    Looping members more cursor { batch with
      candidates := rest
      index := batch.index + 1
      operationNow := none
      lastProcessed := some candidate
      views := batch.views ++ [CandidateView.mk candidate protectedBy] } := by
  obtain ⟨done, last, listed, ascending, within, processed, covered⟩ := looping.page
  rw [isNext] at listed ascending within covered
  have parts : done ++ [candidate] ++ rest = done ++ candidate :: rest := by simp
  refine ⟨done ++ [candidate], (List.getLast?_concat).symm, ?_, ?_, ?_, ?_, ?_⟩
  · rw [parts]
    exact listed
  · rw [parts]
    exact ascending
  · rw [parts]
    exact within
  · intro one oneIn
    rcases List.mem_append.mp oneIn with earlier | isLast
    · exact grown _ (processed one earlier)
    · rw [List.mem_singleton.mp isLast]
      exact inspected
  · intro key keyIn behind
    rw [parts]
    rcases covered key keyIn behind with isSeen | ⟨one, oneIn, isKey⟩ | beyond
    · exact .inl (grown key isSeen)
    · rcases List.mem_cons.mp oneIn with isCandidate | inRest
      · rw [← isKey, isCandidate]
        exact .inl inspected
      · exact .inr (.inl ⟨one, inRest, isKey⟩)
    · exact .inr (.inr beyond)

theorem inspectNext_steps (lookups : LedgerRow → List RetentionProtectionCode)
    (fair : Fair members size goal events ledger)
    (isPhase : ledger.phases coordinator = .pruning batch)
    (isNext : batch.candidates = candidate :: rest) :
    Steps members size goal events ledger
      (inspectNext setting coordinator now ledger batch candidate rest lookups) := by
  have standing {revision : Option Nat} (expects : expected batch.call.caller = some revision)
      (current : revision.getD 0 = stateRevision ledger.sweepState) :=
    fair_continues (.pruning batch) fair isPhase rfl expects current
  unfold inspectNext
  dsimp only
  split
  next =>
    split
    next => exact steps_goTo fair fun _ _ _ => trivial
    next rows tombstones result isPruned =>
      obtain ⟨event, isEvent⟩ : ∃ event, event = SweepEvent.inspected
          (setting.options coordinator).ownerId batch.call.leaseToken candidate.key
          result.deleted now := ⟨_, rfl⟩
      have grown : ∀ key, Inspected events key → Inspected (events ++ [event]) key :=
        fun _ inspected => inspected_append inspected _
      have inspects {key : SweepKey} (same : entityOf candidate.key = entityOf key) :
          Inspected (events ++ [event]) key :=
        ⟨event, List.mem_append_right _ List.mem_cons_self, by
          rw [isEvent]
          exact decide_eq_true same⟩
      have quiet : takenSweeps [event] = 0 := by
        rw [isEvent]
        rfl
      rw [← isEvent]
      refine ⟨[event], rfl, fair_move fair rfl rfl quiet ?_ ?_⟩
      · intro key keyIn gone
        by_cases there : key ∈ rowKeys ledger.rows
        · obtain ⟨row, rowIn, deadline, found, rfl⟩ := mem_rowKeys_iff.mp there
          rcases pruneRow_left isPruned row rowIn with kept | isEntity
          · exact absurd (mem_rowKeys_iff.mpr ⟨row, kept, deadline, found, rfl⟩) gone
          · obtain ⟨kinds, ids⟩ := Prod.mk.inj isEntity
            refine .inr (inspects ?_)
            unfold entityOf CandidateRow.key sweepKey
            rw [← kinds, ← ids]
            rfl
        · exact .inl there
      · intro revision expects current
        obtain ⟨large, same, looping⟩ := standing expects current
        exact ⟨large, same, looping_inspected grown (inspects rfl) isNext looping⟩
  next =>
    refine steps_goTo fair ?_
    intro revision expects current
    obtain ⟨-, same, looping⟩ := standing expects current
    exact @moved_leaseLost _ size _ _ _ same looping

theorem beginTurn_steps (fair : Fair members size goal events ledger)
    (isPhase : ledger.phases coordinator = .pruning batch) :
    Steps members size goal events ledger
      (beginTurn (setting.options coordinator) coordinator now ledger batch) := by
  have standing {revision : Option Nat} (expects : expected batch.call.caller = some revision)
      (current : revision.getD 0 = stateRevision ledger.sweepState) :=
    fair_continues (.pruning batch) fair isPhase rfl expects current
  have goesOn (leaseExpiresAt : Nat) {revision : Option Nat}
      (expects : expected batch.call.caller = some revision)
      (current : revision.getD 0 = stateRevision ledger.sweepState) :
      Continues members size (Inspected events) (cursorKey ledger.sweepState)
        (.pruning { batch with leaseExpiresAt, operationNow := some now }) := by
    obtain ⟨large, same, looping⟩ := standing expects current
    exact ⟨large, same, ⟨looping.page⟩⟩
  unfold beginTurn
  split
  next =>
    split
    next =>
      refine steps_goTo fair ?_
      intro revision expects current
      obtain ⟨-, same, looping⟩ := standing expects current
      exact @moved_leaseLost _ size _ _ _ same looping
    next renewed _ =>
      exact steps_move fair rfl rfl rfl (fun _ _ there => there)
        fun _ expects current => goesOn renewed.leaseExpiresAt expects current
  next =>
    exact steps_goTo fair fun _ expects current => goesOn batch.leaseExpiresAt expects current

theorem store_steps {result : BatchResult} (positive : 0 < size) (tidy : Tidy ledger)
    (fair : Fair members size goal events ledger)
    (isPhase : ledger.phases coordinator = .storing revision result) :
    Steps members size goal events ledger
      (({ ledger with
          sweepState :=
            (advanceSweepState ledger.sweepState revision result.nextCursor now).1 }.record
        (.swept coordinator result.state
          (advanceSweepState ledger.sweepState revision result.nextCursor now).2)).goTo
            coordinator .idle) := by
  obtain ⟨advanced, isAdvanced⟩ : ∃ advanced,
      advanced = advanceSweepState ledger.sweepState revision result.nextCursor now := ⟨_, rfl⟩
  rw [← isAdvanced]
  obtain ⟨event, isEvent⟩ :
      ∃ event, event = SweepEvent.swept coordinator result.state advanced.2 := ⟨_, rfl⟩
  rw [← isEvent]
  cases stored : advanced.2 with
  | false =>
    have same : advanced.1 = ledger.sweepState := by
      rw [isAdvanced] at stored ⊢
      exact advance_refused stored
    have quiet : takenSweeps [event] = 0 := by
      rw [isEvent, stored]
      cases result.state <;> rfl
    refine ⟨[event], rfl, fair_move fair same rfl quiet (fun _ _ gone => .inl gone) ?_⟩
    intro otherRevision expects
    contradiction
  | true =>
    have accepted : (advanceSweepState ledger.sweepState revision result.nextCursor now).2 =
        true := by
      rw [← isAdvanced]
      exact stored
    obtain ⟨current, later, cursor⟩ := advance_taken accepted
    rw [← isAdvanced] at later cursor
    have moved : Moved members size (Inspected events) (cursorKey ledger.sweepState) result :=
      fair_continues (.storing revision result) fair isPhase rfl rfl current
    have grown : ∀ key, Inspected events key → Inspected (events ++ [event]) key :=
      fun _ inspected => inspected_append inspected _
    obtain ⟨budget, enough, within⟩ := fair.budget
    refine ⟨[event], rfl, ?_, ?_, ?_⟩
    · change ∃ budget, _ ∧ Within members size _ budget (cursorKey advanced.1)
      rw [cursor]
      have counted : takenSweeps (events ++ [event]) =
          takenSweeps events + takenSweeps [event] := List.countP_append
      unfold Moved at moved
      cases isState : result.state with
      | completed =>
        rw [isState] at moved
        have one : takenSweeps [event] = 1 := by
          rw [isEvent, isState, stored]
          rfl
        cases budget with
        | zero =>
          refine ⟨0, by omega, within_all ?_⟩
          intro key keyIn
          exact grown key (all_of_within positive within key keyIn)
        | succ budget =>
          exact ⟨budget, by omega, within_mono grown (within_sweep positive within moved)⟩
      | leaseLost =>
        rw [isState] at moved
        have quiet : takenSweeps [event] = 0 := by
          rw [isEvent, isState]
          rfl
        exact ⟨budget, by omega, within_mono grown (within_break within moved)⟩
    · intro key keyIn gone
      exact grown key (fair.left key keyIn gone)
    · intro other otherRevision expects otherCurrent
      change otherRevision.getD 0 = stateRevision advanced.1 at otherCurrent
      by_cases same : other = coordinator
      · rw [same] at expects
        simp only [RetentionLedger.goTo, Function.update_self] at expects
        contradiction
      · simp only [RetentionLedger.goTo, Function.update_of_ne same] at expects
        have older := tidy.older other otherRevision expects
        omega

theorem step_fair (op : SweepOp) (positive : 0 < size)
    (large : ∀ coordinator, size ≤ (setting.options coordinator).batchSize)
    (tidy : Tidy ledger) (fixed : Fixed members ledger op)
    (fair : Fair members size goal events ledger) :
    Steps members size goal events ledger (step setting ledger op) := by
  have unchanged := steps_same fair
  have stops (coordinator : Nat) :
      Steps members size goal events ledger (ledger.goTo coordinator .idle) :=
    steps_goTo fair fun _ _ _ => trivial
  cases op with
  | sweepAll coordinator =>
    simp only [step]
    split
    next =>
      split
      next => exact steps_goTo fair fun _ _ _ => ⟨large coordinator, rfl⟩
      next => exact unchanged
    next => exact unchanged
  | prune coordinator limit after =>
    simp only [step]
    split
    next =>
      split
      next =>
        refine steps_goTo fair ?_
        intro revision expects
        contradiction
      next => exact unchanged
    next => exact unchanged
  | claim coordinator leaseToken now =>
    simp only [step]
    split
    next caller limit after isPhase =>
      split
      next => exact unchanged
      next =>
        split
        next =>
          refine ⟨[.claimed (setting.options coordinator).ownerId leaseToken now], rfl,
            fair_move fair rfl rfl rfl (fun _ _ gone => .inl gone) ?_⟩
          intro revision expects current
          have standing := fair_continues (.called caller limit after) fair isPhase rfl
            expects current
          exact standing
        next =>
          exact steps_move fair rfl rfl rfl (fun _ _ there => there) fun _ _ _ => trivial
    next => exact unchanged
  | schedule coordinator deadline =>
    simp only [step]
    split
    next call leaseExpiresAt isPhase =>
      refine steps_move fair rfl rfl rfl (fun _ _ there => scheduleRows_keys deadline there) ?_
      intro revision expects current
      have standing := fair_continues (.leased call leaseExpiresAt) fair isPhase rfl expects current
      exact standing
    next => exact unchanged
  | list coordinator =>
    simp only [step]
    split
    next call leaseExpiresAt isPhase =>
      refine steps_goTo fair ?_
      intro revision expects current
      have standing := fair_continues (.scheduled call leaseExpiresAt) fair isPhase rfl
        expects current
      unfold Fixed at fixed
      dsimp only at fixed
      rw [isPhase] at fixed
      exact ⟨standing.1, standing.2, looping_listed tidy fair fixed standing.2⟩
    next => exact unchanged
  | turn coordinator now =>
    simp only [step]
    split
    next batch isPhase =>
      split
      next => exact beginTurn_steps fair isPhase
      next => exact unchanged
    next => exact unchanged
  | inspect coordinator lookups =>
    simp only [step]
    split
    next batch isPhase =>
      split
      next isNext => exact inspectNext_steps lookups fair isPhase isNext
      next => exact unchanged
    next => exact unchanged
  | finish coordinator =>
    simp only [step]
    split
    next batch isPhase =>
      split
      next finished =>
        refine steps_goTo fair ?_
        intro revision expects current
        have standing := fair_continues (.pruning batch) fair isPhase rfl expects current
        exact moved_completed positive standing.1 standing.2.2 finished
      next => exact unchanged
    next => exact unchanged
  | release coordinator =>
    simp only [step]
    split
    next call result isPhase =>
      refine steps_move fair rfl rfl rfl (fun _ _ there => there) ?_
      split
      next revision result isCaller =>
        intro otherRevision expects current
        have same : expectation (.storing revision result) =
            expectation (.closing call (some result)) := by
          simp only [expectation]
          rw [isCaller]
          rfl
        have standing := fair_continues (.storing revision result) fair isPhase same expects current
        exact standing
      next => exact fun _ _ _ => trivial
    next => exact unchanged
  | store coordinator now =>
    simp only [step]
    split
    next revision result isPhase =>
      split
      next => exact store_steps positive tidy fair isPhase
      next => exact stops coordinator
    next => exact unchanged
  | crash coordinator => exact stops coordinator
  | others rows =>
    simp only [step]
    split
    next =>
      refine ⟨[], by rw [List.append_nil], ?_⟩
      rw [List.append_nil]
      refine ⟨fair.budget, ?_, fair.continues⟩
      intro key keyIn gone
      exact fair.left key keyIn fun there => gone (fixed key keyIn there)
    next => exact unchanged

/-- No sweep that is under way can still have its cursor taken. -/
def Settled (ledger : RetentionLedger) : Prop :=
  ∀ coordinator revision, expectation (ledger.phases coordinator) = some revision →
    revision.getD 0 ≠ stateRevision ledger.sweepState

/-- In every stretch of the run with a fixed set of candidates, so many counted sweeps as the
candidates fill pages, and one more, inspect all candidates. -/
def FairStretches (setting : Setting) (counted : List SweepEvent → Nat) (ops : List SweepOp) :
    Prop :=
  ∀ before stretch members size events, ops = before ++ stretch → 0 < size →
    (∀ coordinator, size ≤ (setting.options coordinator).batchSize) →
      (∀ key ∈ members, key ∈ rowKeys (reach setting before).rows) →
        Settled (reach setting before) →
          EveryStep (step setting) (Fixed members) (reach setting before) stretch →
            (reach setting ops).log = (reach setting before).log ++ events →
              pages members.card size + 1 ≤ counted events → ∀ key ∈ members, Inspected events key

theorem run_fair (positive : 0 < size)
    (large : ∀ coordinator, size ≤ (setting.options coordinator).batchSize) (ops : List SweepOp)
    (tidy : Tidy ledger) (fixed : EveryStep (step setting) (Fixed members) ledger ops)
    (fair : Fair members size goal events ledger) :
    Steps members size goal events ledger (run (step setting) ledger ops) := by
  induction ops generalizing ledger events with
  | nil => exact steps_same fair
  | cons op ops ih =>
    obtain ⟨more, grown, stepped⟩ := step_fair op positive large tidy fixed.1 fair
    obtain ⟨rest, restGrown, ran⟩ := ih (step_tidy op tidy) fixed.2 stepped
    refine ⟨more ++ rest, ?_, ?_⟩
    · rw [run_cons, restGrown, grown, List.append_assoc]
    · rw [run_cons, ← List.append_assoc]
      exact ran

/-- Retention sweeps are exclusive, and fair to the candidates when those sweeps are counted
whose cursor the sweep state takes. -/
theorem sweeps_exclusive_and_fair (setting : Setting) (ops : List SweepOp) :
    OldOwnersPruneNothing (reach setting ops).log ∧ FairStretches setting takenSweeps ops := by
  refine ⟨exclusive_oldOwners (reach_exclusive setting ops), ?_⟩
  intro before stretch members size events isRun positive large there settled fixed grown enough
  have initial : Fair members size (pages members.card size + 1) [] (reach setting before) := by
    refine ⟨⟨pages members.card size + 1, Nat.le_refl _, within_start _ _⟩, ?_, ?_⟩
    · intro key keyIn gone
      exact absurd (there key keyIn) gone
    · intro coordinator revision expects current
      exact absurd current (settled coordinator revision expects)
  obtain ⟨more, isMore, fair⟩ :=
    run_fair positive large stretch (reach_tidy setting before) fixed initial
  have final : run (step setting) (reach setting before) stretch = reach setting ops := by
    rw [isRun]
    exact (run_append (step setting) _ before stretch).symm
  rw [final, grown] at isMore
  have same : events = more := List.append_cancel_left isMore
  rw [List.nil_append, ← same] at fair
  obtain ⟨budget, bound, within⟩ := fair.budget
  have spent : budget = 0 := by omega
  rw [spent] at within
  exact all_of_within positive within

def completed : SweepEvent → Bool
  | .swept _ .completed _ => true
  | _ => false

def completedSweeps (events : List SweepEvent) : Nat := events.countP completed

def sampleSetting : Setting where
  workspaceId := "w"
  options := fun coordinator =>
    { ownerId := toString coordinator, leaseDurationMs := 5000, batchSize := 1 }
  batch_positive := fun _ => Nat.le_refl 1
  batch_bounded := fun _ => Nat.le_add_left 1 999

def sampleRow (entityId : String) (deadline : Nat) : LedgerRow where
  entityKind := .task
  entityId := entityId
  terminalStatus := "SUCCEEDED"
  sourceRef := none
  terminalAt := some 1
  cleanupAfter := some deadline

def sampleRows : Table LedgerRow.entityKey where
  rows := [sampleRow "a" 2, sampleRow "b" 3]
  keysNodup := by decide

def sampleMembers : Finset SweepKey := {sweepKey 2 .task "a", sweepKey 3 .task "b"}

/-- The rest of a sweep of a coordinator that has read the sweep state; an active Run protects
the candidate. -/
def sampleSweep (coordinator now : Nat) : List SweepOp :=
  [.claim coordinator (toString now) now, .schedule coordinator (fun _ => none),
    .list coordinator, .turn coordinator now, .inspect coordinator (fun _ => [.runActive]),
    .finish coordinator, .release coordinator, .store coordinator now]

/-- Three coordinators read the sweep state, and sweep one after the other. -/
def sampleStretch : List SweepOp :=
  [.sweepAll 0, .sweepAll 1, .sweepAll 2] ++ sampleSweep 0 10 ++ sampleSweep 1 20 ++
    sampleSweep 2 30

def sampleStart : RetentionLedger := reach sampleSetting [.others sampleRows]

def sampleEnd : RetentionLedger := reach sampleSetting ([.others sampleRows] ++ sampleStretch)

theorem sample_there : ∀ key ∈ sampleMembers, key ∈ rowKeys sampleStart.rows := by
  decide +kernel

theorem sample_fixed :
    EveryStep (step sampleSetting) (Fixed sampleMembers) sampleStart sampleStretch := by
  decide +kernel

theorem sample_completed : pages sampleMembers.card 1 + 1 ≤ completedSweeps sampleEnd.log := by
  decide +kernel

theorem sample_starved : ¬ Inspected sampleEnd.log (sweepKey 3 .task "b") := by
  decide +kernel

theorem sample_settled : Settled sampleStart := by
  intro coordinator revision expects
  have idle : sampleStart.phases coordinator = .idle := by
    unfold sampleStart reach
    rw [run_cons, run_nil]
    simp only [step]
    split
    next => rfl
    next => rfl
  contradiction

/-- Three completed sweeps of two candidates, one a page, inspect the first one three times
and the second never. -/
theorem overlapping_sweeps_starve :
    ¬ FairStretches sampleSetting completedSweeps ([.others sampleRows] ++ sampleStretch) := by
  intro fair
  have empty : sampleStart.log = [] := by decide +kernel
  have whole : sampleEnd.log = sampleStart.log ++ sampleEnd.log := by
    rw [empty, List.nil_append]
  have one (coordinator : Nat) : 1 ≤ (sampleSetting.options coordinator).batchSize :=
    Nat.le_refl 1
  have all := fair [.others sampleRows] sampleStretch sampleMembers 1 sampleEnd.log rfl
    Nat.one_pos one sample_there sample_settled sample_fixed whole sample_completed
  exact sample_starved (all (sweepKey 3 .task "b") (by decide +kernel))

end OpenRill.Retention.FairSweeps
