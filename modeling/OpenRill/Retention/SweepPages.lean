import OpenRill.Retention.Sweeps

/-!
# The pages of a sweep

When every row with a deadline has ended, a page is the first of the due rows behind the
cursor, in the order of their keys: no key stands twice, and a due row that is missing comes
after a full page.
-/

namespace OpenRill.Retention.SweepPages

open OpenRill.Lib OpenRill.Lib.KeysetSweeps
open OpenRill.Retention.Deliveries OpenRill.Retention.Sweeps

variable {due : DueRow}

section Keys

variable {rows : Table LedgerRow.entityKey}

theorem kindText_injective {first second : RetentionEntityKind}
    (same : kindText first = kindText second) : first = second := by
  cases first <;> cases second <;> first | rfl | (simp [kindText] at same)

theorem sweepKey_injective {first second : Nat} {firstKind secondKind : RetentionEntityKind}
    {firstId secondId : String}
    (same : sweepKey first firstKind firstId = sweepKey second secondKind secondId) :
    first = second ∧ firstKind = secondKind ∧ firstId = secondId := by
  have parts : (first, toLex (kindText firstKind, firstId)) =
      (second, toLex (kindText secondKind, secondId)) := toLex_inj.mp same
  obtain ⟨deadlines, entities⟩ := Prod.mk.inj parts
  have inner : (kindText firstKind, firstId) = (kindText secondKind, secondId) :=
    toLex_inj.mp entities
  obtain ⟨kinds, ids⟩ := Prod.mk.inj inner
  exact ⟨deadlines, kindText_injective kinds, ids⟩

def rowKey (row : LedgerRow) : Option SweepKey :=
  row.cleanupAfter.map (fun deadline => sweepKey deadline row.entityKind row.entityId)

def rowKeys (rows : Table LedgerRow.entityKey) : List SweepKey := rows.rows.filterMap rowKey

theorem mem_rowKeys_iff {key : SweepKey} :
    key ∈ rowKeys rows ↔ ∃ row ∈ rows.rows, ∃ deadline, row.cleanupAfter = some deadline ∧
      key = sweepKey deadline row.entityKind row.entityId := by
  unfold rowKeys rowKey
  rw [List.mem_filterMap]
  constructor
  · rintro ⟨row, rowIn, isKey⟩
    obtain ⟨deadline, isDeadline, rfl⟩ := Option.map_eq_some_iff.mp isKey
    exact ⟨row, rowIn, deadline, isDeadline, rfl⟩
  · rintro ⟨row, rowIn, deadline, isDeadline, rfl⟩
    exact ⟨row, rowIn, by rw [isDeadline]; rfl⟩

theorem mem_dueRows_iff {now : Nat} :
    due ∈ dueRows rows now ↔ due.row ∈ rows.rows ∧
      due.row.cleanupAfter = some due.cleanupAfter ∧ due.cleanupAfter ≤ now := by
  unfold dueRows dueRow
  rw [List.mem_filterMap]
  constructor
  · rintro ⟨row, rowIn, isDue⟩
    obtain ⟨deadline, isDeadline, rfl⟩ := Option.map_eq_some_iff.mp isDue
    obtain ⟨found, passed⟩ := Option.filter_eq_some_iff.mp isDeadline
    exact ⟨rowIn, found, of_decide_eq_true passed⟩
  · rintro ⟨rowIn, found, passed⟩
    refine ⟨due.row, rowIn, ?_⟩
    rw [found]
    simp [passed]

theorem dueRows_distinct (rows : Table LedgerRow.entityKey) (now : Nat) :
    (dueRows rows now).Pairwise (fun first second => first.key ≠ second.key) := by
  have distinct := List.pairwise_map.mp rows.keysNodup
  unfold dueRows
  rw [List.pairwise_filterMap]
  refine distinct.imp ?_
  intro first second apart firstDue isFirst secondDue isSecond same
  apply apart
  obtain ⟨_, -, rfl⟩ := Option.map_eq_some_iff.mp isFirst
  obtain ⟨_, -, rfl⟩ := Option.map_eq_some_iff.mp isSecond
  obtain ⟨-, kinds, ids⟩ := sweepKey_injective same
  exact Prod.ext kinds ids

end Keys

def dueInOrder (rows : Table LedgerRow.entityKey) (now : Nat) (after : Option RetentionCursor) :
    List DueRow :=
  ((dueRows rows now).filter
    (fun due => decide (After (after.map RetentionCursor.key) due.key))).insertionSort dueBefore

variable {workspaceId : String} {rows : Table LedgerRow.entityKey} {now limit : Nat}
  {after : Option RetentionCursor}

theorem mem_dueInOrder_iff :
    due ∈ dueInOrder rows now after ↔ due.row ∈ rows.rows ∧
      due.row.cleanupAfter = some due.cleanupAfter ∧ due.cleanupAfter ≤ now ∧
        After (after.map RetentionCursor.key) due.key := by
  unfold dueInOrder
  rw [List.mem_insertionSort, List.mem_filter, mem_dueRows_iff, decide_eq_true_iff]
  tauto

theorem dueInOrder_ascending :
    ((dueInOrder rows now after).map DueRow.key).Pairwise (· < ·) := by
  have total : Std.Total dueBefore := ⟨fun first second => le_total first.key second.key⟩
  have transitive : IsTrans DueRow dueBefore :=
    ⟨fun _ _ _ firstSecond secondThird => le_trans firstSecond secondThird⟩
  have ordered : (dueInOrder rows now after).Pairwise dueBefore :=
    List.pairwise_insertionSort _ _
  have distinct : (dueInOrder rows now after).Pairwise
      (fun first second => first.key ≠ second.key) := by
    refine ((dueRows_distinct rows now).filter _).perm (List.perm_insertionSort _ _).symm ?_
    intro first second apart
    exact apart.symm
  rw [List.pairwise_map]
  exact (ordered.and distinct).imp fun both => lt_of_le_of_ne both.1 both.2

theorem listCandidates_keys (ended : Ended rows) :
    (listCandidates workspaceId rows now limit after).map CandidateRow.key =
      ((dueInOrder rows now after).map DueRow.key).take limit := by
  have page : duePage rows now limit after = (dueInOrder rows now after).take limit := rfl
  have kept : ∀ dues : List DueRow, (∀ due ∈ dues, due ∈ dueInOrder rows now after) →
      (dues.filterMap (DueRow.candidate workspaceId)).map CandidateRow.key =
        dues.map DueRow.key := by
    intro dues
    induction dues with
    | nil => intro _; rfl
    | cons due dues ih =>
      intro within
      have listed := mem_dueInOrder_iff.mp (within due List.mem_cons_self)
      have hasEnded := ended due.row listed.1 (by rw [listed.2.1]; rfl)
      obtain ⟨terminalAt, isEnd⟩ := Option.isSome_iff_exists.mp hasEnded
      have rest := ih fun one oneIn => within one (List.mem_cons_of_mem due oneIn)
      have isCandidate : ∃ candidate, due.candidate workspaceId = some candidate ∧
          candidate.key = due.key := by
        unfold DueRow.candidate
        rw [isEnd]
        exact ⟨_, rfl, rfl⟩
      obtain ⟨candidate, found, sameKey⟩ := isCandidate
      rw [List.filterMap_cons_some found, List.map_cons, List.map_cons, sameKey, rest]
  unfold listCandidates
  rw [page, kept _ fun due dueIn => List.mem_of_mem_take dueIn, List.map_take]

theorem listCandidates_ascending (ended : Ended rows) :
    (listCandidates workspaceId rows now limit after).Pairwise
      (fun first second => first.key < second.key) := by
  have keys := @listCandidates_keys workspaceId _ now limit after ended
  rw [← List.pairwise_map (f := CandidateRow.key), keys]
  exact dueInOrder_ascending.sublist (List.take_sublist _ _)

theorem listed_due (ended : Ended rows) {candidate : CandidateRow}
    (listed : candidate ∈ listCandidates workspaceId rows now limit after) :
    After (after.map RetentionCursor.key) candidate.key ∧
      ∃ row ∈ rows.rows, ∃ deadline, row.cleanupAfter = some deadline ∧ deadline ≤ now ∧
        candidate.key = sweepKey deadline row.entityKind row.entityId := by
  have inKeys := List.mem_map_of_mem (f := CandidateRow.key) listed
  rw [listCandidates_keys ended] at inKeys
  obtain ⟨due, dueIn, sameKey⟩ := List.mem_map.mp (List.mem_of_mem_take inKeys)
  obtain ⟨rowIn, found, passed, behind⟩ := mem_dueInOrder_iff.mp dueIn
  rw [← sameKey]
  exact ⟨behind, due.row, rowIn, due.cleanupAfter, found, passed, rfl⟩

theorem due_listed (ended : Ended rows) {row : LedgerRow} {deadline : Nat}
    (rowIn : row ∈ rows.rows) (found : row.cleanupAfter = some deadline)
    (passed : deadline ≤ now)
    (behind : After (after.map RetentionCursor.key)
      (sweepKey deadline row.entityKind row.entityId)) :
    (∃ candidate ∈ listCandidates workspaceId rows now limit after,
      candidate.key = sweepKey deadline row.entityKind row.entityId) ∨
    ((listCandidates workspaceId rows now limit after).length = limit ∧
      ∀ candidate ∈ listCandidates workspaceId rows now limit after,
        candidate.key < sweepKey deadline row.entityKind row.entityId) := by
  have keys := @listCandidates_keys workspaceId _ now limit after ended
  have inOrder : sweepKey deadline row.entityKind row.entityId ∈
      (dueInOrder rows now after).map DueRow.key :=
    List.mem_map.mpr ⟨⟨row, deadline⟩, mem_dueInOrder_iff.mpr ⟨rowIn, found, passed, behind⟩, rfl⟩
  obtain ⟨all, isAll⟩ : ∃ all, all = (dueInOrder rows now after).map DueRow.key := ⟨_, rfl⟩
  have ascending : all.Pairwise (· < ·) := by
    rw [isAll]
    exact dueInOrder_ascending
  rw [← isAll] at inOrder keys
  rw [← List.take_append_drop limit all] at inOrder ascending
  rcases List.mem_append.mp inOrder with taken | dropped
  · rw [← keys] at taken
    obtain ⟨candidate, candidateIn, sameKey⟩ := List.mem_map.mp taken
    exact .inl ⟨candidate, candidateIn, sameKey⟩
  refine .inr ⟨?_, ?_⟩
  · have some_dropped := List.length_pos_of_mem dropped
    have lengths := congrArg List.length keys
    rw [List.length_drop] at some_dropped
    rw [List.length_map, List.length_take] at lengths
    omega
  · intro candidate candidateIn
    have taken := List.mem_map_of_mem (f := CandidateRow.key) candidateIn
    rw [keys] at taken
    exact (List.pairwise_append.mp ascending).2.2 _ taken _ dropped

end OpenRill.Retention.SweepPages
