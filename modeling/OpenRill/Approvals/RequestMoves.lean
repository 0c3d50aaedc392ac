import OpenRill.Approvals.Callbacks

/-!
# What each transaction does to the requests

A transaction leaves the requests that are final, and the contexts of all of them. What it
refuses, it says: a request is denied, cancelled or expired only where the transaction is
about that.
-/

namespace OpenRill.Approvals.RequestMoves

open Lib Lib.Checked Ledger Service ProcessManager Callbacks

variable {tables reached : ApprovalTables} {ids : List String} {row old : ApprovalRow}
variable {status : ApprovalStatus} {input : ToolCallUpdate} {options : ApprovalOptions} {now : Nat}
variable {result : Json}

def refused : ApprovalStatus → Bool
  | .denied => true
  | .expired => true
  | .cancelled => true
  | _ => false

theorem final_of_refused (isRefused : refused status = true) : status.final = true := by
  cases status <;> first | rfl | cases isRefused

def CallsStored (tables : ApprovalTables) : Prop :=
  ∀ request ∈ tables.approvals.rows, (tables.toolCalls.find request.toolExecutionId).isSome = true

/-- What a transaction leaves of the requests, where it refuses those that `ends`. -/
structure RequestsMove (before after : ApprovalTables) (ends : ApprovalRow → Prop) : Prop where
  owned : CallsStored before → CallsStored after
  contexts : ∀ requestId old, before.approvals.find requestId = some old →
    ∃ row, after.approvals.find requestId = some row ∧ row.context = old.context
  final : ∀ requestId row, before.approvals.find requestId = some row →
    row.status.final = true → after.approvals.find requestId = some row
  refused : ∀ requestId row, after.approvals.find requestId = some row →
    refused row.status = true → before.approvals.find requestId = some row ∨
      ∃ old, before.approvals.find requestId = some old ∧ row.context = old.context ∧ ends old

def Spares (before after : ApprovalTables) : Prop :=
  RequestsMove before after (fun _ => False)

variable {before middle after : ApprovalTables} {ends : ApprovalRow → Prop}

theorem spares_refl (tables : ApprovalTables) : Spares tables tables where
  owned stored := stored
  contexts _ old found := ⟨old, found, rfl⟩
  final _ _ found _ := found
  refused _ _ found _ := Or.inl found

theorem RequestsMove.mono {wider : ApprovalRow → Prop} (move : RequestsMove before after ends)
    (implies : ∀ old ∈ before.approvals.rows, ends old → wider old) :
    RequestsMove before after wider where
  owned := move.owned
  contexts := move.contexts
  final := move.final
  refused := by
    intro requestId row found isRefused
    rcases move.refused requestId row found isRefused with there | isNew
    · exact Or.inl there
    · obtain ⟨old, foundOld, sameContext, ended⟩ := isNew
      have oldIn := before.approvals.mem_of_find foundOld
      exact Or.inr ⟨old, foundOld, sameContext, implies old oldIn ended⟩

theorem moves_of_spares (spares : Spares before after) : RequestsMove before after ends :=
  spares.mono fun _ _ impossible => impossible.elim

theorem RequestsMove.trans {later : ApprovalRow → Prop} (first : RequestsMove before middle ends)
    (second : RequestsMove middle after later)
    (named : ∀ requestId row, middle.approvals.find requestId = some row → later row →
      ∃ old, before.approvals.find requestId = some old ∧ row.context = old.context ∧ ends old) :
    RequestsMove before after ends where
  owned stored := second.owned (first.owned stored)
  contexts := by
    intro requestId old found
    obtain ⟨row, foundRow, rowContext⟩ := first.contexts requestId old found
    obtain ⟨last, foundLast, lastContext⟩ := second.contexts requestId row foundRow
    exact ⟨last, foundLast, lastContext.trans rowContext⟩
  final := by
    intro requestId row found isFinal
    exact second.final requestId row (first.final requestId row found isFinal) isFinal
  refused := by
    intro requestId row found isRefused
    rcases second.refused requestId row found isRefused with there | isNew
    · exact first.refused requestId row there isRefused
    · obtain ⟨old, foundOld, sameContext, ended⟩ := isNew
      obtain ⟨oldest, foundOldest, oldContext, endedOld⟩ := named requestId old foundOld ended
      exact Or.inr ⟨oldest, foundOldest, sameContext.trans oldContext, endedOld⟩

theorem RequestsMove.then_spares (first : RequestsMove before middle ends)
    (second : Spares middle after) : RequestsMove before after ends :=
  first.trans second fun _ _ _ impossible => impossible.elim

theorem spares_of_same (same : reached.approvals = tables.approvals)
    (calls : ∀ toolExecutionId, (tables.toolCalls.find toolExecutionId).isSome = true →
      (reached.toolCalls.find toolExecutionId).isSome = true) : Spares tables reached where
  owned := by
    intro stored request requestIn
    rw [same] at requestIn
    exact calls _ (stored request requestIn)
  contexts := by
    intro requestId old found
    rw [same]
    exact ⟨old, found, rfl⟩
  final := by
    intro requestId row found _
    rw [same]
    exact found
  refused := by
    intro requestId row found _
    rw [same] at found
    exact Or.inl found

theorem updateToolCall_spares (done : updateToolCall tables input = .ok reached) :
    Spares tables reached := by
  unfold updateToolCall at done
  rw [bind_ok_iff] at done
  obtain ⟨current, found, done⟩ := done
  rw [fetch_ok_iff] at found
  rw [pure_ok_iff] at done
  rw [← done]
  refine spares_of_same rfl ?_
  intro toolExecutionId isStored
  have own : tables.toolCalls.find (current.updated input).toolExecutionId = some current :=
    tables.toolCalls.find_self found
  have written := tables.toolCalls.find_update (current.updated input) own toolExecutionId
  rw [written]
  by_cases same : (current.updated input).toolExecutionId = toolExecutionId
  · rw [if_pos same]
    rfl
  · rw [if_neg same]
    exact isStored

theorem writeApproval_moves (found : tables.approvals.find row.requestId = some old)
    (open' : old.status.final = false) (sameContext : row.context = old.context)
    (sameCall : row.toolExecutionId = old.toolExecutionId)
    (named : refused row.status = true → ends old) :
    RequestsMove tables (writeApproval tables row) ends := by
  have lookup := tables.approvals.find_update row found
  have written := tables.approvals.mem_update_iff row found
  constructor
  · intro stored request requestIn
    rcases (written request).mp requestIn with isRow | other
    · rw [isRow, sameCall]
      exact stored old (tables.approvals.mem_of_find found)
    · exact stored request other.1
  · intro requestId other foundOther
    have after := lookup requestId
    by_cases own : row.requestId = requestId
    · rw [← own, found] at foundOther
      rw [if_pos own] at after
      exact ⟨row, after, sameContext.trans (congrArg _ (Option.some.inj foundOther))⟩
    · rw [if_neg own, foundOther] at after
      exact ⟨other, after, rfl⟩
  · intro requestId other foundOther isFinal
    have after := lookup requestId
    by_cases own : row.requestId = requestId
    · rw [← own, found] at foundOther
      rw [← Option.some.inj foundOther, open'] at isFinal
      cases isFinal
    · rw [if_neg own, foundOther] at after
      exact after
  · intro requestId other foundOther isRefused
    have after := lookup requestId
    have reread : (writeApproval tables row).approvals.find requestId = some other := foundOther
    by_cases own : row.requestId = requestId
    · rw [if_pos own] at after
      have isRow : row = other := Option.some.inj (after.symm.trans reread)
      rw [← isRow] at isRefused ⊢
      rw [← own]
      exact Or.inr ⟨old, found, sameContext, named isRefused⟩
    · rw [if_neg own] at after
      exact Or.inl (after.symm.trans reread)

section Authorizations

variable {input : BindingInput} {toolExecutionId : String} {createId : Nat → String}
variable {reply : Authorization}

theorem insertToolCall_spares {row : ToolCallRow}
    (done : insertToolCall tables row = .ok reached) : Spares tables reached := by
  unfold insertToolCall at done
  simp only [bind_ok_iff, require_ok_iff, fetch_ok_iff, pure_ok_iff, exists_and_left,
    exists_const] at done
  obtain ⟨-, toolCalls, inserted, isReached⟩ := done
  rw [← isReached]
  refine spares_of_same rfl ?_
  intro toolExecutionId isStored
  have lookup := tables.toolCalls.find_insert toolCalls row toolExecutionId inserted
  rw [lookup]
  by_cases same : row.toolExecutionId = toolExecutionId
  · rw [if_pos same]
    rfl
  · rw [if_neg same]
    exact isStored

theorem insertApproval_spares (isPending : row.status = .pending)
    (done : insertApproval tables row = .ok reached) : Spares tables reached := by
  unfold insertApproval at done
  simp only [bind_ok_iff, require_ok_iff, fetch_ok_iff, pure_ok_iff, exists_and_left,
    exists_const] at done
  obtain ⟨-, called, approvals, inserted, isReached⟩ := done
  rw [← isReached]
  have lookup := fun wanted => tables.approvals.find_insert approvals row wanted inserted
  have others : ∀ requestId other, tables.approvals.find requestId = some other →
      approvals.find requestId = some other := by
    intro requestId other found
    have fresh := ((tables.approvals.insert_some_iff approvals row).mp inserted).1
    rw [lookup]
    by_cases own : row.requestId = requestId
    · have missing := (tables.approvals.find_none_iff requestId).mpr (own ▸ fresh)
      rw [found] at missing
      cases missing
    · rw [if_neg own]
      exact found
  constructor
  · intro stored request requestIn
    rcases (tables.approvals.mem_insert_iff approvals row inserted request).mp requestIn
      with there | isRow
    · exact stored request there
    · rw [isRow]
      exact called
  · intro requestId old found
    exact ⟨old, others requestId old found, rfl⟩
  · intro requestId other found _
    exact others requestId other found
  · intro requestId other found isRefused
    have reread : approvals.find requestId = some other := found
    rw [lookup] at reread
    by_cases own : row.requestId = requestId
    · rw [if_pos own] at reread
      rw [← Option.some.inj reread, isPending] at isRefused
      cases isRefused
    · rw [if_neg own] at reread
      exact Or.inl reread

theorem answer_spares {granted : Bool}
    (done : answer options tables input toolExecutionId granted now createId =
      .ok (reached, reply)) : Spares tables reached := by
  unfold answer at done
  dsimp only at done
  split at done
  next =>
    cases done
    exact spares_refl tables
  next =>
    cases done
    exact spares_refl tables
  next =>
    rw [bind_ok_iff] at done
    obtain ⟨asked, inserted, done⟩ := done
    cases done
    exact insertApproval_spares rfl inserted

theorem authorizeOrRequest_spares
    (done : authorizeOrRequest options tables input now createId = .ok (reached, reply)) :
    Spares tables reached := by
  unfold authorizeOrRequest at done
  split at done
  next existing _ =>
    simp only [bind_ok_iff, require_ok_iff, exists_const] at done
    obtain ⟨-, done⟩ := done
    split at done
    next =>
      cases done
      exact spares_refl tables
    next =>
      split at done
      next =>
        cases done
        exact spares_refl tables
      next => exact answer_spares done
  next =>
    rw [bind_ok_iff] at done
    obtain ⟨stored, inserted, done⟩ := done
    exact (insertToolCall_spares inserted).then_spares (answer_spares done)

theorem beginAllowedToolCall_spares {result : Unit}
    (done : beginAllowedToolCall tables toolExecutionId now = .ok (reached, result)) :
    Spares tables reached := by
  unfold beginAllowedToolCall at done
  rw [bind_ok_iff] at done
  obtain ⟨row, -, done⟩ := done
  split at done
  next =>
    cases done
    exact spares_refl tables
  next =>
    simp only [bind_ok_iff, require_ok_iff, exists_const, pure_ok_iff, Prod.mk.injEq] at done
    obtain ⟨-, running, updated, isReached, -⟩ := done
    rw [← isReached]
    exact updateToolCall_spares updated

theorem completeToolCall_spares {isError : Bool} {errorCode : Option String} {value : Unit}
    (done : completeToolCall tables toolExecutionId result isError errorCode now =
      .ok (reached, value)) : Spares tables reached := by
  unfold completeToolCall at done
  simp only [bind_ok_iff, pure_ok_iff, Prod.mk.injEq] at done
  obtain ⟨completed, updated, isReached, -⟩ := done
  rw [← isReached]
  exact updateToolCall_spares updated

end Authorizations

variable {requestId wanted : String} {request : ApprovalRow} {expectedVersion : Nat}
variable {decision : ApprovalDecision}

theorem approvalOf_found (done : approvalOf tables requestId = .ok row) :
    tables.approvals.find requestId = some row := by
  unfold approvalOf at done
  rw [fetch_ok_iff] at done
  exact done

theorem updateToolCall_same (done : updateToolCall tables input = .ok reached) :
    reached.approvals = tables.approvals := by
  unfold updateToolCall at done
  simp only [bind_ok_iff, pure_ok_iff] at done
  obtain ⟨current, -, isReached⟩ := done
  rw [← isReached]

theorem insertConversationGrant_same {row : GrantRow} :
    (insertConversationGrant tables row).approvals = tables.approvals := by
  unfold insertConversationGrant
  split
  next => rfl
  next => rfl

theorem insertConversationGrant_spares {row : GrantRow} :
    Spares tables (insertConversationGrant tables row) := by
  unfold insertConversationGrant
  split
  next => exact spares_of_same rfl fun _ isStored => isStored
  next => exact spares_refl tables

theorem markApprovalTerminal_moves (requestId : String) (status : ApprovalStatus) (now : Nat) :
    RequestsMove tables (markApprovalTerminal tables requestId status now)
      (fun old => old.requestId = requestId ∧ old.status = .pending) := by
  unfold markApprovalTerminal
  cases found : tables.approvals.find requestId with
  | none => exact moves_of_spares (spares_refl tables)
  | some row =>
    have key := tables.approvals.key_of_find found
    dsimp only
    split
    next isPending =>
      have own : tables.approvals.find (row.ended status now).requestId = some row :=
        tables.approvals.find_self found
      apply writeApproval_moves own _ rfl rfl fun _ => ⟨key, isPending⟩
      rw [isPending]
      rfl
    next => exact moves_of_spares (spares_refl tables)

theorem resolveApproval_moves
    (done : resolveApproval tables requestId expectedVersion status decision now = some reached) :
    RequestsMove tables reached (fun old => old.requestId = requestId) ∧
      ∃ row, reached.approvals.find requestId = some row ∧ row.status = status := by
  unfold resolveApproval at done
  split at done
  next => cases done
  next row found =>
    have key := tables.approvals.key_of_find found
    split at done
    next matched =>
      have isReached := Option.some.inj done
      rw [← isReached]
      have own : tables.approvals.find (row.resolvedAs status decision now).requestId =
          some row :=
        tables.approvals.find_self found
      constructor
      · apply writeApproval_moves own _ rfl rfl (fun _ => key)
        rw [matched.2]
        rfl
      · have written := tables.approvals.find_update (row.resolvedAs status decision now) own
          requestId
        exact ⟨_, written.trans (if_pos key), rfl⟩
    next => cases done

theorem resolve_moves {replayed : Bool}
    (done : Service.resolve tables requestId expectedVersion decision now =
      .ok (reached, request, replayed)) :
    RequestsMove tables reached (fun old => old.requestId = requestId) ∧
      reached.approvals.find requestId = some request ∧
      (request.status = .approved ∨ request.status = .denied ∨ request.status = .consumed) := by
  unfold Service.resolve at done
  rw [bind_ok_iff] at done
  obtain ⟨row, isRow, done⟩ := done
  have found := approvalOf_found isRow
  split at done
  next =>
    simp only [bind_ok_iff, require_ok_iff, exists_const, pure_ok_iff, Prod.mk.injEq] at done
    obtain ⟨replays, isReached, isRequest, -⟩ := done
    rw [← isReached, ← isRequest]
    refine ⟨moves_of_spares (spares_refl tables), found, ?_⟩
    unfold ApprovalRow.replays at replays
    rw [Bool.and_eq_true, decide_eq_true_eq, decide_eq_true_eq] at replays
    exact replays.2
  next pending =>
    simp only [bind_ok_iff, require_ok_iff, exists_const, fetch_ok_iff, pure_ok_iff,
      Prod.mk.injEq] at done
    obtain ⟨-, -, resolved, isResolved, called, updated, request', isRequest', isReached,
      isRequest, -⟩ := done
    obtain ⟨move, other, foundOther, isStatus⟩ := resolveApproval_moves isResolved
    have granting : Spares called reached ∧ reached.approvals = called.approvals := by
      rw [← isReached]
      split
      next => exact ⟨insertConversationGrant_spares, insertConversationGrant_same⟩
      next => exact ⟨spares_refl called, rfl⟩
    rw [isReached, isRequest] at isRequest'
    have reread := approvalOf_found isRequest'
    refine ⟨(move.then_spares (updateToolCall_spares updated)).then_spares granting.1, reread, ?_⟩
    rw [granting.2, updateToolCall_same updated, foundOther] at reread
    rw [← Option.some.inj reread, isStatus]
    cases decision with
    | deny => exact Or.inr (Or.inl rfl)
    | allowOnce => exact Or.inl rfl
    | allowForConversation => exact Or.inl rfl

theorem consume_spares {bindingDigest : String} {consumption : Consumption}
    (done : Service.consume tables requestId expectedVersion bindingDigest now =
      .ok (reached, consumption)) : Spares tables reached := by
  unfold Service.consume at done
  simp only [bind_ok_iff, require_ok_iff, exists_const, fetch_ok_iff, pure_ok_iff,
    Prod.mk.injEq] at done
  obtain ⟨row, isRow, -, -, -, consumed, isConsumed, running, updated, request, -, call, -,
    isReached, -⟩ := done
  rw [← isReached]
  refine RequestsMove.then_spares ?_ (updateToolCall_spares updated)
  unfold consumeApproval at isConsumed
  split at isConsumed
  next => cases isConsumed
  next stored found =>
    split at isConsumed
    next matched =>
      rw [← Option.some.inj isConsumed]
      have own : tables.approvals.find (stored.consumedBy now).requestId = some stored :=
        tables.approvals.find_self found
      refine writeApproval_moves own ?_ rfl rfl ?_
      · rw [matched.2.1]
        rfl
      · intro isRefused
        cases isRefused
    next => cases isConsumed

theorem recordApprovalTerminalResult_spares {status : TerminalResult} {errorCode : String}
    (done : Service.recordApprovalTerminalResult tables requestId status result errorCode now =
      .ok (reached, request)) : Spares tables reached := by
  unfold Service.recordApprovalTerminalResult at done
  simp only [bind_ok_iff, pure_ok_iff, Prod.mk.injEq] at done
  obtain ⟨row, -, recorded, updated, isReached, -⟩ := done
  rw [← isReached]
  exact updateToolCall_spares updated

theorem updateToolCall_succeeds (input : ToolCallUpdate)
    (stored : (tables.toolCalls.find input.toolExecutionId).isSome = true) :
    ∃ after, updateToolCall tables input = .ok after := by
  obtain ⟨current, found⟩ := Option.isSome_iff_exists.mp stored
  unfold updateToolCall
  rw [found]
  exact ⟨_, rfl⟩

theorem recordApprovalTerminalResult_succeeds (stored : CallsStored tables)
    (found : tables.approvals.find requestId = some row) (status : TerminalResult) (result : Json)
    (errorCode : String) (now : Nat) : ∃ after request,
      Service.recordApprovalTerminalResult tables requestId status result errorCode now =
        .ok (after, request) := by
  have isStored := stored row (tables.approvals.mem_of_find found)
  obtain ⟨after, updated⟩ := updateToolCall_succeeds
    { toolExecutionId := row.toolExecutionId
      status := status.toStatus
      result := some result
      errorCode := some errorCode
      updatedAt := now } isStored
  refine ⟨after, row, ?_⟩
  unfold Service.recordApprovalTerminalResult approvalOf
  rw [found]
  change (updateToolCall tables _ >>= fun recorded => pure (recorded, row)) = _
  rw [updated]
  rfl

theorem marked_found (found : tables.approvals.find requestId = some row)
    (isPending : row.status = .pending) (status : ApprovalStatus) (now : Nat) :
    (markApprovalTerminal tables requestId status now).approvals.find requestId =
      some (row.ended status now) := by
  have key := tables.approvals.key_of_find found
  unfold markApprovalTerminal
  rw [found]
  dsimp only
  rw [if_pos isPending]
  have own : tables.approvals.find (row.ended status now).requestId = some row :=
    tables.approvals.find_self found
  exact (tables.approvals.find_update (row.ended status now) own requestId).trans (if_pos key)

theorem cancel_moves (done : Service.cancel tables requestId now = .ok (reached, request)) :
    RequestsMove tables reached (fun old => old.requestId = requestId ∧ old.status = .pending) ∧
      reached.approvals.find requestId = some request ∧
      ∀ old, tables.approvals.find requestId = some old → old.status = .pending →
        request.status = .cancelled := by
  unfold Service.cancel at done
  rw [bind_ok_iff] at done
  obtain ⟨row, isRow, done⟩ := done
  have found := approvalOf_found isRow
  split at done
  next isPending =>
    simp only [bind_ok_iff, pure_ok_iff, Prod.mk.injEq] at done
    obtain ⟨cancelled, updated, reread, isReread, isReached, isRequest⟩ := done
    rw [isReached, isRequest] at isReread
    rw [isReached] at updated
    have foundRequest := approvalOf_found isReread
    refine ⟨(markApprovalTerminal_moves requestId .cancelled now).then_spares
      (updateToolCall_spares updated), foundRequest, ?_⟩
    intro old _ _
    rw [updateToolCall_same updated, marked_found found isPending] at foundRequest
    rw [← Option.some.inj foundRequest]
    rfl
  next isOver =>
    rw [pure_ok_iff, Prod.mk.injEq] at done
    rw [← done.1, ← done.2]
    refine ⟨moves_of_spares (spares_refl tables), found, ?_⟩
    intro old foundOld isPending
    rw [found] at foundOld
    rw [Option.some.inj foundOld] at isOver
    exact absurd isPending isOver

theorem pending_of_marked (ends : status ≠ .pending)
    (found : (markApprovalTerminal tables requestId status now).approvals.find wanted = some row)
    (isPending : row.status = .pending) : tables.approvals.find wanted = some row := by
  unfold markApprovalTerminal at found
  split at found
  next => exact found
  next old isStored =>
    split at found
    next =>
      have own : tables.approvals.find (old.ended status now).requestId = some old :=
        tables.approvals.find_self isStored
      have written := tables.approvals.find_update (old.ended status now) own wanted
      have reread := written.symm.trans found
      by_cases same : (old.ended status now).requestId = wanted
      · rw [if_pos same] at reread
        rw [← Option.some.inj reread] at isPending
        exact absurd isPending ends
      · rw [if_neg same] at reread
        exact reread
    next => exact found

theorem expireApprovals_moves (now : Nat) (ids : List String) :
    RequestsMove tables (expireApprovals now tables ids)
      (fun old => old.requestId ∈ ids ∧ old.status = .pending) := by
  induction ids generalizing tables with
  | nil => exact moves_of_spares (spares_refl tables)
  | cons requestId rest inductionHypothesis =>
    have first : RequestsMove tables (markApprovalTerminal tables requestId .expired now)
        (fun old => old.requestId ∈ requestId :: rest ∧ old.status = .pending) := by
      apply (markApprovalTerminal_moves requestId .expired now).mono
      intro old _ ended
      exact ⟨List.mem_cons.mpr (Or.inl ended.1), ended.2⟩
    apply first.trans inductionHypothesis
    intro wanted row found ended
    have there := pending_of_marked (by decide) found ended.2
    exact ⟨row, there, rfl, List.mem_cons_of_mem _ ended.1, ended.2⟩

theorem marked_other (different : wanted ≠ requestId)
    (found : tables.approvals.find wanted = some row) (status : ApprovalStatus) (now : Nat) :
    (markApprovalTerminal tables requestId status now).approvals.find wanted = some row := by
  unfold markApprovalTerminal
  split
  next => exact found
  next old isStored =>
    split
    next =>
      have key := tables.approvals.key_of_find isStored
      have own : tables.approvals.find (old.ended status now).requestId = some old :=
        tables.approvals.find_self isStored
      have written := tables.approvals.find_update (old.ended status now) own wanted
      have other : ¬ (old.ended status now).requestId = wanted := by
        intro same
        exact different (same.symm.trans key)
      exact written.trans ((if_neg other).trans found)
    next => exact found

theorem expireApprovals_expires (now : Nat) (listed : wanted ∈ ids)
    (found : tables.approvals.find wanted = some old) (isPending : old.status = .pending) :
    ∃ row, (expireApprovals now tables ids).approvals.find wanted = some row ∧
      row.status = .expired := by
  induction ids generalizing tables with
  | nil => cases listed
  | cons requestId rest inductionHypothesis =>
    by_cases own : wanted = requestId
    · rw [own] at found ⊢
      have expired := marked_found found isPending .expired now
      have rests : RequestsMove (markApprovalTerminal tables requestId .expired now)
          (expireApprovals now (markApprovalTerminal tables requestId .expired now) rest) _ :=
        expireApprovals_moves now rest
      exact ⟨_, rests.final requestId _ expired rfl, rfl⟩
    · rcases List.mem_cons.mp listed with isHead | inRest
      · exact absurd isHead own
      · exact inductionHypothesis inRest (marked_other own found .expired now)

theorem cancelExpiredCalls_spares (now : Nat)
    (done : cancelExpiredCalls now tables ids = .ok reached) : Spares tables reached := by
  induction ids generalizing tables with
  | nil =>
    cases done
    exact spares_refl _
  | cons requestId rest inductionHypothesis =>
    unfold cancelExpiredCalls at done
    split at done
    next => exact inductionHypothesis done
    next row _ =>
      rw [bind_ok_iff] at done
      obtain ⟨cancelled, updated, done⟩ := done
      exact (updateToolCall_spares updated).then_spares (inductionHypothesis done)

theorem cancelExpiredCalls_same (now : Nat)
    (done : cancelExpiredCalls now tables ids = .ok reached) :
    reached.approvals = tables.approvals := by
  induction ids generalizing tables with
  | nil =>
    cases done
    rfl
  | cons requestId rest inductionHypothesis =>
    unfold cancelExpiredCalls at done
    split at done
    next => exact inductionHypothesis done
    next row _ =>
      rw [bind_ok_iff] at done
      obtain ⟨cancelled, updated, done⟩ := done
      exact (inductionHypothesis done).trans (updateToolCall_same updated)

theorem cancelExpiredCalls_succeeds (stored : CallsStored tables) (now : Nat)
    (ids : List String) : ∃ after, cancelExpiredCalls now tables ids = .ok after := by
  induction ids generalizing tables with
  | nil => exact ⟨tables, rfl⟩
  | cons requestId rest inductionHypothesis =>
    unfold cancelExpiredCalls
    cases found : tables.approvals.find requestId with
    | none => exact inductionHypothesis stored
    | some row =>
      have isStored := stored row (tables.approvals.mem_of_find found)
      obtain ⟨cancelled, updated⟩ := updateToolCall_succeeds
        (cancelledCall row.toolExecutionId "APPROVAL_EXPIRED" now) isStored
      obtain ⟨after, done⟩ :=
        inductionHypothesis ((updateToolCall_spares updated).owned stored)
      refine ⟨after, ?_⟩
      dsimp only
      rw [updated]
      exact done

theorem mem_listOverdue (oldIn : old ∈ tables.approvals.rows) :
    old.requestId ∈ listOverdue tables now ↔ old.overdue now = true := by
  unfold listOverdue
  rw [List.mem_map]
  constructor
  · intro listed
    obtain ⟨row, rowIn, same⟩ := listed
    obtain ⟨stored, overdue⟩ := List.mem_filter.mp rowIn
    rw [← tables.approvals.row_unique stored oldIn same]
    exact overdue
  · intro overdue
    exact ⟨old, List.mem_filter.mpr ⟨oldIn, overdue⟩, rfl⟩

theorem expirePending_moves (done : Service.expirePending tables now = .ok (reached, ids)) :
    RequestsMove tables reached (fun old => old.overdue now = true ∧ old.requestId ∈ ids) ∧
      ∀ requestId ∈ ids, ∀ row, reached.approvals.find requestId = some row →
        row.status = .expired := by
  unfold Service.expirePending at done
  simp only [bind_ok_iff, pure_ok_iff, Prod.mk.injEq] at done
  obtain ⟨expired, cancelled, isReached, isIds⟩ := done
  rw [← isReached, ← isIds]
  have move : RequestsMove tables (expireApprovals now tables (listOverdue tables now)) _ :=
    expireApprovals_moves now (listOverdue tables now)
  constructor
  · apply (move.then_spares (cancelExpiredCalls_spares now cancelled)).mono
    intro old oldIn ended
    exact ⟨(mem_listOverdue oldIn).mp ended.1, ended.1⟩
  intro requestId listed row found
  obtain ⟨old, oldIn, isOld⟩ := List.mem_map.mp listed
  obtain ⟨stored, overdue⟩ := List.mem_filter.mp oldIn
  have there := tables.approvals.find_of_mem stored
  have open' : old.status = .pending := (of_decide_eq_true overdue).1
  rw [isOld] at there
  obtain ⟨last, foundLast, isExpired⟩ := expireApprovals_expires now listed there open'
  rw [cancelExpiredCalls_same now cancelled, foundLast] at found
  rw [← Option.some.inj found]
  exact isExpired

theorem expirePending_succeeds (stored : CallsStored tables) (now : Nat) :
    ∃ after ids, Service.expirePending tables now = .ok (after, ids) := by
  have expired : RequestsMove tables (expireApprovals now tables (listOverdue tables now)) _ :=
    expireApprovals_moves now (listOverdue tables now)
  obtain ⟨after, done⟩ :=
    cancelExpiredCalls_succeeds (expired.owned stored) now (listOverdue tables now)
  refine ⟨after, listOverdue tables now, ?_⟩
  unfold Service.expirePending
  dsimp only
  rw [done]
  rfl

theorem cancel_succeeds (stored : CallsStored tables)
    (found : tables.approvals.find requestId = some row) (now : Nat) :
    ∃ after request, Service.cancel tables requestId now = .ok (after, request) := by
  unfold Service.cancel approvalOf
  rw [found]
  by_cases isPending : row.status = .pending
  · have marked : RequestsMove tables (markApprovalTerminal tables requestId .cancelled now) _ :=
      markApprovalTerminal_moves requestId .cancelled now
    obtain ⟨later, foundLater, -⟩ := marked.contexts requestId row found
    have isStored := stored row (tables.approvals.mem_of_find found)
    have sameCalls : (markApprovalTerminal tables requestId .cancelled now).toolCalls =
        tables.toolCalls := by
      unfold markApprovalTerminal
      rw [found]
      dsimp only
      rw [if_pos isPending]
      rfl
    rw [← sameCalls] at isStored
    obtain ⟨after, updated⟩ := updateToolCall_succeeds
      (cancelledCall row.toolExecutionId "APPROVAL_CANCELLED" now) isStored
    refine ⟨after, later, ?_⟩
    change (if row.status = .pending then _ else _) = _
    rw [if_pos isPending, updated]
    change (approvalOf after requestId >>= fun reread => pure (after, reread)) = _
    unfold approvalOf
    rw [updateToolCall_same updated, foundLater]
    rfl
  · refine ⟨tables, row, ?_⟩
    change (if row.status = .pending then _ else _) = _
    rw [if_neg isPending]
    rfl

theorem commit_spares {Result : Type} {body : Except ApprovalFailure (ApprovalTables × Result)}
    (spared : ∀ reached result, body = .ok (reached, result) → Spares tables reached) :
    Spares tables (commit tables body) := by
  cases body with
  | error failure => exact spares_refl tables
  | ok result => exact spared result.1 result.2 rfl

theorem insertProcess_spares {row : ProcessRow} (done : insertProcess tables row = .ok reached) :
    Spares tables reached := by
  unfold insertProcess at done
  simp only [bind_ok_iff, require_ok_iff, fetch_ok_iff, pure_ok_iff, exists_and_left,
    exists_const] at done
  obtain ⟨-, -, processes, -, isReached⟩ := done
  rw [← isReached]
  exact spares_of_same rfl fun _ isStored => isStored

theorem updateProcess_spares {input : ProcessUpdate}
    (done : updateProcess tables input = .ok reached) : Spares tables reached := by
  unfold updateProcess at done
  simp only [bind_ok_iff, pure_ok_iff] at done
  obtain ⟨current, -, isReached⟩ := done
  rw [← isReached]
  exact spares_of_same rfl fun _ isStored => isStored

theorem markOrphaned_spares (now : Nat) (tables : ApprovalTables) {rows : List ProcessRow} :
    Spares tables (markOrphaned now tables rows) := by
  induction rows generalizing tables with
  | nil => exact spares_refl tables
  | cons row rest inductionHypothesis =>
    have first : Spares tables
        { tables with processes := tables.processes.update (row.orphanedAt now) } :=
      spares_of_same rfl fun _ isStored => isStored
    exact first.then_spares (inductionHypothesis _)

theorem executeApproved_spares (host : ProcessHost) (requestId : String) (now : Nat) :
    Spares host.tables (ProcessManager.executeApproved host requestId now).tables := by
  unfold ProcessManager.executeApproved
  split
  next => exact spares_refl host.tables
  next request _ =>
    split
    next => exact spares_refl host.tables
    next tables consumption done => exact consume_spares done

theorem execution_spares (host : ProcessHost) (op : ProcessOp) (allowed : executes op = true) :
    Spares host.tables (ProcessManager.step options host op).tables := by
  cases op with
  | resolve requestId expectedVersion decision now => cases allowed
  | cancel requestId now => cases allowed
  | expirePending now => cases allowed
  | recordApprovalTerminalResult requestId status result errorCode now => cases allowed
  | restart now => cases allowed
  | authorize call policy now createId =>
    unfold ProcessManager.step ProcessManager.authorize
    dsimp only
    split
    next => exact spares_refl host.tables
    next tables reply done => exact authorizeOrRequest_spares done
  | begin index now =>
    unfold ProcessManager.step ProcessManager.begin
    dsimp only
    split
    next => exact spares_refl host.tables
    next execution _ =>
      split
      next => exact spares_refl host.tables
      next tables _ done => exact beginAllowedToolCall_spares done
  | consume requestId expectedVersion bindingDigest now =>
    unfold ProcessManager.step ProcessManager.consume
    dsimp only
    split
    next => exact spares_refl host.tables
    next tables consumption done => exact consume_spares done
  | executeApproved requestId now => exact executeApproved_spares host requestId now
  | prepareFails index result errorCode now =>
    unfold ProcessManager.step ProcessManager.prepareFails
    dsimp only
    split
    next => exact spares_refl host.tables
    next execution _ => exact commit_spares fun _ _ done => completeToolCall_spares done
  | insertProcess index processId now =>
    unfold ProcessManager.step ProcessManager.recordProcess
    dsimp only
    split
    next => exact spares_refl host.tables
    next execution _ =>
      split
      next => exact spares_refl host.tables
      next tables done => exact insertProcess_spares done
  | startProcess index =>
    unfold ProcessManager.step ProcessManager.startProcess
    dsimp only
    split
    next => exact spares_refl host.tables
    next => exact spares_refl host.tables
  | startFails index => exact spares_refl host.tables
  | updateProcess input =>
    refine commit_spares ?_
    intro reached result done
    cases isUpdated : updateProcess host.tables input with
    | error failure =>
      rw [isUpdated] at done
      cases done
    | ok tables =>
      rw [isUpdated] at done
      cases done
      exact updateProcess_spares isUpdated
  | completeToolCall processId result isError errorCode now =>
    unfold ProcessManager.step ProcessManager.completeExecution
    dsimp only
    split
    next => exact spares_refl host.tables
    next row _ => exact commit_spares fun _ _ done => completeToolCall_spares done

theorem restart_spares (host : ProcessHost) (now : Nat) :
    Spares host.tables (ProcessManager.step options host (.restart now)).tables :=
  markOrphaned_spares now host.tables

end OpenRill.Approvals.RequestMoves
