import OpenRill.Approvals.RequestMoves
import OpenRill.Runs.ToolResults

/-!
# Requests that end are answered

Only the callback that ends a request answers it. The tool result of a request that was
denied, cancelled or expired is appended and its run resumed, as long as no listing expires
a request on its own, no restart and no refused transaction comes between the end of a
request and its answer, and nothing stored is in the way of the tool result. The invariant
gives every refused request of a run that goes on to an answer or to an item of work.
-/

namespace OpenRill.Approvals.EndedRequests

open Lib Lib.Checked Lib.Runs Lib.Transaction Ledger Service ProcessManager Callbacks RequestMoves
open Runs.Ledger Runs.Delegations Runs.DelegationService Runs.Operations Runs.LedgerRules
open Runs.LedgerAppends Runs.ToolResults

variable {host reached : AnswerHost} {options : HostOptions} {request : ApprovalRow} {item : Work}
variable {items : List Work} {runId : String} {ends : ApprovalRow → Prop}

section Specification

variable (host : AnswerHost)

def runOver (request : ApprovalRow) : Bool :=
  runEnded host.ledger.ledger request.context.runId

def answered (request : ApprovalRow) : Bool :=
  heard host.ledger.ledger request.context.runId request.context.toolCallId &&
    decide (request.context.runId ∈ host.handed)

/-- After a completed tick every request that had ended is answered, or its run is over. -/
def EndedAnswered (options : HostOptions) (ops : List HostOp) : Prop :=
  ∀ earlier between now later, ops = earlier ++ between ++ .tick now :: later →
    (reach options (earlier ++ between)).work = [] → (reach options ops).work = [] →
      ∀ request ∈ (reach options earlier).tables.approvals.rows,
        refused request.status = true → runOver (reach options ops) request = false →
          answered (reach options ops) request = true

end Specification

section Conditions

variable (options : HostOptions) (host : AnswerHost)

def endsRun : Work → Option String
  | .endRun input => some input.runId
  | .endChild childRunId _ _ => some childRunId
  | _ => none

def ending (items : List Work) (runId : String) : Bool :=
  runEnded host.ledger.ledger runId || items.any (fun item => decide (endsRun item = some runId))

/-- A listing at this time expires no request, but of runs that are ending. -/
def listsFresh (items : List Work) (now : Nat) : Bool :=
  host.tables.approvals.rows.all (fun request =>
    !request.overdue now || ending host items request.context.runId)

/-- A transaction that ends a run takes effect. -/
def goesThrough {Value : Type} (body : RunTransaction Value) (runId : String) : Bool :=
  match body.run host.ledger with
  | .error _ => false
  | .ok (_, ledger) => runEnded ledger.ledger runId

def commits {Value : Type} (body : RunTransaction Value) : Bool :=
  match body.run host.ledger with
  | .error _ => false
  | .ok _ => true

def unhindered (call : Call) (rest : List Work) : Work → Bool
  | .answer request ending .append =>
    runOver host request ||
      enterable host.ledger.ledger (answerOf request ending) (call.createId 0)
  | .cancelRun _ => listsFresh host rest call.now
  | .endRun input =>
    goesThrough host
      (onLedger (Runs.Lifecycle.cancel options.runs input call.now call.createId)) input.runId
  | .endChild childRunId termination errorCode =>
    goesThrough host
      (terminateRun options.runs childRunId termination errorCode call.now call.createId)
      childRunId
  | .completeChild childRunId =>
    commits host
      (Runs.DelegationService.completeChild options.runs childRunId call.now call.createId)
  | _ => true

def losable : Work → Bool
  | .answer request _ _ => runOver host request
  | .endRun input => runEnded host.ledger.ledger input.runId
  | .endChild childRunId _ _ => runEnded host.ledger.ledger childRunId
  | _ => true

def careful : HostOp → Bool
  | .list now => !host.work.isEmpty || listsFresh host [] now
  | .restart _ => host.work.all (losable host)
  | .proceed call =>
    match host.work with
    | [] => true
    | item :: rest => unhindered options host call rest item
  | _ => true

def Careful (options : HostOptions) (host : AnswerHost) (op : HostOp) : Prop :=
  careful options host op = true

instance (options : HostOptions) (host : AnswerHost) (op : HostOp) :
    Decidable (Careful options host op) := by
  unfold Careful
  infer_instance

end Conditions

def Covers (host : AnswerHost) (request : ApprovalRow) : Work → Prop
  | .answer other _ stage => other = request ∧
      (stage = .resume →
        heard host.ledger.ledger request.context.runId request.context.toolCallId = true)
  | item => endsRun item = some request.context.runId

def Ready (host : AnswerHost) : Work → Prop
  | .answer request _ _ => host.tables.approvals.find request.requestId = some request ∧
      refused request.status = true
  | .cancelRun runId => ending host host.work runId = true
  | .cancelRequest requestId => ∃ row, host.tables.approvals.find requestId = some row ∧
      ending host host.work row.context.runId = true
  | _ => True

structure Sound (host : AnswerHost) : Prop where
  stored : CallsStored host.tables
  covered : ∀ request ∈ host.tables.approvals.rows, refused request.status = true →
    runOver host request = false →
      answered host request = true ∨ ∃ item ∈ host.work, Covers host request item
  ready : ∀ item ∈ host.work, Ready host item

theorem ledgerKept_refl (tables : RunTables) : LedgerKept tables tables where
  ended _ ended := ended
  heard _ _ stored := stored

section

variable (kept : LedgerKept host.ledger reached.ledger)

include kept

theorem runOver_before (live : runOver reached request = false) : runOver host request = false := by
  cases isOver : runOver host request with
  | false => rfl
  | true =>
    have still : runOver reached request = true := kept.ended _ isOver
    rw [live] at still
    cases still

theorem answered_kept (handed : ∀ runId ∈ host.handed, runId ∈ reached.handed)
    (isAnswered : answered host request = true) : answered reached request = true := by
  unfold answered at isAnswered ⊢
  rw [Bool.and_eq_true, decide_eq_true_eq] at isAnswered ⊢
  exact ⟨kept.heard _ _ isAnswered.1, handed _ isAnswered.2⟩

theorem covers_kept (covers : Covers host request item) : Covers reached request item := by
  cases item with
  | answer other how stage => exact ⟨covers.1, fun last => kept.heard _ _ (covers.2 last)⟩
  | _ => exact covers

theorem ending_kept {others : List Work} (isEnding : ending host items runId = true)
    (left : ∀ item ∈ items, endsRun item = some runId → item ∈ others ∨
      runEnded reached.ledger.ledger runId = true) : ending reached others runId = true := by
  unfold ending at isEnding ⊢
  rw [Bool.or_eq_true, List.any_eq_true] at isEnding ⊢
  rcases isEnding with ended | isEnding
  · exact Or.inl (kept.ended runId ended)
  · obtain ⟨item, itemIn, ends⟩ := isEnding
    rcases left item itemIn (of_decide_eq_true ends) with itemIn | ended
    · exact Or.inr ⟨item, itemIn, ends⟩
    · exact Or.inl ended

end

section

variable (sound : Sound host)
include sound

theorem sound_of_move (move : RequestsMove host.tables reached.tables ends)
    (kept : LedgerKept host.ledger reached.ledger)
    (handed : ∀ runId ∈ host.handed, runId ∈ reached.handed)
    (passes : ∀ request, runOver reached request = false → ∀ item ∈ host.work,
      Covers host request item →
        answered reached request = true ∨ ∃ other ∈ reached.work, Covers reached request other)
    (fresh : ∀ old ∈ host.tables.approvals.rows, ends old → ∀ row,
      reached.tables.approvals.find old.requestId = some row → row.context = old.context →
        refused row.status = true → runOver reached row = false →
          ∃ other ∈ reached.work, Covers reached row other)
    (ready : ∀ item ∈ reached.work, Ready reached item) : Sound reached where
  stored := move.owned sound.stored
  covered := by
    intro row rowIn isRefused live
    have found := reached.tables.approvals.find_of_mem rowIn
    rcases move.refused row.requestId row found isRefused with there | isNew
    · have rowThere := host.tables.approvals.mem_of_find there
      rcases sound.covered row rowThere isRefused (runOver_before kept live) with before | covers
      · exact Or.inl (answered_kept kept handed before)
      · obtain ⟨item, itemIn, covers⟩ := covers
        exact passes row live item itemIn covers
    · obtain ⟨old, foundOld, sameContext, ended⟩ := isNew
      have key := host.tables.approvals.key_of_find foundOld
      rw [← key] at found
      exact Or.inr (fresh old (host.tables.approvals.mem_of_find foundOld) ended row found
        sameContext isRefused live)
  ready := ready

section

variable (idle : host.work = [])
include idle

theorem sound_of_spares (stays : reached.work = []) (spares : Spares host.tables reached.tables)
    (kept : LedgerKept host.ledger reached.ledger)
    (handed : ∀ runId ∈ host.handed, runId ∈ reached.handed) : Sound reached := by
  apply sound_of_move sound spares kept handed
  · intro request _ item itemIn
    rw [idle] at itemIn
    cases itemIn
  · intro old _ impossible
    exact impossible.elim
  · intro item itemIn
    rw [stays] at itemIn
    cases itemIn

theorem sound_of_callback (move : RequestsMove host.tables reached.tables ends)
    (sameLedger : reached.ledger = host.ledger)
    (handed : ∀ runId ∈ host.handed, runId ∈ reached.handed)
    (answers : ∀ old, ends old → ∀ row, reached.tables.approvals.find old.requestId = some row →
      refused row.status = true → ∃ how, .answer row how .record ∈ reached.work)
    (ready : ∀ item ∈ reached.work, Ready reached item) : Sound reached := by
  have kept : LedgerKept host.ledger reached.ledger := by
    rw [sameLedger]
    exact ledgerKept_refl host.ledger
  apply sound_of_move sound move kept handed
  · intro request _ item itemIn
    rw [idle] at itemIn
    cases itemIn
  · intro old _ ended row found _ isRefused _
    obtain ⟨how, itemIn⟩ := answers old ended row found isRefused
    exact ⟨_, itemIn, rfl, fun impossible => by cases impossible⟩
  · exact ready

theorem list_sound (now : Nat) (clear : listsFresh host [] now = true) :
    Sound (Callbacks.begin options host (.list now)) := by
  obtain ⟨after, ids, done⟩ := expirePending_succeeds sound.stored now
  have isReached : Callbacks.begin options host (.list now) = host.withTables after := by
    change host.withTables (commit host.tables (Service.expirePending host.tables now)) = _
    rw [done]
    rfl
  rw [isReached]
  refine sound_of_move sound (expirePending_moves done).1 (ledgerKept_refl host.ledger)
    (fun _ there => there) ?_ ?_ ?_
  · intro request _ item itemIn
    rw [idle] at itemIn
    cases itemIn
  · intro old oldIn ended row _ sameContext _ live
    have isOver := List.all_eq_true.mp clear old oldIn
    rw [ended.1, Bool.not_true, Bool.false_or] at isOver
    unfold ending at isOver
    rw [List.any_nil, Bool.or_false, ← sameContext] at isOver
    have still : runOver (host.withTables after) row = true := isOver
    rw [live] at still
    cases still
  · intro item itemIn
    have none : item ∈ host.work := itemIn
    rw [idle] at none
    cases none

theorem resolve_sound (requestId : String) (expectedVersion : Nat) (decision : ApprovalDecision)
    (now : Nat) : Sound (Callbacks.resolve host requestId expectedVersion decision now) := by
  unfold Callbacks.resolve
  split
  next => exact sound
  next tables request replayed done =>
    obtain ⟨move, found, isStatus⟩ := resolve_moves done
    have key := tables.approvals.key_of_find found
    refine sound_of_callback sound idle move rfl (fun _ there => List.mem_append_left _ there) ?_ ?_
    · intro old isOld row foundRow isRefused
      have reread : tables.approvals.find old.requestId = some row := foundRow
      rw [isOld, found] at reread
      rw [← Option.some.inj reread] at isRefused ⊢
      refine ⟨.denied, ?_⟩
      unfold resolvedWork
      rcases isStatus with approved | denied | consumed
      · rw [approved] at isRefused
        cases isRefused
      · rw [denied]
        exact List.mem_singleton.mpr rfl
      · rw [consumed] at isRefused
        cases isRefused
    · intro item itemIn
      unfold resolvedWork at itemIn
      split at itemIn
      next denied =>
        rw [List.mem_singleton.mp itemIn]
        refine ⟨?_, ?_⟩
        · rw [key]
          exact found
        · rw [denied]
          rfl
      next =>
        rw [List.mem_singleton.mp itemIn]
        trivial
      next => cases itemIn

theorem cancel_sound (requestId : String) (now : Nat) :
    Sound (Callbacks.cancel host requestId now) := by
  unfold Callbacks.cancel
  split
  next => exact sound
  next tables request done =>
    obtain ⟨move, found, cancels⟩ := cancel_moves done
    have key := tables.approvals.key_of_find found
    refine sound_of_move sound move (ledgerKept_refl host.ledger) (fun _ there => there) ?_ ?_ ?_
    · intro other _ item itemIn
      rw [idle] at itemIn
      cases itemIn
    · intro old oldIn ended row foundRow _ _ _
      have reread : tables.approvals.find old.requestId = some row := foundRow
      rw [ended.1, found] at reread
      have there := host.tables.approvals.find_of_mem oldIn
      rw [ended.1] at there
      have isCancelled := cancels old there ended.2
      refine ⟨.answer request .cancelled .record, ?_, Option.some.inj reread, ?_⟩
      · dsimp only
        rw [if_pos isCancelled]
        exact List.mem_singleton.mpr rfl
      · intro impossible
        cases impossible
    · intro item itemIn
      split at itemIn
      next isCancelled =>
        rw [List.mem_singleton.mp itemIn]
        refine ⟨?_, ?_⟩
        · rw [key]
          exact found
        · rw [isCancelled]
          rfl
      next => cases itemIn

theorem tick_sound (now : Nat) : Sound (Callbacks.tick host now) := by
  obtain ⟨after, ids, done⟩ := expirePending_succeeds sound.stored now
  unfold Callbacks.tick
  rw [done]
  obtain ⟨move, expires⟩ := expirePending_moves done
  refine sound_of_move sound move (ledgerKept_refl host.ledger) (fun _ there => there) ?_ ?_ ?_
  · intro other _ item itemIn
    rw [idle] at itemIn
    cases itemIn
  · intro old oldIn ended row found _ _ _
    refine ⟨.answer row .expired .record, ?_, rfl, fun impossible => by cases impossible⟩
    exact List.mem_map.mpr ⟨row, List.mem_filterMap.mpr ⟨old.requestId, ended.2, found⟩, rfl⟩
  intro item itemIn
  obtain ⟨row, rowIn, isItem⟩ := List.mem_map.mp itemIn
  obtain ⟨requestId, isId, found⟩ := List.mem_filterMap.mp rowIn
  rw [← isItem]
  refine ⟨?_, ?_⟩
  · rw [after.approvals.key_of_find found]
    exact found
  · rw [expires requestId isId row found]
    rfl

end

end

theorem termination_ready {runs : List String} (work : host.work = items) (listed : runId ∈ runs)
    (ends : ∀ wanted ∈ runs, ∃ item ∈ items,
      endsRun item = some wanted) : ending host host.work runId = true := by
  obtain ⟨item, itemIn, isEnd⟩ := ends runId listed
  unfold ending
  rw [Bool.or_eq_true, List.any_eq_true, work]
  exact Or.inr ⟨item, itemIn, decide_eq_true isEnd⟩

theorem sound_of_work (sound : Sound host) (idle : host.work = []) (items : List Work)
    (ready : ∀ item ∈ items, Ready { host with work := items } item) :
    Sound { host with work := items } := by
  have spares : Spares host.tables { host with work := items }.tables := spares_refl host.tables
  refine sound_of_move sound spares (ledgerKept_refl host.ledger) (fun _ there => there) ?_ ?_ ready
  · intro request _ item itemIn
    rw [idle] at itemIn
    cases itemIn
  · intro old _ impossible
    exact impossible.elim

theorem terminationWork_ready {order : List String} {termination : Termination} {errorCode : String}
    (itemIn : item ∈ terminationWork order termination errorCode)
    (there : ∀ other ∈ terminationWork order termination errorCode, other ∈ host.work) :
    Ready host item := by
  rcases List.mem_append.mp itemIn with cancels | ends
  · obtain ⟨runId, listed, isItem⟩ := List.mem_map.mp cancels
    rw [← isItem]
    refine termination_ready rfl listed ?_
    intro wanted isWanted
    refine ⟨.endChild wanted termination errorCode, there _ ?_, rfl⟩
    exact List.mem_append_right _ (List.mem_map.mpr ⟨wanted, isWanted, rfl⟩)
  · obtain ⟨runId, _, isItem⟩ := List.mem_map.mp ends
    rw [← isItem]
    trivial

variable {rest : List Work} {how : Ending}

theorem ready_kept (move : RequestsMove host.tables reached.tables ends)
    (kept : LedgerKept host.ledger reached.ledger) {other : Work} (isReady : Ready host other)
    (left : ∀ ender ∈ host.work, ∀ runId, endsRun ender = some runId → ender ∈ reached.work ∨
      runEnded reached.ledger.ledger runId = true) : Ready reached other := by
  cases other with
  | answer request how stage =>
    exact ⟨move.final _ _ isReady.1 (final_of_refused isReady.2), isReady.2⟩
  | cancelRun runId =>
    exact ending_kept kept isReady fun ender enderIn ends => left ender enderIn runId ends
  | cancelRequest requestId =>
    obtain ⟨row, found, isEnding⟩ := isReady
    obtain ⟨later, foundLater, sameContext⟩ := move.contexts requestId row found
    refine ⟨later, foundLater, ?_⟩
    rw [sameContext]
    exact ending_kept kept isEnding fun ender enderIn ends => left ender enderIn _ ends
  | _ => trivial

theorem sound_of_item (sound : Sound host) (work : host.work = item :: rest)
    (move : RequestsMove host.tables reached.tables ends)
    (kept : LedgerKept host.ledger reached.ledger)
    (handed : ∀ runId ∈ host.handed, runId ∈ reached.handed)
    (rests : ∀ other ∈ rest, other ∈ reached.work)
    (done : ∀ request, runOver reached request = false → Covers host request item →
      answered reached request = true ∨ ∃ other ∈ reached.work, Covers reached request other)
    (ended : ∀ runId, endsRun item = some runId → runEnded reached.ledger.ledger runId = true)
    (fresh : ∀ old ∈ host.tables.approvals.rows, ends old → ∀ row, row.context = old.context →
      runOver reached row = false → ∃ other ∈ reached.work, Covers reached row other)
    (ready : ∀ other ∈ reached.work, other ∈ rest ∨ Ready reached other) : Sound reached := by
  refine sound_of_move sound move kept handed ?_ ?_ ?_
  · intro request live other otherIn covers
    rw [work] at otherIn
    rcases List.mem_cons.mp otherIn with isItem | inRest
    · rw [isItem] at covers
      exact done request live covers
    · exact Or.inr ⟨other, rests other inRest, covers_kept kept covers⟩
  · intro old oldIn isEnded row _ sameContext _ live
    exact fresh old oldIn isEnded row sameContext live
  · intro other otherIn
    rcases ready other otherIn with inRest | isReady
    · have before : other ∈ host.work := by
        rw [work]
        exact List.mem_cons_of_mem _ inRest
      apply ready_kept move kept (sound.ready other before)
      intro ender enderIn runId isEnd
      rw [work] at enderIn
      rcases List.mem_cons.mp enderIn with isItem | inRest
      · rw [isItem] at isEnd
        exact Or.inr (ended runId isEnd)
      · exact Or.inl (rests ender inRest)
    · exact isReady

theorem sound_of_idle_item (sound : Sound host) (work : host.work = item :: rest)
    (spares : Spares host.tables reached.tables) (kept : LedgerKept host.ledger reached.ledger)
    (handed : ∀ runId ∈ host.handed, runId ∈ reached.handed) (left : reached.work = rest)
    (noEnd : endsRun item = none) (done : ∀ request, Covers host request item →
      answered reached request = true) : Sound reached := by
  refine sound_of_item sound work spares kept handed ?_ ?_ ?_ ?_ ?_
  · intro other otherIn
    rw [left]
    exact otherIn
  · intro request _ covers
    exact Or.inl (done request covers)
  · intro runId ends
    rw [noEnd] at ends
    cases ends
  · intro old _ impossible
    exact impossible.elim
  · intro other otherIn
    rw [left] at otherIn
    exact Or.inl otherIn

section

variable (call : Call) (sound : Sound host)
include call sound

theorem record_sound (work : host.work = .answer request how .record :: rest) :
    Sound (proceedAnswer host rest call request how .record) := by
  have isReady := sound.ready (.answer request how .record) (by rw [work]; exact List.mem_cons_self ..)
  obtain ⟨after, row, done⟩ := recordApprovalTerminalResult_succeeds sound.stored isReady.1
    how.terminalResult how.output how.errorCode call.now
  unfold proceedAnswer
  rw [done]
  have spares := recordApprovalTerminalResult_spares done
  refine sound_of_item sound work spares (ledgerKept_refl host.ledger) (fun _ there => there)
    (fun _ otherIn => List.mem_cons_of_mem _ otherIn) ?_ ?_ ?_ ?_
  · intro other _ covers
    refine Or.inr ⟨.answer request how .append, List.mem_cons_self .., covers.1, ?_⟩
    intro impossible
    cases impossible
  · intro runId ends
    cases ends
  · intro old _ impossible
    exact impossible.elim
  · intro other otherIn
    rcases List.mem_cons.mp otherIn with isNext | inRest
    · rw [isNext]
      exact Or.inr ⟨spares.final _ _ isReady.1 (final_of_refused isReady.2), isReady.2⟩
    · exact Or.inl inRest

theorem append_sound (work : host.work = .answer request how .append :: rest)
    (clear : unhindered options host call rest (.answer request how .append) = true) :
    Sound (proceedAnswer host rest call request how .append) := by
  have isReady := sound.ready (.answer request how .append) (by rw [work]; exact List.mem_cons_self ..)
  have enters : runOver host request = false →
      Completes host.ledger
        (onLedger (appendApprovalToolResult (answerOf request how) call.now call.createId))
        (fun _ reached => heard reached.ledger request.context.runId
          request.context.toolCallId = true) := by
    intro live
    have free : enterable host.ledger.ledger (answerOf request how) (call.createId 0) = true := by
      have either : (runOver host request ||
        enterable host.ledger.ledger (answerOf request how) (call.createId 0)) = true := clear
      rw [live, Bool.false_or] at either
      exact either
    exact completes_focus (append_enters free live) fun _ _ stored => stored
  unfold proceedAnswer
  dsimp only
  split
  next failure failed =>
    refine sound_of_item sound work (spares_refl host.tables) (ledgerKept_refl host.ledger)
      (fun _ there => there) (fun _ otherIn => otherIn) ?_ ?_ ?_ ?_
    · intro other live covers
      rw [← covers.1] at live
      obtain ⟨value, reached, ran, -⟩ := enters live
      rw [ran] at failed
      cases failed
    · intro runId ends
      cases ends
    · intro old _ impossible
      exact impossible.elim
    · intro other otherIn
      exact Or.inl otherIn
  next value ledger done =>
    have kept : LedgerKept host.ledger ledger := by
      refine @ledgerKept_of_keeps options.runs _ _ _ _ _ ?_ done
      intro invariant rules
      exact onLedger_keeps (appendApprovalToolResult_keeps rules _ _ _)
    refine sound_of_item sound work (spares_refl host.tables) kept (fun _ there => there)
      (fun _ otherIn => List.mem_cons_of_mem _ otherIn) ?_ ?_ ?_ ?_
    · intro other live covers
      refine Or.inr ⟨.answer request how .resume, List.mem_cons_self .., covers.1, ?_⟩
      intro _
      rw [← covers.1] at live ⊢
      obtain ⟨result, reached, ran, stored⟩ := enters (runOver_before kept live)
      rw [ran] at done
      cases done
      exact stored
    · intro runId ends
      cases ends
    · intro old _ impossible
      exact impossible.elim
    · intro other otherIn
      rcases List.mem_cons.mp otherIn with isNext | inRest
      · rw [isNext]
        exact Or.inr isReady
      · exact Or.inl inRest

theorem resume_sound (work : host.work = .answer request how .resume :: rest) :
    Sound (proceedAnswer host rest call request how .resume) := by
  refine sound_of_idle_item sound work (spares_refl host.tables) (ledgerKept_refl host.ledger)
    (fun _ there => List.mem_append_left _ there) rfl rfl ?_
  intro other covers
  unfold answered
  rw [Bool.and_eq_true, decide_eq_true_eq, ← covers.1]
  refine ⟨?_, List.mem_append_right _ (List.mem_singleton.mpr rfl)⟩
  have stored := covers.2 rfl
  rw [← covers.1] at stored
  exact stored

end

theorem ending_without (noEnd : endsRun item = none)
    (isEnding : ending host (item :: items) runId = true) : ending host items runId = true := by
  apply ending_kept (ledgerKept_refl host.ledger) isEnding
  intro ender enderIn ends
  rcases List.mem_cons.mp enderIn with isItem | inRest
  · rw [isItem, noEnd] at ends
    cases ends
  · exact Or.inl inRest

theorem covers_of_ending {row : ApprovalRow} (isEnding : ending host items row.context.runId = true)
    (live : runOver host row = false) : ∃ other ∈ items, Covers host row other := by
  unfold ending at isEnding
  unfold runOver at live
  rw [live, Bool.false_or, List.any_eq_true] at isEnding
  obtain ⟨other, otherIn, ends⟩ := isEnding
  have isEnd : endsRun other = some row.context.runId := of_decide_eq_true ends
  refine ⟨other, otherIn, ?_⟩
  cases other with
  | answer request how stage => cases isEnd
  | _ => exact isEnd

theorem execute_sound (call : Call) (requestId : String) (sound : Sound host)
    (work : host.work = .execute requestId :: rest) :
    Sound (proceedItem options host rest call (.execute requestId)) := by
  refine sound_of_idle_item sound work (executeApproved_spares host.process requestId call.now)
    (ledgerKept_refl host.ledger) (fun _ there => there) rfl rfl ?_
  intro request covers
  cases covers

theorem cancelRun_sound (call : Call) (runId : String) (sound : Sound host)
    (work : host.work = .cancelRun runId :: rest)
    (clear : unhindered options host call rest (.cancelRun runId) = true) :
    Sound (proceedItem options host rest call (.cancelRun runId)) := by
  have isEnding := sound.ready (.cancelRun runId) (by rw [work]; exact List.mem_cons_self ..)
  obtain ⟨after, ids, done⟩ := expirePending_succeeds sound.stored call.now
  unfold proceedItem
  rw [done]
  refine sound_of_item sound work (expirePending_moves done).1 (ledgerKept_refl host.ledger)
    (fun _ there => there) (fun _ otherIn => List.mem_append_right _ otherIn) ?_ ?_ ?_ ?_
  · intro request _ covers
    cases covers
  · intro wanted ends
    cases ends
  · intro old oldIn ended row sameContext live
    have fresh := List.all_eq_true.mp clear old oldIn
    rw [ended.1, Bool.not_true, Bool.false_or, ← sameContext] at fresh
    obtain ⟨other, otherIn, covers⟩ := covers_of_ending fresh live
    exact ⟨other, List.mem_append_right _ otherIn, covers⟩
  · intro other otherIn
    rcases List.mem_append.mp otherIn with cancels | inRest
    · obtain ⟨requestId, isPending, isItem⟩ := List.mem_map.mp cancels
      obtain ⟨row, rowIn, isId⟩ := List.mem_map.mp isPending
      obtain ⟨stored, matched⟩ := List.mem_filter.mp rowIn
      rw [← isItem]
      refine Or.inr ⟨row, ?_, ?_⟩
      · rw [← isId]
        exact after.approvals.find_of_mem stored
      rw [(of_decide_eq_true matched).2]
      have before : ending host (.cancelRun runId :: rest) runId = true := by
        rw [← work]
        exact isEnding
      apply ending_kept (ledgerKept_refl host.ledger) (ending_without rfl before)
      intro ender enderIn _
      exact Or.inl (List.mem_append_right _ enderIn)
    · exact Or.inl inRest

theorem cancelRequest_sound (call : Call) (requestId : String) (sound : Sound host)
    (work : host.work = .cancelRequest requestId :: rest) :
    Sound (proceedItem options host rest call (.cancelRequest requestId)) := by
  obtain ⟨stored, found, isEnding⟩ :=
    sound.ready (.cancelRequest requestId) (by rw [work]; exact List.mem_cons_self ..)
  obtain ⟨after, request, done⟩ := cancel_succeeds sound.stored found call.now
  unfold proceedItem
  dsimp only
  rw [done]
  refine sound_of_item sound work (cancel_moves done).1 (ledgerKept_refl host.ledger)
    (fun _ there => there) (fun _ otherIn => otherIn) ?_ ?_ ?_ ?_
  · intro other _ covers
    cases covers
  · intro wanted ends
    cases ends
  · intro old oldIn ended row sameContext live
    have isStored : old = stored := by
      have there := host.tables.approvals.find_of_mem oldIn
      rw [ended.1, found] at there
      exact (Option.some.inj there).symm
    rw [work] at isEnding
    have ends := ending_without rfl isEnding
    rw [← isStored, ← sameContext] at ends
    exact covers_of_ending ends live
  · intro other otherIn
    exact Or.inl otherIn

theorem sound_of_ledger {ledger : RunTables} (sound : Sound host) (work : host.work = item :: rest)
    (kept : LedgerKept host.ledger ledger) (rests : ∀ other ∈ rest, other ∈ items)
    (others : ∀ other ∈ items, other ∈ rest ∨ ∃ runId, other = .completeChild runId)
    (ended : ∀ runId, endsRun item = some runId → runEnded ledger.ledger runId = true)
    (unanswering : ∀ request, Covers host request item →
      endsRun item = some request.context.runId) :
    Sound { host with ledger := ledger, work := items } := by
  have spares : Spares host.tables
      { host with ledger := ledger, work := items }.tables := spares_refl host.tables
  refine sound_of_item sound work spares kept (fun _ there => there) rests ?_ ended ?_ ?_
  · intro request live covers
    have isOver := ended _ (unanswering request covers)
    unfold runOver at live
    rw [isOver] at live
    cases live
  · intro old _ impossible
    exact impossible.elim
  · intro other otherIn
    rcases others other otherIn with inRest | completes
    · exact Or.inl inRest
    · obtain ⟨runId, isItem⟩ := completes
      rw [isItem]
      exact Or.inr trivial

theorem endRun_sound (call : Call) (input : Runs.Lifecycle.CancelInput) (sound : Sound host)
    (work : host.work = .endRun input :: rest)
    (clear : unhindered options host call rest (.endRun input) = true) :
    Sound (proceedItem options host rest call (.endRun input)) := by
  unfold unhindered goesThrough at clear
  unfold proceedItem
  dsimp only at clear ⊢
  split at clear
  next => cases clear
  next result ledger done =>
    rw [done]
    have kept : LedgerKept host.ledger ledger := by
      refine @ledgerKept_of_keeps options.runs _ _ _ _ _ ?_ done
      intro invariant rules
      exact onLedger_keeps (cancel_keeps rules _ _ _)
    refine sound_of_ledger sound work kept (fun _ otherIn => otherIn)
      (fun _ otherIn => Or.inl otherIn) ?_ fun _ covers => covers
    intro runId ends
    rw [← Option.some.inj ends]
    exact clear

theorem endChild_sound (call : Call) (childRunId : String) (termination : Termination)
    (errorCode : String) (sound : Sound host)
    (work : host.work = .endChild childRunId termination errorCode :: rest)
    (clear : unhindered options host call rest (.endChild childRunId termination errorCode) =
      true) :
    Sound (proceedItem options host rest call (.endChild childRunId termination errorCode)) := by
  unfold unhindered goesThrough at clear
  unfold proceedItem
  dsimp only at clear ⊢
  split at clear
  next => cases clear
  next known ledger done =>
    rw [done]
    have kept : LedgerKept host.ledger ledger := by
      refine @ledgerKept_of_keeps options.runs _ _ _ _ _ ?_ done
      intro invariant rules
      exact terminateRun_keeps rules _ _ _ _ _
    refine sound_of_ledger sound work kept ?_ ?_ ?_ fun _ covers => covers
    · intro other otherIn
      split
      next => exact List.mem_cons_of_mem _ otherIn
      next => exact otherIn
    · intro other otherIn
      split at otherIn
      next =>
        rcases List.mem_cons.mp otherIn with isItem | inRest
        · exact Or.inr ⟨childRunId, isItem⟩
        · exact Or.inl inRest
      next => exact Or.inl otherIn
    · intro runId ends
      rw [← Option.some.inj ends]
      exact clear

theorem completeChild_sound (call : Call) (childRunId : String) (sound : Sound host)
    (work : host.work = .completeChild childRunId :: rest)
    (clear : unhindered options host call rest (.completeChild childRunId) = true) :
    Sound (proceedItem options host rest call (.completeChild childRunId)) := by
  unfold unhindered commits at clear
  unfold proceedItem
  dsimp only at clear ⊢
  split at clear
  next => cases clear
  next result done =>
    obtain ⟨value, ledger⟩ := result
    rw [done]
    have kept : LedgerKept host.ledger ledger := by
      refine @ledgerKept_of_keeps options.runs _ _ _ _ _ ?_ done
      intro invariant rules
      exact completeChild_keeps rules.events trivial _ _ _
    refine sound_of_ledger sound work kept (fun _ otherIn => otherIn)
      (fun _ otherIn => Or.inl otherIn) ?_ fun _ covers => covers
    intro runId ends
    cases ends

theorem proceed_sound (call : Call) (sound : Sound host)
    (clear : careful options host (.proceed call) = true) :
    Sound (proceed options host call) := by
  unfold careful at clear
  unfold proceed
  cases work : host.work with
  | nil => exact sound
  | cons item rest =>
    rw [work] at clear
    cases item with
    | answer request how stage =>
      cases stage with
      | record => exact record_sound call sound work
      | append => exact append_sound call sound work clear
      | resume => exact resume_sound call sound work
    | execute requestId => exact execute_sound call requestId sound work
    | cancelRun runId => exact cancelRun_sound call runId sound work clear
    | cancelRequest requestId => exact cancelRequest_sound call requestId sound work
    | endRun input => exact endRun_sound call input sound work clear
    | endChild childRunId termination errorCode =>
      exact endChild_sound call childRunId termination errorCode sound work clear
    | completeChild childRunId => exact completeChild_sound call childRunId sound work clear

theorem sound_empty : Sound AnswerHost.empty where
  stored := by
    intro request requestIn
    cases requestIn
  covered := by
    intro request requestIn
    cases requestIn
  ready := by
    intro item itemIn
    cases itemIn

theorem restart_sound (now : Nat) (sound : Sound host)
    (clear : careful options host (.restart now) = true) :
    Sound (step options host (.restart now)) := by
  refine sound_of_move sound (@restart_spares options.approvals host.process now) (ledgerKept_refl host.ledger)
    (fun _ there => there) ?_ ?_ ?_
  · intro request live item itemIn covers
    have lost : losable host item = true := List.all_eq_true.mp clear item itemIn
    have isOver : runOver host request = true := by
      cases item with
      | answer other how stage =>
        rw [← covers.1]
        exact lost
      | endRun input =>
        unfold runOver
        rw [← Option.some.inj covers]
        exact lost
      | endChild childRunId termination errorCode =>
        unfold runOver
        rw [← Option.some.inj covers]
        exact lost
      | _ => cases covers
    have still : runOver host request = false := live
    rw [isOver] at still
    cases still
  · intro old _ impossible
    exact impossible.elim
  · intro item itemIn
    cases itemIn

theorem begin_sound (op : HostOp) (sound : Sound host) (idle : host.work = [])
    (clear : careful options host op = true) : Sound (Callbacks.begin options host op) := by
  cases op with
  | process op =>
    unfold Callbacks.begin
    dsimp only
    split
    next allowed =>
      exact sound_of_spares sound idle idle (execution_spares host.process op allowed)
        (ledgerKept_refl host.ledger) fun _ there => there
    next => exact sound
  | ledger op =>
    exact sound_of_spares sound idle idle (spares_refl host.tables)
      (step_ledgerKept host.ledger op) fun _ there => there
  | handOver runId =>
    exact sound_of_spares sound idle idle (spares_refl host.tables)
      (ledgerKept_refl host.ledger) fun _ there => List.mem_append_left _ there
  | list now =>
    apply list_sound sound idle now
    unfold careful at clear
    rw [idle] at clear
    exact clear
  | resolve requestId expectedVersion decision now =>
    exact resolve_sound sound idle requestId expectedVersion decision now
  | cancel requestId now => exact cancel_sound sound idle requestId now
  | tick now => exact tick_sound sound idle now
  | cancelConversation input descendants =>
    apply sound_of_work sound idle (cancellationWork input descendants)
    intro item itemIn
    rcases List.mem_append.mp itemIn with before | isLast
    · rcases List.mem_append.mp before with isFirst | terminates
      · rw [List.mem_singleton.mp isFirst]
        trivial
      · apply terminationWork_ready terminates
        intro other otherIn
        exact List.mem_append_left _ (List.mem_append_right _ otherIn)
    · rw [List.mem_singleton.mp isLast]
      refine termination_ready rfl (List.mem_singleton.mpr rfl) ?_
      intro wanted isWanted
      rw [List.mem_singleton.mp isWanted]
      refine ⟨.endRun input, ?_, rfl⟩
      exact List.mem_append_left _ (List.mem_append_left _ (List.mem_singleton.mpr rfl))
  | terminateDelegations order termination errorCode =>
    apply sound_of_work sound idle (terminationWork order termination errorCode)
    intro item itemIn
    exact terminationWork_ready itemIn fun _ otherIn => otherIn
  | proceed call => exact sound
  | restart now => exact sound

theorem step_sound (host : AnswerHost) (op : HostOp) (clear : Careful options host op)
    (sound : Sound host) : Sound (step options host op) := by
  have between : ∀ op, careful options host op = true →
      Sound (if host.work.isEmpty = true then Callbacks.begin options host op else host) := by
    intro op clear
    split
    next idle => exact begin_sound op sound (List.isEmpty_iff.mp idle) clear
    next => exact sound
  cases op with
  | proceed call => exact proceed_sound call sound clear
  | restart now => exact restart_sound now sound clear
  | _ => exact between _ clear

theorem reach_sound (ops : List HostOp)
    (meets : EveryStep (step options) (Careful options) AnswerHost.empty ops) :
    Sound (reach options ops) :=
  run_invariant_of_everyStep (step options) (Careful options) Sound step_sound AnswerHost.empty ops
    sound_empty meets

def FinalStays (before after : ApprovalTables) : Prop :=
  ∀ requestId row, before.approvals.find requestId = some row → row.status.final = true →
    after.approvals.find requestId = some row

theorem finalStays_refl (tables : ApprovalTables) : FinalStays tables tables :=
  fun _ _ found _ => found

theorem begin_finalStays (host : AnswerHost) (op : HostOp) :
    FinalStays host.tables (Callbacks.begin options host op).tables := by
  cases op with
  | process op =>
    unfold Callbacks.begin
    dsimp only
    split
    next allowed => exact (execution_spares host.process op allowed).final
    next => exact finalStays_refl host.tables
  | list now =>
    change FinalStays host.tables (commit host.tables (Service.expirePending host.tables now))
    cases done : Service.expirePending host.tables now with
    | error failure => exact finalStays_refl host.tables
    | ok result => exact (expirePending_moves done).1.final
  | resolve requestId expectedVersion decision now =>
    unfold Callbacks.begin Callbacks.resolve
    dsimp only
    split
    next => exact finalStays_refl host.tables
    next tables request replayed done => exact (resolve_moves done).1.final
  | cancel requestId now =>
    unfold Callbacks.begin Callbacks.cancel
    dsimp only
    split
    next => exact finalStays_refl host.tables
    next tables request done => exact (cancel_moves done).1.final
  | tick now =>
    unfold Callbacks.begin Callbacks.tick
    dsimp only
    split
    next => exact finalStays_refl host.tables
    next tables ids done => exact (expirePending_moves done).1.final
  | _ => exact finalStays_refl host.tables

theorem proceedItem_finalStays (host : AnswerHost) (rest : List Work) (call : Call)
    (item : Work) : FinalStays host.tables (proceedItem options host rest call item).tables := by
  cases item with
  | answer request how stage =>
    cases stage with
    | record =>
      unfold proceedItem proceedAnswer
      dsimp only
      split
      next => exact finalStays_refl host.tables
      next tables row done => exact (recordApprovalTerminalResult_spares done).final
    | append =>
      unfold proceedItem proceedAnswer
      dsimp only
      split
      next => exact finalStays_refl host.tables
      next => exact finalStays_refl host.tables
    | resume => exact finalStays_refl host.tables
  | execute requestId => exact (executeApproved_spares host.process requestId call.now).final
  | cancelRun runId =>
    unfold proceedItem
    dsimp only
    split
    next => exact finalStays_refl host.tables
    next tables ids done => exact (expirePending_moves done).1.final
  | cancelRequest requestId =>
    unfold proceedItem
    dsimp only
    split
    next => exact finalStays_refl host.tables
    next tables request done => exact (cancel_moves done).1.final
  | _ =>
    unfold proceedItem
    dsimp only
    split
    next => exact finalStays_refl host.tables
    next => exact finalStays_refl host.tables

theorem step_finalStays (host : AnswerHost) (op : HostOp) :
    FinalStays host.tables (step options host op).tables := by
  have between : ∀ op, FinalStays host.tables
      (if host.work.isEmpty = true then Callbacks.begin options host op else host).tables := by
    intro op
    split
    next => exact begin_finalStays host op
    next => exact finalStays_refl host.tables
  cases op with
  | proceed call =>
    change FinalStays host.tables (proceed options host call).tables
    unfold proceed
    split
    next => exact finalStays_refl host.tables
    next item rest _ => exact proceedItem_finalStays host rest call item
  | restart now => exact (@restart_spares options.approvals host.process now).final
  | _ => exact between _

theorem run_finalStays {ops : List HostOp} :
    FinalStays host.tables (run (step options) host ops).tables :=
  run_relates (step options) (fun _ => True)
    (fun before after => FinalStays before.tables after.tables)
    (fun host => finalStays_refl host.tables)
    (fun _ _ _ first second requestId row found isFinal =>
      second requestId row (first requestId row found isFinal) isFinal)
    (fun _ _ _ => trivial) (fun host op _ => step_finalStays host op) host ops trivial

def smallHost : HostOptions where
  approvals :=
    { sha256 := fun _ => "digest", timeoutMs := 1000, shellExecutable := "/bin/sh" }
  runs := mainHost

def listing : ProcessCall where
  input :=
    { command := .argv "ls" none, cwd := none, env := none, background := none, timeoutMs := none }
  context :=
    { runId := "r1"
      attemptId := "a1"
      conversationId := "c1"
      workspaceId := "main"
      toolCallId := "call" }
  cwdRelative := "."

def asking : ExecutionPolicy where
  defaultDecision := .prompt
  rules := []

def askedOps : List HostOp :=
  [ .ledger (.other (.createConversation
      { conversationId := "c1"
        workspaceId := "main" })),
    .ledger (.other (.send
      { workspaceId := "main", conversationId := "c1", submissionKey := "s1", text := "go" }
      (callAt 1 ["m1", "r1", "a1", "e1"]))),
    .ledger (.other (.startExecution
      { runId := "r1"
        providerId := "provider"
        modelId := "model"
        budget := smallBudget.execution }
      (callAt 2 ["a2", "e2", "e3", "e4"]))),
    .process (.authorize listing asking 10
      (fun index => if index = 0 then "execution" else "request")),
    .ledger (.other (.waitForApproval "r1" "request" 0 (callAt 11 ["e5", "e6", "e7"]))) ]

def listedOps : List HostOp := askedOps ++ [.list 2000] ++ .tick 2250 :: []

/-- The request is denied, and its answer goes its three steps. -/
def deniedOps : List HostOp :=
  askedOps ++
    [ .resolve "request" 1 .deny 20,
      .proceed (callAt 21 []),
      .proceed (callAt 22 ["m2", "e8", "e9"]),
      .proceed (callAt 23 []) ] ++ .tick 250 :: []

end OpenRill.Approvals.EndedRequests
