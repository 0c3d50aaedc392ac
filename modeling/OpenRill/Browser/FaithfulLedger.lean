import OpenRill.Browser.OperationLedger
import OpenRill.Lib.Runs

/-!
# A faithful ledger of browser operations

A ledger move keeps every ended row and ends open rows only; `Turned` says so, and what the
ledger promises of its rows follows from it. What it promises of the executions needs the row
of an execution to be its own: a tool call that is executed again goes on with an operation id
under which nothing is stored.
-/

namespace OpenRill.Browser.FaithfulLedger

open Lib Lib.Runs OperationLedger

variable {after : Ledger} {operationId : Nat} {row : OperationRow} {call : ToolCall}

def nonError : ToolEnding → Bool
  | .returned result => !result.isError
  | .threw _ => false

def eventsOf (ledger : Ledger) (operationId : Nat) : List (Nat × OperationStatus) :=
  (ledger.events.filter (fun event => event.operationId = operationId)).map
    (fun event => (event.sequence, event.eventType))

def expectedEvents (status : OperationStatus) : List (Nat × OperationStatus) :=
  (1, .started) :: if status = .started then [] else [(2, status)]

def Records (operationId : Nat) (execution : Execution) (row : OperationRow) : Prop :=
  row.call.runId = execution.call.runId ∧ row.call.toolCallId = execution.call.toolCallId ∧
    (execution.call.toolCallId = none → row.operationId = operationId)

def Succeeded (host : Host) (operationId : Nat) (execution : Execution) : Prop :=
  ∃ row ∈ host.ledger.operations.rows, Records operationId execution row ∧ row.status = .succeeded

structure Faithful (host : Host) : Prop where
  once : ∀ first ∈ host.ledger.operations.rows, ∀ second ∈ host.ledger.operations.rows,
    first.call.runId = second.call.runId → first.call.toolCallId = second.call.toolCallId →
      first.call.toolCallId ≠ none → first = second
  events : ∀ row ∈ host.ledger.operations.rows,
    eventsOf host.ledger row.operationId = expectedEvents row.status
  truthful : ∀ operationId execution ending outcome,
    host.executions operationId = some execution → execution.phase = .settled ending outcome →
      (Succeeded host operationId execution ↔ nonError ending = true)
  told : ∀ operationId execution ending, host.executions operationId = some execution →
    execution.phase = .lost (some ending) → nonError ending = true →
      Succeeded host operationId execution
  earned : ∀ row ∈ host.ledger.operations.rows, row.status = .succeeded →
    ∃ operationId execution ending outcome, host.executions operationId = some execution ∧
      Records operationId execution row ∧ execution.phase = .settled ending outcome ∧
      nonError ending = true
  found : ∀ operationId execution ending outcome missing,
    host.executions operationId = some execution → execution.phase = .settled ending outcome →
      outcome ≠ .error (.ledger (.operationNotFound missing))

def TerminalKept (before after : Ledger) : Prop :=
  ∀ operationId row, before.operations.find operationId = some row → row.status ≠ .started →
    after.operations.find operationId = some row

def storable : ToolEnding → Bool
  | .returned result => consistent (ledgerCompletion result)
  | .threw _ => true

/-- An execution that goes on after its tool has a row of its own, and when the result is no error
its completion is stored; no restart comes between such a result and its completion. -/
def Careful (host : Host) : HostOp → Prop
  | .settle operationId _ refused _ =>
    match host.executions operationId with
    | some ⟨_, .ended ending⟩ =>
      (host.ledger.operations.find operationId).isSome = true ∧
        (nonError ending = true → refused = false ∧ storable ending = true)
    | _ => True
  | .restart _ _ =>
    ∀ operationId < host.nextOperationId,
      match host.executions operationId with
      | some ⟨_, .ended ending⟩ => nonError ending = false
      | _ => True
  | _ => True

instance (host : Host) (op : HostOp) : Decidable (Careful host op) := by
  unfold Careful
  split
  · split <;> infer_instance
  · have : ∀ operationId, Decidable (match host.executions operationId with
      | some ⟨_, .ended ending⟩ => nonError ending = false
      | _ => True) := by
      intro operationId
      split <;> infer_instance
    infer_instance
  · infer_instance

variable {turns : Nat → OperationStatus → Prop} {before middle : Ledger}
variable {next completedAt startedAt : Nat} {refused : Bool}

/-- Rows are kept, but for open ones that are ended as `turns` says. -/
def Turned (turns : Nat → OperationStatus → Prop) (before after : Ledger) : Prop :=
  ∀ operationId, after.operations.find operationId = before.operations.find operationId ∨
    ∃ old row, before.operations.find operationId = some old ∧
      after.operations.find operationId = some row ∧ old.status = .started ∧
      row.call = old.call ∧ row.status ≠ .started ∧ turns operationId row.status

theorem turned_refl (ledger : Ledger) : Turned turns ledger ledger :=
  fun _ => Or.inl rfl

theorem turned_trans (first : Turned turns before middle) (second : Turned turns middle after) :
    Turned turns before after := by
  intro operationId
  rcases first operationId with same | ⟨old, row, isOld, isRow, isOpen, sameCall, isOver, turn⟩
  · rw [← same]
    exact second operationId
  · rcases second operationId with same | ⟨other, _, isOther, _, opened, _⟩
    · exact Or.inr ⟨old, row, isOld, same.trans isRow, isOpen, sameCall, isOver, turn⟩
    · rw [Option.some.inj (isRow.symm.trans isOther)] at isOver
      exact absurd opened isOver

theorem terminalKept_of_turned (turned : Turned turns before after) :
    TerminalKept before after := by
  intro operationId row found isOver
  rcases turned operationId with same | ⟨old, _, isOld, _, isOpen, _⟩
  · exact same.trans found
  · rw [Option.some.inj (found.symm.trans isOld)] at isOver
    exact absurd isOpen isOver

theorem origin_of_turned (turned : Turned turns before after)
    (found : after.operations.find operationId = some row) :
    ∃ old, before.operations.find operationId = some old ∧ row.call = old.call := by
  rcases turned operationId with same | ⟨old, other, isOld, isOther, _, sameCall, _⟩
  · exact ⟨row, same.symm.trans found, rfl⟩
  · rw [Option.some.inj (found.symm.trans isOther)]
    exact ⟨old, isOld, sameCall⟩

structure LedgerSound (next : Nat) (ledger : Ledger) : Prop where
  once : ∀ first second one other, ledger.operations.find first = some one →
    ledger.operations.find second = some other → one.call.runId = other.call.runId →
      one.call.toolCallId = other.call.toolCallId → one.call.toolCallId ≠ none → first = second
  events : ∀ operationId row, ledger.operations.find operationId = some row →
    eventsOf ledger operationId = expectedEvents row.status
  rowsBound : ∀ operationId row, ledger.operations.find operationId = some row → operationId < next
  eventsBound : ∀ event ∈ ledger.events, event.operationId < next

theorem LedgerSound.later (sound : LedgerSound next before) : LedgerSound (next + 1) before where
  once := sound.once
  events := sound.events
  rowsBound operationId row found := Nat.lt_succ_of_lt (sound.rowsBound operationId row found)
  eventsBound event eventIn := Nat.lt_succ_of_lt (sound.eventsBound event eventIn)

theorem eventsOf_append (ledger : Ledger) (event : OperationEvent) (operations) (wanted : Nat) :
    eventsOf ⟨operations, ledger.events ++ [event]⟩ wanted =
      eventsOf ledger wanted ++
        if event.operationId = wanted then [(event.sequence, event.eventType)] else [] := by
  unfold eventsOf
  by_cases own : event.operationId = wanted
  · simp [own]
  · simp [own]

theorem endOperation_moves (sound : LedgerSound next before)
    {completion : OperationRow → Completion} {status : OperationStatus}
    (isStatus : ∀ row, (completion row).status = status) (isOver : status ≠ .started)
    (ended : endOperation before operationId completion completedAt = some after) :
    LedgerSound next after ∧
      Turned (fun wanted turn => wanted = operationId ∧ turn = status) before after ∧
      ∃ row, after.operations.find operationId = some row ∧ row.status = status := by
  unfold endOperation at ended
  split at ended
  next row found =>
    split at ended
    next isOpen =>
      cases Option.some.inj ended
      have isKey := before.operations.key_of_find found
      have stored : before.operations.find (endedRow row (completion row) completedAt).operationId =
          some row := before.operations.find_self found
      have lookup := before.operations.find_update _ stored
      have own : (before.operations.update (endedRow row (completion row) completedAt)).find
          operationId = some (endedRow row (completion row) completedAt) :=
        (lookup operationId).trans (if_pos isKey)
      have others : ∀ wanted, wanted ≠ operationId →
          (before.operations.update (endedRow row (completion row) completedAt)).find wanted =
            before.operations.find wanted := by
        intro wanted different
        exact (lookup wanted).trans (if_neg fun same => different (same.symm.trans isKey))
      have turned : Turned (fun wanted turn => wanted = operationId ∧ turn = status) before
          ⟨before.operations.update (endedRow row (completion row) completedAt),
            before.events ++ [⟨operationId, 2, (completion row).status, completedAt⟩]⟩ := by
        intro wanted
        by_cases same : wanted = operationId
        · rw [same]
          refine Or.inr ⟨row, _, found, own, isOpen, rfl, ?_, rfl, isStatus row⟩
          rw [← isStatus row] at isOver
          exact isOver
        · exact Or.inl (others wanted same)
      refine ⟨⟨?_, ?_, ?_, ?_⟩, turned, _, own, isStatus row⟩
      · intro first second one other isOne isOther sameRun sameCall present
        obtain ⟨oldOne, wasOne, callOne⟩ := origin_of_turned turned isOne
        obtain ⟨oldOther, wasOther, callOther⟩ := origin_of_turned turned isOther
        rw [callOne, callOther] at sameRun sameCall
        rw [callOne] at present
        exact sound.once first second oldOne oldOther wasOne wasOther sameRun sameCall present
      · intro wanted other isOther
        rw [eventsOf_append]
        by_cases same : wanted = operationId
        · rw [same] at isOther ⊢
          rw [← Option.some.inj (own.symm.trans isOther), if_pos rfl,
            sound.events operationId row found]
          simp [expectedEvents, isOpen, endedRow, isStatus row, isOver]
        · rw [if_neg fun own => same own.symm, List.append_nil]
          exact sound.events wanted other ((others wanted same).symm.trans isOther)
      · intro wanted other isOther
        obtain ⟨old, wasOld, -⟩ := origin_of_turned turned isOther
        exact sound.rowsBound wanted old wasOld
      · intro event eventIn
        rcases List.mem_append.mp eventIn with earlier | isNew
        · exact sound.eventsBound event earlier
        · rw [List.mem_singleton.mp isNew]
          exact sound.rowsBound operationId row found
    next => cases ended
  next => cases ended

theorem recover_moves (sound : LedgerSound next before) (recoveredAt : Nat) :
    LedgerSound next (recoverInterruptedOperations before recoveredAt) ∧
      Turned (fun _ turn => turn = .interrupted) before
        (recoverInterruptedOperations before recoveredAt) := by
  unfold recoverInterruptedOperations
  generalize orderBy OperationRow.startedAt _ = rows
  induction rows generalizing before with
  | nil => exact ⟨sound, turned_refl before⟩
  | cons row rows ih =>
    rw [List.foldl_cons]
    unfold interruptOperation
    cases ended : endOperation before row.operationId interruption recoveredAt with
    | none => exact ih sound
    | some middle =>
      have isStatus : ∀ row, (interruption row).status = .interrupted := fun _ => rfl
      obtain ⟨soundNext, turned, -⟩ := endOperation_moves sound isStatus nofun ended
      obtain ⟨soundLast, later⟩ := ih soundNext
      refine ⟨soundLast, turned_trans (fun operationId => ?_) later⟩
      rcases turned operationId with same | ⟨old, new, isOld, isNew, isOpen, sameCall, isOver, turn⟩
      · exact Or.inl same
      · exact Or.inr ⟨old, new, isOld, isNew, isOpen, sameCall, isOver, turn.2⟩

theorem begin_cases (begun : begin before operationId call startedAt refused = .ok after) :
    after = before ∨ callTaken before call = false ∧ ∃ operations,
      before.operations.insert (startedRow operationId call startedAt) = some operations ∧
      after = ⟨operations, before.events ++ [⟨operationId, 1, .started, startedAt⟩]⟩ := by
  unfold begin beginOperation at begun
  split at begun
  next => cases begun
  next =>
    split at begun
    next =>
      split at begun
      next => cases begun
      next => exact Or.inl (Except.ok.inj begun).symm
    next =>
      split at begun
      next => cases begun
      next free =>
        split at begun
        next => cases begun
        next operations inserted =>
          have untaken : callTaken before call = false :=
            Bool.eq_false_iff.mpr fun taken => free (Or.inr taken)
          exact Or.inr ⟨untaken, operations, inserted, (Except.ok.inj begun).symm⟩

theorem untaken_call (untaken : callTaken before call = false)
    (found : before.operations.find operationId = some row) (sameRun : call.runId = row.call.runId)
    (sameCall : call.toolCallId = row.call.toolCallId) : call.toolCallId = none := by
  cases isCallId : call.toolCallId with
  | none => rfl
  | some toolCallId =>
    unfold callTaken getOperationByToolCall at untaken
    rw [isCallId, Option.any_some] at untaken
    have missed := List.find?_eq_none.mp (Option.not_isSome_iff_eq_none.mp
      (Bool.eq_false_iff.mp untaken)) row (before.operations.mem_of_find found)
    exact absurd (decide_eq_true ⟨sameRun.symm, sameCall.symm.trans isCallId⟩) missed

theorem begin_moves (sound : LedgerSound next before)
    (begun : begin before next call startedAt refused = .ok after) :
    LedgerSound (next + 1) after ∧
      (∀ operationId, operationId ≠ next →
        after.operations.find operationId = before.operations.find operationId) ∧
      ∀ row, after.operations.find next = some row → row.call = call ∧ row.status = .started := by
  rcases begin_cases begun with isBefore | ⟨untaken, operations, inserted, isAfter⟩
  · rw [isBefore]
    refine ⟨sound.later, fun _ _ => rfl, ?_⟩
    intro row found
    exact absurd (sound.rowsBound next row found) (Nat.lt_irrefl next)
  · rw [isAfter]
    have lookup := fun wanted => before.operations.find_insert operations _ wanted inserted
    have own : operations.find next = some (startedRow next call startedAt) :=
      (lookup next).trans (if_pos rfl)
    have others : ∀ wanted, wanted ≠ next →
        operations.find wanted = before.operations.find wanted :=
      fun wanted different => (lookup wanted).trans (if_neg fun same => different same.symm)
    refine ⟨⟨?_, ?_, ?_, ?_⟩, others, ?_⟩
    · intro first second one other isOne isOther sameRun sameCall present
      by_cases newFirst : first = next
      · by_cases newSecond : second = next
        · exact newFirst.trans newSecond.symm
        · rw [newFirst, own] at isOne
          rw [others second newSecond] at isOther
          rw [← Option.some.inj isOne] at sameRun sameCall present
          exact absurd (untaken_call untaken isOther sameRun sameCall) present
      · rw [others first newFirst] at isOne
        by_cases newSecond : second = next
        · rw [newSecond, own] at isOther
          rw [← Option.some.inj isOther] at sameRun sameCall
          have missing := untaken_call untaken isOne sameRun.symm sameCall.symm
          exact absurd (sameCall.trans missing) present
        · rw [others second newSecond] at isOther
          exact sound.once first second one other isOne isOther sameRun sameCall present
    · intro wanted row found
      rw [eventsOf_append]
      by_cases isNew : wanted = next
      · rw [isNew, own] at found
        have unheard : eventsOf before next = [] := by
          unfold eventsOf
          rw [List.map_eq_nil_iff, List.filter_eq_nil_iff]
          intro event eventIn isOwn
          have bound := sound.eventsBound event eventIn
          rw [of_decide_eq_true isOwn] at bound
          exact Nat.lt_irrefl next bound
        rw [isNew, unheard, if_pos rfl, ← Option.some.inj found]
        rfl
      · rw [others wanted isNew] at found
        rw [if_neg fun same => isNew same.symm, List.append_nil]
        exact sound.events wanted row found
    · intro wanted row found
      by_cases isNew : wanted = next
      · exact isNew ▸ Nat.lt_succ_self next
      · rw [others wanted isNew] at found
        exact Nat.lt_succ_of_lt (sound.rowsBound wanted row found)
    · intro event eventIn
      rcases List.mem_append.mp eventIn with earlier | isNew
      · exact Nat.lt_succ_of_lt (sound.eventsBound event earlier)
      · rw [List.mem_singleton.mp isNew]
        exact Nat.lt_succ_self next
    · intro row found
      rw [← Option.some.inj (own.symm.trans found)]
      exact ⟨rfl, rfl⟩

theorem completeOperation_cases {completion : Completion}
    (found : before.operations.find operationId = some row) (isOpen : row.status = .started) :
    (completeOperation before operationId completion completedAt refused = .error .writeRefused ∧
        (refused = true ∨ consistent completion = false)) ∨
      ∃ ended, completeOperation before operationId completion completedAt refused = .ok ended ∧
        endOperation before operationId (fun _ => completion) completedAt = some ended := by
  unfold completeOperation
  cases refused with
  | true => exact Or.inl ⟨rfl, Or.inl rfl⟩
  | false =>
    unfold endOperation
    rw [found]
    dsimp only
    rw [if_pos isOpen]
    cases fits : consistent completion with
    | false => exact Or.inl ⟨rfl, Or.inr rfl⟩
    | true => exact Or.inr ⟨_, rfl, rfl⟩

def Closed (next : Nat) (before : Ledger) (operationId : Nat) (ending : ToolEnding)
    (reached : Ledger × Outcome) : Prop :=
  LedgerSound next reached.1 ∧
    (∃ status, Turned (fun wanted turn => wanted = operationId ∧ turn = status) before reached.1) ∧
    (∃ row, reached.1.operations.find operationId = some row ∧
      (row.status = .succeeded ↔ nonError ending = true)) ∧
    ∀ missing, reached.2 ≠ .error (.ledger (.operationNotFound missing))

theorem catchError_closed (sound : LedgerSound next before)
    (found : before.operations.find operationId = some row) (isOpen : row.status = .started)
    {ending : ToolEnding} (wrong : nonError ending = false) {thrown : Thrown}
    (own : ∀ missing, thrown ≠ .ledger (.operationNotFound missing)) (refused : Bool) :
    Closed next before operationId ending
      (catchError before operationId thrown completedAt refused) := by
  unfold catchError
  rcases completeOperation_cases found isOpen with ⟨isRefused, -⟩ | ⟨after, isDone, ended⟩
  · rw [isRefused]
    refine ⟨sound, ⟨.failed, turned_refl before⟩, ⟨row, found, ?_⟩, fun _ same => by cases same⟩
    rw [isOpen, wrong]
    decide
  · rw [isDone]
    have settles : ∀ row : OperationRow, (failedCompletion thrown).status = .failed := fun _ => rfl
    obtain ⟨soundNext, turned, last, isLast, isStatus⟩ :=
      endOperation_moves sound settles nofun ended
    refine ⟨soundNext, ⟨_, turned⟩, ⟨last, isLast, ?_⟩, ?_⟩
    · rw [isStatus, wrong]
      decide
    · intro missing same
      exact own missing (Except.error.inj same)

theorem finishExecution_closed (sound : LedgerSound next before) {operationId completedAt : Nat}
    {row : OperationRow} (found : before.operations.find operationId = some row)
    (isOpen : row.status = .started) {ending : ToolEnding} {refused : Bool}
    (stores : nonError ending = true → refused = false ∧ storable ending = true)
    (refusedAgain : Bool) :
    Closed next before operationId ending
      (finishExecution before operationId ending completedAt refused refusedAgain) := by
  cases ending with
  | threw code => exact catchError_closed sound found isOpen rfl (fun _ own => by cases own) refused
  | returned result =>
    unfold finishExecution
    dsimp only
    rcases completeOperation_cases found isOpen with ⟨isRefused, why⟩ | ⟨after, isDone, ended⟩
    · rw [isRefused]
      have wrong : nonError (.returned result) = false := by
        cases isGood : nonError (.returned result) with
        | false => rfl
        | true =>
          obtain ⟨writes, fits⟩ := stores isGood
          rcases why with notWritten | unfit
          · cases writes.symm.trans notWritten
          · cases fits.symm.trans unfit
      exact catchError_closed sound found isOpen wrong (fun _ same => by cases same) refusedAgain
    · rw [isDone]
      have isOver : (ledgerCompletion result).status ≠ .started := by
        unfold ledgerCompletion
        dsimp only
        split <;> decide
      obtain ⟨soundNext, turned, last, isLast, isStatus⟩ :=
        endOperation_moves sound (fun _ => rfl) isOver ended
      refine ⟨soundNext, ⟨_, turned⟩, ⟨last, isLast, ?_⟩, fun _ same => by cases same⟩
      rw [isStatus]
      cases isError : result.isError with
      | false => simp [ledgerCompletion, nonError, isError]
      | true => simp [ledgerCompletion, nonError, isError]

variable {host : Host} {ledger : Ledger} {execution : Execution}

def Agrees : Phase → OperationStatus → Prop
  | .running, status => status = .started
  | .ended _, status => status = .started
  | .settled ending _, status => status = .succeeded ↔ nonError ending = true
  | .lost _, status => status ≠ .succeeded

/-- What holds of an execution, next to the row under its operation id. -/
structure Fits (ledger : Ledger) (operationId : Nat) (execution : Execution) : Prop where
  agrees : ∀ row, ledger.operations.find operationId = some row →
    row.call = execution.call ∧ Agrees execution.phase row.status
  settled : ∀ ending outcome, execution.phase = .settled ending outcome →
    (ledger.operations.find operationId).isSome = true ∧
      ∀ missing, outcome ≠ .error (.ledger (.operationNotFound missing))
  spared : ∀ ending, execution.phase = .lost (some ending) → nonError ending = false

structure Sound (host : Host) : Prop where
  ledger : LedgerSound host.nextOperationId host.ledger
  bound : ∀ operationId execution, host.executions operationId = some execution →
    operationId < host.nextOperationId
  owned : ∀ operationId row, host.ledger.operations.find operationId = some row →
    (host.executions operationId).isSome = true
  fits : ∀ operationId execution, host.executions operationId = some execution →
    Fits host.ledger operationId execution

def Moves (host reached : Host) : Prop :=
  Sound reached ∧ TerminalKept host.ledger reached.ledger

theorem moves_refl (sound : Sound host) : Moves host host :=
  ⟨sound, fun _ _ found _ => found⟩

theorem fits_same (fits : Fits ledger operationId execution)
    (same : after.operations.find operationId = ledger.operations.find operationId) :
    Fits after operationId execution where
  agrees := same ▸ fits.agrees
  settled := same ▸ fits.settled
  spared := fits.spared

theorem fits_open {phase : Phase} (goesOn : phase = .running ∨ ∃ ending, phase = .ended ending)
    (isOpen : ∀ row, ledger.operations.find operationId = some row →
      row.call = call ∧ row.status = .started) : Fits ledger operationId ⟨call, phase⟩ := by
  rcases goesOn with rfl | ⟨ending, rfl⟩
  · exact ⟨isOpen, (fun _ _ same => by cases same), (fun _ same => by cases same)⟩
  · exact ⟨isOpen, (fun _ _ same => by cases same), (fun _ same => by cases same)⟩

theorem put_moves {reached : Host} (sound : Sound host)
    (written : reached.executions = (putExecution host operationId execution).executions)
    (ledgerSound : LedgerSound reached.nextOperationId reached.ledger)
    (later : host.nextOperationId ≤ reached.nextOperationId)
    (inside : operationId < reached.nextOperationId) (others : ∀ wanted, wanted ≠ operationId →
      reached.ledger.operations.find wanted = host.ledger.operations.find wanted)
    (kept : TerminalKept host.ledger reached.ledger)
    (fits : Fits reached.ledger operationId execution) : Moves host reached := by
  have own : reached.executions operationId = some execution := by
    rw [written]
    exact if_pos rfl
  have left : ∀ wanted, wanted ≠ operationId →
      reached.executions wanted = host.executions wanted := by
    intro wanted different
    rw [written]
    exact if_neg different
  refine ⟨⟨ledgerSound, ?_, ?_, ?_⟩, kept⟩
  · intro wanted other isOther
    by_cases same : wanted = operationId
    · exact same ▸ inside
    · exact Nat.lt_of_lt_of_le (sound.bound wanted other ((left wanted same).symm.trans isOther))
        later
  · intro wanted row found
    by_cases same : wanted = operationId
    · rw [same, own]
      rfl
    · rw [left wanted same]
      exact sound.owned wanted row ((others wanted same).symm.trans found)
  · intro wanted other isOther
    by_cases same : wanted = operationId
    · rw [same] at isOther ⊢
      rw [← Option.some.inj (own.symm.trans isOther)]
      exact fits
    · exact fits_same (sound.fits wanted other ((left wanted same).symm.trans isOther))
        (others wanted same)

theorem fits_lost (fits : Fits ledger operationId execution)
    (early : ∀ ending, execution.phase = .ended ending → nonError ending = false)
    (turned : Turned (fun _ turn => turn = .interrupted) ledger after) :
    Fits after operationId execution.lose := by
  have known : ∀ row, after.operations.find operationId = some row → row.call = execution.call ∧
      ∃ status, Agrees execution.phase status ∧
        (row.status = status ∨ status = .started ∧ row.status = .interrupted) := by
    intro row found
    rcases turned operationId with same | ⟨old, other, isOld, isOther, isOpen, sameCall, -, turn⟩
    · obtain ⟨isCall, agrees⟩ := fits.agrees row (same.symm.trans found)
      exact ⟨isCall, row.status, agrees, Or.inl rfl⟩
    · rw [Option.some.inj (found.symm.trans isOther)]
      obtain ⟨isCall, agrees⟩ := fits.agrees old isOld
      exact ⟨sameCall.trans isCall, old.status, agrees, Or.inr ⟨isOpen, turn⟩⟩
  obtain ⟨call, phase⟩ := execution
  constructor
  · intro row found
    obtain ⟨isCall, status, agrees, isStatus⟩ := known row found
    refine ⟨isCall, ?_⟩
    cases phase <;> rcases isStatus with same | ⟨isOpen, isInterrupted⟩ <;>
      simp_all [Agrees, Execution.lose]
  · intro ending outcome isSettled
    have wasSettled : phase = .settled ending outcome := by
      cases phase with
      | settled _ _ => exact isSettled
      | _ => cases isSettled
    obtain ⟨isStored, named⟩ := fits.settled ending outcome wasSettled
    refine ⟨?_, named⟩
    rcases turned operationId with same | ⟨_, row, _, isRow, _⟩
    · rw [same]
      exact isStored
    · rw [isRow]
      rfl
  · intro ending isLost
    cases phase with
    | running => cases isLost
    | settled _ _ => cases isLost
    | lost _ => exact fits.spared ending isLost
    | ended other =>
      cases isLost
      exact early _ rfl

theorem step_moves (host : Host) (op : HostOp) (careful : Careful host op) (sound : Sound host) :
    Moves host (step host op) := by
  cases op with
  | execute call startedAt refused =>
    unfold step
    dsimp only
    split
    next =>
      refine ⟨⟨sound.ledger.later, ?_, sound.owned, sound.fits⟩, fun _ _ found _ => found⟩
      intro operationId execution isExecution
      exact Nat.lt_succ_of_lt (sound.bound operationId execution isExecution)
    next ledger begun =>
      obtain ⟨ledgerSound, others, own⟩ := begin_moves sound.ledger begun
      refine put_moves sound rfl ledgerSound (Nat.le_succ _) (Nat.lt_succ_self _) others ?_
        (fits_open (Or.inl rfl) own)
      intro operationId row found _
      exact (others operationId (Nat.ne_of_lt (sound.ledger.rowsBound _ _ found))).trans found
  | toolEnds operationId ending =>
    unfold step
    dsimp only
    split
    next call isExecution =>
      have fits := sound.fits operationId _ isExecution
      exact put_moves sound rfl sound.ledger (Nat.le_refl _)
        (sound.bound operationId _ isExecution) (fun _ _ => rfl) (fun _ _ found _ => found)
        (fits_open (Or.inr ⟨ending, rfl⟩) fits.agrees)
    next => exact moves_refl sound
  | settle operationId completedAt refused refusedAgain =>
    unfold step
    dsimp only
    split
    next call ending isExecution =>
      have fits := sound.fits operationId _ isExecution
      simp only [Careful, isExecution] at careful
      obtain ⟨isStored, stores⟩ := careful
      obtain ⟨row, found⟩ := Option.isSome_iff_exists.mp isStored
      obtain ⟨isCall, isOpen⟩ := fits.agrees row found
      have closed := @finishExecution_closed _ _ sound.ledger _ completedAt _ found isOpen _ _
        stores refusedAgain
      obtain ⟨ledgerSound, ⟨status, turned⟩, ⟨last, isLast, agrees⟩, named⟩ := closed
      refine put_moves sound rfl ledgerSound (Nat.le_refl _)
        (sound.bound operationId _ isExecution) ?_ (terminalKept_of_turned turned)
        ⟨?_, ?_, fun _ same => by cases same⟩
      · intro wanted different
        rcases turned wanted with same | ⟨_, _, _, _, _, _, _, own, _⟩
        · exact same
        · exact absurd own different
      · intro other isOther
        obtain ⟨old, isOld, sameCall⟩ := origin_of_turned turned isOther
        rw [Option.some.inj (found.symm.trans isOld)] at isCall
        rw [Option.some.inj (isLast.symm.trans isOther)] at agrees
        exact ⟨sameCall.trans isCall, agrees⟩
      · rintro _ _ ⟨⟩
        exact ⟨isLast ▸ rfl, named⟩
    next => exact moves_refl sound
  | restart recoveredAt refused =>
    have moved : ∃ after, after = (step host (.restart recoveredAt refused)).ledger ∧
        LedgerSound host.nextOperationId after ∧
        Turned (fun _ turn => turn = .interrupted) host.ledger after := by
      cases refused with
      | true => exact ⟨_, rfl, sound.ledger, turned_refl _⟩
      | false => exact ⟨_, rfl, recover_moves sound.ledger recoveredAt⟩
    obtain ⟨after, rfl, ledgerSound, turned⟩ := moved
    refine ⟨⟨ledgerSound, ?_, ?_, ?_⟩, terminalKept_of_turned turned⟩
    · intro operationId execution isExecution
      obtain ⟨old, isOld, -⟩ := Option.map_eq_some_iff.mp isExecution
      exact sound.bound operationId old isOld
    · intro operationId row found
      obtain ⟨old, isOld, -⟩ := origin_of_turned turned found
      exact (Option.isSome_map ..).trans (sound.owned operationId old isOld)
    intro operationId execution isExecution
    obtain ⟨old, isOld, rfl⟩ := Option.map_eq_some_iff.mp isExecution
    refine fits_lost (sound.fits operationId old isOld) ?_ turned
    intro ending isEnded
    have early := careful operationId (sound.bound operationId old isOld)
    rw [isOld, show old = ⟨old.call, .ended ending⟩ from isEnded ▸ rfl] at early
    exact early

theorem succeeded_iff (sound : Sound host)
    (found : host.ledger.operations.find operationId = some row)
    (isCall : row.call = execution.call) :
    Succeeded host operationId execution ↔ row.status = .succeeded := by
  have isKey := host.ledger.operations.key_of_find found
  constructor
  · rintro ⟨other, otherIn, ⟨sameRun, sameCall, sameId⟩, succeeded⟩
    have isOther := host.ledger.operations.find_of_mem otherIn
    have same : operationId = other.operationId := by
      rw [← isCall] at sameRun sameCall sameId
      by_cases unnamed : row.call.toolCallId = none
      · exact (sameId unnamed).symm
      · exact sound.ledger.once _ _ row other found isOther sameRun.symm sameCall.symm unnamed
    rw [← same, found] at isOther
    rw [Option.some.inj isOther]
    exact succeeded
  · intro succeeded
    refine ⟨row, host.ledger.operations.mem_of_find found, ⟨?_, ?_, fun _ => isKey⟩, succeeded⟩
    · rw [isCall]
    · rw [isCall]

theorem faithful_of_sound (sound : Sound host) : Faithful host where
  once first firstIn second secondIn sameRun sameCall named := by
    have isFirst := host.ledger.operations.find_of_mem firstIn
    have isSecond := host.ledger.operations.find_of_mem secondIn
    exact host.ledger.operations.row_unique firstIn secondIn
      (sound.ledger.once _ _ first second isFirst isSecond sameRun sameCall named)
  events row rowIn := sound.ledger.events _ row (host.ledger.operations.find_of_mem rowIn)
  truthful operationId execution ending outcome isExecution isSettled := by
    have fits := sound.fits operationId execution isExecution
    obtain ⟨row, found⟩ := Option.isSome_iff_exists.mp (fits.settled ending outcome isSettled).1
    obtain ⟨isCall, agrees⟩ := fits.agrees row found
    rw [isSettled] at agrees
    exact (succeeded_iff sound found isCall).trans agrees
  told operationId execution ending isExecution isLost isGood := by
    rw [(sound.fits operationId execution isExecution).spared ending isLost] at isGood
    cases isGood
  earned row rowIn succeeded := by
    have found := host.ledger.operations.find_of_mem rowIn
    obtain ⟨⟨call, phase⟩, isExecution⟩ :=
      Option.isSome_iff_exists.mp (sound.owned row.operationId row found)
    obtain ⟨isCall, agrees⟩ := (sound.fits _ _ isExecution).agrees row found
    rw [succeeded] at agrees
    cases phase with
    | running => cases agrees
    | ended ending => cases agrees
    | lost ending => exact absurd rfl agrees
    | settled ending outcome =>
      refine ⟨_, _, ending, outcome, isExecution, ⟨?_, ?_, fun _ => rfl⟩, rfl, agrees.mp rfl⟩
      · rw [isCall]
      · rw [isCall]
  found operationId execution ending outcome missing isExecution isSettled :=
    ((sound.fits operationId execution isExecution).settled ending outcome isSettled).2 missing

theorem sound_empty : Sound Host.empty := by
  refine ⟨⟨?_, ?_, ?_, ?_⟩, ?_, ?_, ?_⟩
  all_goals simp [Host.empty, Table.empty, Table.find]

/-- The ledger is faithful in every run whose executions go on with rows of their own, and in which
the completion of a result that is no error is stored. -/
theorem ledger_faithful (earlier later : List HostOp)
    (careful : EveryStep step Careful Host.empty (earlier ++ later)) :
    Faithful (run step Host.empty (earlier ++ later)) ∧
      TerminalKept (run step Host.empty earlier).ledger
        (run step Host.empty (earlier ++ later)).ledger := by
  obtain ⟨before, after⟩ := (everyStep_append step Careful Host.empty earlier later).mp careful
  have sound := run_invariant_of_everyStep step Careful Sound
    (fun host op meets sound => (step_moves host op meets sound).1) _ earlier sound_empty before
  rw [run_append]
  generalize run step Host.empty earlier = host at sound after ⊢
  have reached := run_invariant_of_everyStep step Careful (Moves host)
    (fun middle op meets moved =>
      ⟨(step_moves middle op meets moved.1).1, fun operationId row found isOver =>
        (step_moves middle op meets moved.1).2 operationId row
          (moved.2 operationId row found isOver) isOver⟩)
    host later (moves_refl sound) after
  exact ⟨faithful_of_sound reached.1, reached.2⟩

def sampleCall : ToolCall where
  runId := "run"
  attemptId := "attempt"
  conversationId := some "conversation"
  toolCallId := some "call"
  toolName := "browser.open"
  inputSha256 := ""
  sessionId := none
  pageId := none

def sampleResult : ToolExecutionResult where
  isError := false
  errorCode := none
  documentGeneration := none
  url := none
  artifactId := none

def sampleRun : List HostOp :=
  [.execute sampleCall 0 false, .toolEnds 0 (.returned sampleResult), .settle 0 1 false false]

theorem sample_call_faithful :
    Faithful (run step Host.empty (sampleRun ++ [.restart 2 false])) ∧
      TerminalKept (run step Host.empty sampleRun).ledger
        (run step Host.empty (sampleRun ++ [.restart 2 false])).ledger :=
  ledger_faithful sampleRun [.restart 2 false] (by decide)

/-- The tool call is executed again: the tool runs, and its row is not found. -/
theorem call_again_unfaithful :
    ¬ Faithful (run step Host.empty
      (sampleRun ++ [.execute sampleCall 2 false, .toolEnds 1 (.returned sampleResult),
        .settle 1 3 false false])) :=
  fun faithful => faithful.found 1 _ _ _ 1 rfl rfl rfl

end OpenRill.Browser.FaithfulLedger
