import OpenRill.Lib.EventLog
import OpenRill.Runs.LedgerRules

/-!
# Crash, resume, crash again

A running run is classified from its events: those after its last checkpoint
must be model requests and retries. The classification appends an event of its
own, and so do the preparation and the start of the next attempt, and none of
them is on that list. Whatever the rounds of recovery after a first
classification, the run is therefore not recoverable from the same checkpoint
again; only a wait for a delegation makes a restart keep it.
-/

namespace OpenRill.Runs.CrashRecovery

open Lib.Transaction State Ledger Delegations Lifecycle Operations LedgerRules

variable {events : List EventRow} {options : RunOptions} {now : Nat} {row : EventRow}
variable {recorded : List EventRow → Prop} {run : RunRow} {runId : String}
variable {tables reached : RunTables} {classification : RecoveryClassification}

/-- How a running run is interrupted: by the shutdown of its host, or by a crash
that the next start of the host finds. -/
inductive Crash where
  | shutdown (reason : String) (call : Call)
  | restart (call : Call)

variable {crash : Crash}

/-- What the recovery returns for the run, and the tables it leaves. -/
def Crash.outcome (options : RunOptions) (runId : String) (tables : RunTables) :
    Crash → Option (RecoveryClassification × RunTables)
  | .shutdown reason call =>
    match (interruptExecution options runId reason call.now call.createId).run tables.ledger with
    | .ok (classification, ledger) => some (classification, tables.withLedger ledger)
    | .error _ => none
  | .restart call =>
    match (recoverIncompleteRuns options call.now call.createId).run tables with
    | .ok (output, reached) =>
      (output.find? (fun classification => decide (classification.runId = runId))).map
        (fun classification => (classification, reached))
    | .error _ => none

def Crash.restarts : Crash → Bool
  | .shutdown _ _ => false
  | .restart _ => true

/-- What may happen to a run between two classifications when no tool call, delta
or assistant message is recorded. The last case is everything that records no
event of the run. -/
inductive Resumption (options : RunOptions) (runId : String) :
    RunTables → RunTables → Prop where
  | prepared (tables : RunTables) (call : Call) :
      Resumption options runId tables (step options tables (.prepareExecutionAttempt runId call))
  | started (tables : RunTables) (input : StartInput) (call : Call)
      (own : input.runId = runId) :
      Resumption options runId tables (step options tables (.startExecution input call))
  | requested (tables : RunTables) (input : EventInput) (call : Call)
      (own : input.runId = runId)
      (request : input.eventType = "model.requested" ∨ input.eventType = "model.retry") :
      Resumption options runId tables (step options tables (.appendEvent input call))
  | crashed (tables reached : RunTables) (crash : Crash)
      (classification : RecoveryClassification)
      (done : crash.outcome options runId tables = some (classification, reached)) :
      Resumption options runId tables reached
  | elsewhere (tables reached : RunTables)
      (silent : listEvents reached.ledger runId = listEvents tables.ledger runId) :
      Resumption options runId tables reached

abbrev Resumptions (options : RunOptions) (runId : String) :=
  Relation.ReflTransGen (Resumption options runId)

variable {later : List EventRow}

def checkpoint : String := "run.checkpoint"

def NoCheckpointSince (events later : List EventRow) : Prop :=
  ∃ added, later = events ++ added ∧ ∀ row ∈ added, row.eventType ≠ checkpoint

theorem noCheckpointSince_refl (events : List EventRow) : NoCheckpointSince events events :=
  ⟨[], by simp, by simp⟩

theorem noCheckpointSince_trans {first second third : List EventRow}
    (earlier : NoCheckpointSince first second) (later : NoCheckpointSince second third) :
    NoCheckpointSince first third :=
  Lib.EventLog.grows_trans earlier later

theorem noCheckpointSince_snoc (since : NoCheckpointSince events later) (row : EventRow)
    (plain : row.eventType ≠ checkpoint) : NoCheckpointSince events (later ++ [row]) := by
  apply noCheckpointSince_trans since
  exact ⟨[row], rfl, by simpa using plain⟩

theorem noCheckpointSince_run (since : NoCheckpointSince events later) (runId : String) :
    NoCheckpointSince (events.filter (fun row => decide (row.runId = runId)))
      (later.filter (fun row => decide (row.runId = runId))) := by
  obtain ⟨added, rfl, plain⟩ := since
  refine ⟨added.filter fun row => decide (row.runId = runId), by simp, ?_⟩
  intro row rowIn
  exact plain row (List.mem_filter.mp rowIn).1

theorem unrecoverable_after
    (unsafeEvent : row.eventType ≠ "model.requested" ∧ row.eventType ≠ "model.retry")
    (plain : row.eventType ≠ checkpoint) (since : NoCheckpointSince (events ++ [row]) later) :
    hasRecoverableCheckpoint later = false := by
  obtain ⟨added, rfl, addedPlain⟩ := since
  have suffix : row ∈ (events ++ [row] ++ added).reverse.takeWhile
      (fun row => row.eventType != "run.checkpoint") := by
    have passes : ∀ other ∈ added.reverse ++ [row],
        (other.eventType != "run.checkpoint") = true := by
      intro other otherIn
      rcases List.mem_append.mp otherIn with inAdded | isRow
      · simpa [checkpoint] using addedPlain other (List.mem_reverse.mp inAdded)
      · rw [List.mem_singleton.mp isRow]
        simpa [checkpoint] using plain
    have shape : (events ++ [row] ++ added).reverse =
        (added.reverse ++ [row]) ++ events.reverse := by
      simp
    rw [shape, List.takeWhile_append_of_pos passes]
    simp
  unfold hasRecoverableCheckpoint
  rw [Bool.and_eq_false_iff]
  right
  apply Bool.eq_false_iff.mpr
  intro all
  have request := List.all_eq_true.mp all row suffix
  simp [unsafeEvent.1, unsafeEvent.2] at request

variable {property : List EventRow → Prop} {input : EventInput} {eventId : String}

def OnEvents (property : List EventRow → Prop) (store : RunStore) : Prop :=
  property store.events

theorem rewriteAttempt_events (attemptId : String) {rewrite : AttemptRow → AttemptRow}
    {missing : String} : Keeps (OnEvents property) (rewriteAttempt attemptId rewrite missing) := by
  apply keeps_inspect
  intro _ _
  apply keeps_expect
  intro row _
  exact keeps_change fun store kept => kept

theorem setAttempt_events {attemptId : Option String} {status : AttemptStatus}
    {startedAt endedAt : Option Nat} {reason : Option String} :
    Keeps (OnEvents property) (setAttempt attemptId status startedAt endedAt reason now) := by
  cases attemptId with
  | none => exact keeps_pure ()
  | some attemptId => exact rewriteAttempt_events attemptId

theorem updateRun_events {rule : CompletionRule} {input : RunUpdate} :
    Keeps (OnEvents property) (updateRun rule input) :=
  updateRun_ensures (fun _ _ kept _ _ => kept) fun _ _ kept => kept

theorem nextEventSequence_events (runId : String) (now : Nat) :
    Keeps (OnEvents property) (nextEventSequence runId now) :=
  nextEventSequence_ensures fun _ _ kept _ _ => kept

theorem allocateEvent_events (extends_ : ∀ events row, property events → row.runId = input.runId →
      row.eventType = input.eventType → recorded (events ++ [row])) :
    Ensures (OnEvents property) (allocateEvent run input eventId) (fun _ => OnEvents recorded) := by
  apply ensures_demand_then
  intro _
  refine ensures_bind (nextEventSequence_events run.runId input.emittedAt) fun sequence => ?_
  have inserted : Ensures (OnEvents property) (insertEvent (input.toRow sequence eventId))
      (fun _ => OnEvents recorded) := by
    apply ensures_inspect_then
    intro _ _
    apply ensures_demand_then
    intro _
    apply ensures_change
    intro store kept
    exact extends_ store.events _ kept rfl rfl
  refine ensures_bind inserted fun _ => ?_
  exact ensures_pure _ fun _ kept => kept

theorem enterEvent_events (grows : ∀ events sequence, property events →
      property (events ++ [{ row with sequence := sequence }])) :
    Keeps (OnEvents property) (enterEvent row) := by
  refine keeps_bind (nextEventSequence_events row.runId row.emittedAt) fun sequence => ?_
  refine keeps_inspect fun _ _ => keeps_demand fun _ => keeps_change ?_
  intro store kept
  exact grows store.events sequence kept

theorem appendEvent_records
    (unused : ∀ events, property events → ∀ key ∈ input.idempotencyKey, ∀ row ∈ events,
      row.runId = input.runId → row.idempotencyKey ≠ some key)
    (extends_ : ∀ events row, property events → row.runId = input.runId →
      row.eventType = input.eventType → recorded (events ++ [row])) :
    Ensures (OnEvents property) (appendEventWithRepositories input eventId)
      (fun _ => OnEvents recorded) := by
  refine ensures_bind (bounded_keeps _ _ _ _) fun _ => ?_
  apply ensures_inspect_then
  intro store kept
  apply ensures_expect_then
  intro run found
  have own : run.runId = input.runId := store.runs.key_of_find found
  have allocated : Ensures (OnEvents property) (allocateEvent run input eventId)
      (fun _ => OnEvents recorded) := allocateEvent_events extends_
  split
  next => exact allocated
  next key isKey =>
    have given : key ∈ input.idempotencyKey := by
      have filtered := isKey
      rw [Option.filter_eq_some_iff] at filtered
      exact filtered.1
    refine ensures_bind (bounded_keeps _ _ _ _) fun _ => ?_
    split
    next existing taken =>
      have existingIn := List.mem_of_find?_eq_some taken
      have names := List.find?_some taken
      simp only [decide_eq_true_eq] at names
      exact absurd names.2 (unused store.events kept key given existing existingIn
        (names.1.trans own))
    next => exact allocated

variable {before after : RunTables}

def Plain (events : List EventRow) : RunStore → Prop :=
  OnEvents (NoCheckpointSince events)

theorem plain_rules (rule : CompletionRule) : EntryRules rule False True (Plain events) where
  unrelated _ _ _ _ _ _ same since := by
    unfold Plain OnEvents
    rw [same]
    exact since
  opened := createConversation_keeps_of fun _ _ since => since
  spoken input _ := insertMessage_keeps_of (fun _ _ _ since => since) input
  entered row quiet :=
    enterEvent_events fun _ _ since => noCheckpointSince_snoc since _ (quiet.resolve_left id)
  inserted row _ _ := insertRun_ensures (Plain events) row (fun _ _ since _ => since)
    fun _ _ _ since _ => since
  classified _ _ _ := classifyRun_tasks fun _ _ since => since
  updated _ _ _ _ _ _ _ := updateRun_events

theorem outcome_plain (done : crash.outcome options runId tables = some (classification, reached)) :
    NoCheckpointSince tables.ledger.events reached.ledger.events := by
  cases crash with
  | shutdown reason call =>
    simp only [Crash.outcome] at done
    split at done
    next result ledger ran =>
      simp only [Option.some.injEq, Prod.mk.injEq] at done
      obtain ⟨-, rfl⟩ := done
      exact interruptExecution_keeps (plain_rules options.completionRule) trivial runId
        tables.ledger result ledger (noCheckpointSince_refl _) ran
    next => simp at done
  | restart call =>
    simp only [Crash.outcome] at done
    split at done
    next output final ran =>
      rw [Option.map_eq_some_iff] at done
      obtain ⟨result, -, same⟩ := done
      simp only [Prod.mk.injEq] at same
      obtain ⟨-, rfl⟩ := same
      exact recoverIncompleteRuns_keeps (plain_rules options.completionRule) trivial call.now
        call.createId tables output final
        (noCheckpointSince_refl _) ran
    next => simp at done

theorem resumption_plain (resumed : Resumption options runId before after) :
    NoCheckpointSince (listEvents before.ledger runId) (listEvents after.ledger runId) := by
  cases resumed with
  | prepared call =>
    apply noCheckpointSince_run
    exact perform_keeps (onLedger_keeps
      (prepareExecutionAttempt_keeps (plain_rules options.completionRule) trivial runId))
      (noCheckpointSince_refl before.ledger.events)
  | started input call own =>
    apply noCheckpointSince_run
    exact perform_keeps
      (startExecution_keeps (plain_rules options.completionRule) trivial input)
      (noCheckpointSince_refl before.ledger.events)
  | requested input call own request =>
    apply noCheckpointSince_run
    have plain : input.eventType ≠ checkpoint := by
      rcases request with isRequest | isRetry
      · simp [isRequest, checkpoint]
      · simp [isRetry, checkpoint]
    exact perform_keeps (onLedger_keeps
      (appendEvent_keeps (plain_rules options.completionRule).events _ _ (Or.inr plain)))
      (noCheckpointSince_refl before.ledger.events)
  | crashed _ crash classification done =>
    apply noCheckpointSince_run
    exact outcome_plain done
  | elsewhere _ silent =>
    rw [silent]
    exact noCheckpointSince_refl _

theorem resumptions_plain (resumed : Resumptions options runId before after) :
    NoCheckpointSince (listEvents before.ledger runId) (listEvents after.ledger runId) := by
  induction resumed with
  | refl => exact noCheckpointSince_refl _
  | tail _ last ih => exact noCheckpointSince_trans ih (resumption_plain last)

variable {delegations : DelegationStore}

/-- The events of the run and the delegation tables, which decide its
classification. -/
def At (runId : String) (events : List EventRow) (delegations : DelegationStore)
    (tables : RunTables) : Prop :=
  listEvents tables.ledger runId = events ∧ tables.delegations = delegations

def EventsOf (runId : String) (events : List EventRow) (all : List EventRow) : Prop :=
  all.filter (fun row => decide (row.runId = runId)) = events

def recoveryKey (run : RunRow) : String := "recovery:" ++ toString run.lastEventSequence

theorem onLedger_at {Value : Type} {body : LedgerTransaction Value}
    (triple : Ensures (OnEvents (EventsOf runId events)) body (fun _ => OnEvents recorded)) :
    Ensures (At runId events delegations) (onLedger body)
      (fun _ tables => recorded tables.ledger.events ∧ tables.delegations = delegations) := by
  apply ensures_focus
  intro tables value reached initially done
  exact ⟨triple tables.ledger value reached initially.1 done, initially.2⟩

theorem interruptExecution_classifies {reason : String} {createId : Nat → String} {store : RunStore}
    (found : store.runs.find runId = some run) (running : run.status = .running) :
    Ensures (fun current => current = store)
      (interruptExecution options runId reason now createId)
      (fun classification reached =>
        classification.recoveryState =
          (classify (hasRecoverableCheckpoint (listEvents store runId))).2 ∧
        ∃ row, reached.events = store.events ++ [row] ∧ row.runId = runId ∧
          row.eventType = "run.interrupted") := by
  have own : run.runId = runId := store.runs.key_of_find found
  apply ensures_read
  apply ensures_expect_then
  intro row isRow
  have sameRun : row = run := Option.some.inj (isRow.symm.trans found)
  subst sameRun
  apply ensures_ite
  · intro stopped
    exact absurd running stopped
  intro _
  have kept : Ensures (fun current => current = store)
      (setAttempt row.currentAttemptId .aborted none (some now) (some reason) now)
      (fun _ => OnEvents fun all => all = store.events) :=
    ensures_from (OnEvents fun all => all = store.events)
      setAttempt_events fun current isStore => by rw [isStore]; rfl
  refine ensures_bind kept fun _ => ?_
  refine ensures_bind updateRun_events fun _ => ?_
  have recorded : ∀ input eventId, input.runId = row.runId →
      input.eventType = "run.interrupted" → input.idempotencyKey = none →
      Ensures (OnEvents fun all => all = store.events)
        (appendEventWithRepositories input eventId)
        (fun _ => OnEvents fun all =>
          ∃ event, all = store.events ++ [event] ∧ event.runId = runId ∧
            event.eventType = "run.interrupted") := by
    intro input eventId isRun isType unkeyed
    apply appendEvent_records
    · intro all _ key isKey
      simp [unkeyed] at isKey
    · rintro all event rfl eventRun eventType
      exact ⟨event, rfl, (eventRun.trans isRun).trans own, eventType.trans isType⟩
  refine ensures_bind (recorded _ _ rfl rfl rfl) fun _ => ?_
  apply ensures_pure
  intro reached written
  refine ⟨?_, written⟩
  rw [own]

/-- What the event of a recovery leaves: one more event of the run, unless the run
had used its key before. -/
def Recorded (runId : String) (events : List EventRow) (run : RunRow)
    (all : List EventRow) : Prop :=
  ∃ later, EventsOf runId later all ∧
    ((∀ row ∈ events, row.idempotencyKey ≠ some (recoveryKey run)) →
      ∃ row, later = events ++ [row] ∧ row.eventType = "run.recovery_classified")

theorem turn_writes {update : RunUpdate} {append : LedgerTransaction EventRow}
    (appended : Ensures (OnEvents (EventsOf runId events)) append (fun _ => OnEvents recorded)) :
    Ensures (OnEvents (EventsOf runId events))
      (do
        whenever (run.status = .running)
          (setAttempt run.currentAttemptId .aborted none (some now) (some "HOST_RESTART") now)
        updateRun options.completionRule update
        let _ ← append
        pure ())
      (fun _ => OnEvents recorded) := by
  refine ensures_bind (keeps_whenever fun _ => setAttempt_events) fun _ => ?_
  refine ensures_bind updateRun_events fun _ => ?_
  refine ensures_bind appended fun _ => ?_
  exact ensures_pure () fun _ kept => kept

theorem recoverRun_other (now : Nat) (createId : Nat → String)
    (output : List RecoveryClassification) (other : run.runId ≠ runId) :
    Ensures (At runId events delegations) (recoverRun options now createId output run)
      (fun result tables => At runId events delegations tables ∧
        ∃ classification, result = output ++ [classification] ∧
          classification.runId = run.runId) := by
  have recorded : ∀ input eventId, input.runId = run.runId →
      Keeps (OnEvents (EventsOf runId events)) (appendEventWithRepositories input eventId) := by
    intro input eventId isOther
    apply appendEvent_keeps_of
    intro row isRun _
    apply enterEvent_events
    intro all sequence sameEvents
    have notOwn : row.runId ≠ runId := by
      rw [isRun, isOther]
      exact other
    unfold EventsOf at sameEvents ⊢
    rw [List.filter_append, sameEvents]
    simp [notOwn]
  apply ensures_inspect_then
  intro tables _
  refine ensures_bind (onLedger_at (turn_writes (recorded _ _ rfl))) fun _ => ?_
  apply ensures_pure
  intro reached kept
  exact ⟨kept, _, rfl, rfl⟩

theorem recoverRun_own (now : Nat) (createId : Nat → String) (output : List RecoveryClassification)
    (own : run.runId = runId) (running : run.status = .running) :
    Ensures (At runId events delegations) (recoverRun options now createId output run)
      (fun result tables =>
        (∃ later, At runId later delegations tables ∧
          ((∀ row ∈ events, row.idempotencyKey ≠ some (recoveryKey run)) →
            ∃ row, later = events ++ [row] ∧ row.eventType = "run.recovery_classified")) ∧
        ∃ classification, result = output ++ [classification] ∧
          classification.recoveryState =
            (classify (hasRecoverableCheckpoint events ||
              hasActiveWait delegations runId)).2) := by
  have recorded : ∀ input eventId, input.runId = run.runId →
      input.eventType = "run.recovery_classified" →
      input.idempotencyKey = some (recoveryKey run) →
      Ensures (OnEvents (EventsOf runId events)) (appendEventWithRepositories input eventId)
        (fun _ => OnEvents (Recorded runId events run)) := by
    intro input eventId isRun isType isKey
    by_cases unused : ∀ row ∈ events, row.idempotencyKey ≠ some (recoveryKey run)
    · apply appendEvent_records
      · intro all sameEvents key given row rowIn ofRun
        have sameKey : recoveryKey run = key := by
          rw [isKey, Option.mem_some_iff] at given
          exact given
        rw [← sameKey]
        apply unused row
        rw [← sameEvents, List.mem_filter]
        exact ⟨rowIn, by simpa using (ofRun.trans isRun).trans own⟩
      · intro all row sameEvents rowRun rowType
        refine ⟨events ++ [row], ?_, fun _ => ⟨row, rfl, rowType.trans isType⟩⟩
        have isOwn : row.runId = runId := (rowRun.trans isRun).trans own
        unfold EventsOf at sameEvents ⊢
        rw [List.filter_append, sameEvents]
        simp [isOwn]
    · intro store value reached _ _
      exact ⟨_, rfl, fun free => absurd free unused⟩
  apply ensures_inspect_then
  intro tables isAt
  have decided : classifyIncomplete tables run =
      classify (hasRecoverableCheckpoint events || hasActiveWait delegations runId) := by
    unfold classifyIncomplete
    rw [if_neg (by simp [running]), own, isAt.1, isAt.2]
  simp only [id_eq, decided]
  refine ensures_bind (onLedger_at (turn_writes (recorded _ _ rfl rfl rfl))) fun _ => ?_
  apply ensures_pure
  rintro reached ⟨⟨later, isLater, written⟩, sameDelegations⟩
  exact ⟨⟨later, ⟨isLater, sameDelegations⟩, written⟩, _, rfl, rfl⟩

theorem recoverRuns_other (now : Nat) (createId : Nat → String) (runs : List RunRow)
    (others : ∀ run ∈ runs, run.runId ≠ runId) (output : List RecoveryClassification) :
    Ensures (At runId events delegations)
      (forEach runs output (recoverRun options now createId))
      (fun result tables => At runId events delegations tables ∧
        ∀ classification ∈ result, classification.runId = runId → classification ∈ output) := by
  induction runs generalizing output with
  | nil =>
    apply ensures_pure
    intro tables kept
    exact ⟨kept, fun _ listed _ => listed⟩
  | cons run runs ih =>
    have isOther : run.runId ≠ runId := others run (by simp)
    refine ensures_bind (recoverRun_other now createId output isOther) fun next => ?_
    apply ensures_at
    rintro tables ⟨kept, classification, rfl, ofRun⟩
    refine ensures_mono
      (ih (fun other otherIn => others other (by simp [otherIn])) (output ++ [classification]))
      (fun current isTables => by rw [isTables]; exact kept) ?_
    rintro result reached ⟨atEnd, earlier⟩
    refine ⟨atEnd, ?_⟩
    intro found listed isOwn
    rcases List.mem_append.mp (earlier found listed isOwn) with old | new
    · exact old
    · rw [List.mem_singleton.mp new] at isOwn
      exact absurd (ofRun.symm.trans isOwn) isOther

theorem recoverRuns_own (now : Nat) (createId : Nat → String) {runs : List RunRow}
    (distinct : (runs.map RunRow.runId).Nodup) (listed : run ∈ runs) (own : run.runId = runId)
    (running : run.status = .running) (output : List RecoveryClassification) :
    Ensures (At runId events delegations)
      (forEach runs output (recoverRun options now createId))
      (fun result tables =>
        Recorded runId events run tables.ledger.events ∧
        ∀ classification ∈ result, classification.runId = runId →
          classification ∈ output ∨
            classification.recoveryState =
              (classify (hasRecoverableCheckpoint events ||
                hasActiveWait delegations runId)).2) := by
  induction runs generalizing output with
  | nil => simp at listed
  | cons head runs ih =>
    simp only [List.map_cons, List.nodup_cons, List.mem_map, not_exists, not_and] at distinct
    by_cases isHead : head.runId = runId
    · have same : run = head := by
        rcases List.mem_cons.mp listed with isRun | inTail
        · exact isRun
        · exact absurd (own.trans isHead.symm) (distinct.1 run inTail)
      subst same
      refine ensures_bind (recoverRun_own now createId output own running) fun next => ?_
      apply ensures_at
      rintro tables ⟨⟨later, isAt, written⟩, classification, rfl, decided⟩
      have others : ∀ other ∈ runs, other.runId ≠ runId := by
        intro other otherIn sameId
        exact distinct.1 other otherIn (sameId.trans own.symm)
      refine ensures_mono
        (recoverRuns_other now createId runs others (output ++ [classification]))
        (fun current isTables => by rw [isTables]; exact isAt) ?_
      rintro result reached ⟨atEnd, earlier⟩
      refine ⟨⟨later, atEnd.1, written⟩, ?_⟩
      intro found foundIn isOwn
      rcases List.mem_append.mp (earlier found foundIn isOwn) with old | new
      · exact Or.inl old
      · right
        rw [List.mem_singleton.mp new]
        exact decided
    · have inTail : run ∈ runs := by
        rcases List.mem_cons.mp listed with isRun | inTail
        · exact absurd (isRun ▸ own) isHead
        · exact inTail
      refine ensures_bind (recoverRun_other now createId output isHead) fun next => ?_
      apply ensures_at
      rintro tables ⟨kept, classification, rfl, ofHead⟩
      refine ensures_mono (ih distinct.2 inTail (output ++ [classification]))
        (fun current isTables => by rw [isTables]; exact kept) ?_
      rintro result reached ⟨written, earlier⟩
      refine ⟨written, ?_⟩
      intro found foundIn isOwn
      rcases earlier found foundIn isOwn with old | decided
      · rcases List.mem_append.mp old with old | new
        · exact Or.inl old
        · rw [List.mem_singleton.mp new] at isOwn
          exact absurd (ofHead.symm.trans isOwn) isHead
      · exact Or.inr decided

/-- What a crash makes of a running run: it is RESUMABLE with a recoverable
checkpoint, or, at a restart, with a wait for a delegation; and the
classification is recorded after the events it was read from. -/
theorem outcome_of_running (found : tables.ledger.runs.find runId = some run)
    (running : run.status = .running)
    (done : crash.outcome options runId tables = some (classification, reached)) :
    classification.recoveryState =
        (classify (hasRecoverableCheckpoint (listEvents tables.ledger runId) ||
          (crash.restarts && hasActiveWait tables.delegations runId))).2 ∧
      ((∀ row ∈ listEvents tables.ledger runId,
          row.idempotencyKey ≠ some (recoveryKey run)) →
        ∃ row, listEvents reached.ledger runId = listEvents tables.ledger runId ++ [row] ∧
          (row.eventType = "run.interrupted" ∨ row.eventType = "run.recovery_classified")) := by
  cases crash with
  | shutdown reason call =>
    simp only [Crash.outcome] at done
    split at done
    next result ledger ran =>
      simp only [Option.some.injEq, Prod.mk.injEq] at done
      obtain ⟨rfl, rfl⟩ := done
      obtain ⟨decided, row, written, ofRun, isType⟩ :=
        interruptExecution_classifies found running tables.ledger result ledger rfl ran
      constructor
      · rw [decided]
        simp [Crash.restarts]
      · intro _
        refine ⟨row, ?_, Or.inl isType⟩
        unfold listEvents RunTables.withLedger
        rw [written, List.filter_append]
        simp [ofRun]
    next => simp at done
  | restart call =>
    simp only [Crash.outcome] at done
    split at done
    next output final ran =>
      rw [Option.map_eq_some_iff] at done
      obtain ⟨result, isResult, same⟩ := done
      simp only [Prod.mk.injEq] at same
      obtain ⟨rfl, rfl⟩ := same
      have own : run.runId = runId := tables.ledger.runs.key_of_find found
      have listed : run ∈ listIncompleteRuns tables.ledger := by
        unfold listIncompleteRuns
        rw [List.mem_insertionSort, List.mem_filter]
        exact ⟨tables.ledger.runs.mem_of_find found, by simp [running]⟩
      have distinct : ((listIncompleteRuns tables.ledger).map RunRow.runId).Nodup := by
        apply (((List.perm_insertionSort createdEarlier _).map RunRow.runId).nodup_iff).mpr
        exact tables.ledger.runs.keysNodup.sublist (List.filter_sublist.map _)
      obtain ⟨⟨later, isLater, written⟩, results⟩ :=
        recoverRuns_own call.now call.createId distinct listed own running []
          tables output final ⟨rfl, rfl⟩ ran
      have resultIn := List.mem_of_find?_eq_some isResult
      have ofRun := List.find?_some isResult
      simp only [decide_eq_true_eq] at ofRun
      constructor
      · rcases results result resultIn ofRun with old | decided
        · simp at old
        · rw [decided]
          simp [Crash.restarts]
      · intro unused
        obtain ⟨row, isRow, isType⟩ := written unused
        exact ⟨row, isLater.trans isRow, Or.inr isType⟩
    next => simp at done

/-- A run that a crash made RESUMABLE from a checkpoint, with the recovery key of
that moment unused, and any number of rounds of recovery later: the next crash
makes it RESUMABLE again exactly when it is a restart that finds an active wait
for a delegation. The checkpoint itself never counts a second time. -/
theorem checkpoint_recovers_once (options : RunOptions) (runId : String)
    (first second : Crash) (start classified again final : RunTables)
    (run rerun : RunRow) (firstResult secondResult : RecoveryClassification)
    (found : start.ledger.runs.find runId = some run) (running : run.status = .running)
    (unused : ∀ row ∈ listEvents start.ledger runId, row.idempotencyKey ≠ some (recoveryKey run))
    (recoverable : hasRecoverableCheckpoint (listEvents start.ledger runId) = true)
    (firstDone : first.outcome options runId start = some (firstResult, classified))
    (rounds : Resumptions options runId classified again)
    (refound : again.ledger.runs.find runId = some rerun) (rerunning : rerun.status = .running)
    (secondDone : second.outcome options runId again = some (secondResult, final)) :
    firstResult.recoveryState = .resumable ∧
      (secondResult.recoveryState = .resumable ↔
        second.restarts = true ∧ hasActiveWait again.delegations runId = true) := by
  obtain ⟨firstDecided, recorded⟩ := outcome_of_running found running firstDone
  obtain ⟨row, written, isType⟩ := recorded unused
  have since := resumptions_plain rounds
  rw [written] at since
  have lost : hasRecoverableCheckpoint (listEvents again.ledger runId) = false := by
    rcases isType with interrupted | recovered
    · exact unrecoverable_after (by simp [interrupted]) (by simp [interrupted, checkpoint]) since
    · exact unrecoverable_after (by simp [recovered]) (by simp [recovered, checkpoint]) since
  constructor
  · rw [firstDecided, recoverable]
    rfl
  rw [(outcome_of_running refound rerunning secondDone).1, lost, Bool.false_or]
  cases kept : second.restarts && hasActiveWait again.delegations runId with
  | false =>
    simp only [classify, Bool.false_eq_true, if_false]
    rw [Bool.and_eq_false_iff] at kept
    rcases kept with notRestart | noWait
    · simp [notRestart]
    · simp [noWait]
  | true =>
    rw [Bool.and_eq_true] at kept
    simp [classify, kept.1, kept.2]

def checkpointedRun : RunTables :=
  reach mainHost
    [.createConversation
        { conversationId := "c1"
          workspaceId := "main" },
      .send
        { workspaceId := "main", conversationId := "c1", submissionKey := "s1", text := "go" }
        (callAt 1 ["m1", "r1", "a1", "e1"]),
      .startExecution
        { runId := "r1", providerId := "p", modelId := "m", budget := smallBudget.execution }
        (callAt 2 ["a2", "e2"]),
      .appendEvent
        { runId := "r1"
          attemptId := some "a1"
          eventType := "run.checkpoint"
          payload := .object []
          idempotencyKey := some "checkpoint:tool:t1"
          expectedSequence := none
          emittedAt := 3 }
        (callAt 3 ["e3"])]

def hostShutdown (now : Nat) : Crash :=
  .shutdown "HOST_SHUTDOWN" (callAt now ["e" ++ toString now])

def interrupted (tables : RunTables) (now : Nat) : RunTables :=
  step mainHost tables (.interruptExecution "r1" "HOST_SHUTDOWN" (callAt now ["e" ++ toString now]))

def preparedAgain : RunTables :=
  step mainHost (interrupted checkpointedRun 4)
    (.prepareExecutionAttempt "r1" (callAt 5 ["a2", "e5"]))

def restart : StartInput where
  runId := "r1"
  providerId := "p"
  modelId := "m"
  budget := smallBudget.execution

def startedAgain : RunTables :=
  step mainHost preparedAgain (.startExecution restart (callAt 6 ["a3", "e6"]))

def nextRequest : EventInput where
  runId := "r1"
  attemptId := some "a2"
  eventType := "model.requested"
  payload := .object []
  idempotencyKey := none
  expectedSequence := none
  emittedAt := 7

def resumedRun : RunTables :=
  step mainHost startedAgain (.appendEvent nextRequest (callAt 7 ["e7"]))

theorem resumedRun_resumes :
    Resumptions mainHost "r1" (interrupted checkpointedRun 4) resumedRun := by
  apply Relation.ReflTransGen.tail _ (Resumption.requested startedAgain nextRequest _ rfl
    (Or.inl rfl))
  apply Relation.ReflTransGen.tail _ (Resumption.started preparedAgain restart _ rfl)
  exact Relation.ReflTransGen.single (Resumption.prepared _ _)

def shutdownResult (status : RunStatus) (recoveryState : RecoveryState) :
    RecoveryClassification where
  runId := "r1"
  previousStatus := .running
  status := status
  recoveryState := recoveryState

theorem resumed_run_not_resumable_again :
    hasRecoverableCheckpoint (listEvents checkpointedRun.ledger "r1") = true ∧
      (hostShutdown 4).outcome mainHost "r1" checkpointedRun =
        some (shutdownResult .created .resumable, interrupted checkpointedRun 4) ∧
      Resumptions mainHost "r1" (interrupted checkpointedRun 4) resumedRun ∧
      (hostShutdown 8).outcome mainHost "r1" resumedRun =
        some (shutdownResult .failed .nonResumable, interrupted resumedRun 8) :=
  ⟨by decide +kernel, rfl, resumedRun_resumes, rfl⟩

theorem second_shutdown_of_resumed_run :
    (shutdownResult .created .resumable).recoveryState = .resumable ∧
      ((shutdownResult .failed .nonResumable).recoveryState = .resumable ↔
        (hostShutdown 8).restarts = true ∧ hasActiveWait resumedRun.delegations "r1" = true) :=
  checkpoint_recovers_once mainHost "r1" (hostShutdown 4) (hostShutdown 8) checkpointedRun
    (interrupted checkpointedRun 4) resumedRun (interrupted resumedRun 8) _ _
    (shutdownResult .created .resumable) (shutdownResult .failed .nonResumable)
    rfl rfl (by decide +kernel) (by decide +kernel) rfl resumedRun_resumes rfl rfl rfl

end OpenRill.Runs.CrashRecovery
