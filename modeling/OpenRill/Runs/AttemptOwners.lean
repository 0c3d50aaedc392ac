import OpenRill.Runs.LedgerRules
import OpenRill.Runs.UsageReport

/-!
# Whose attempt is whose

Every run is in an attempt of its own, and an attempt keeps the run it was made for.
The usage recorded on the attempts of a run changes by a usage report alone, and by the
failure of an unscheduled child, which clears it.
-/

namespace OpenRill.Runs.AttemptOwners

open Lib Lib.Transaction State Ledger Delegations Lifecycle DelegationService LedgerRules
open UsageReport

variable {attempt row : AttemptRow} {store base : RunStore} {attemptId runId : String}
variable {options : RunOptions} {run : RunRow}

def contribution (runId : String) (attempt : AttemptRow) : Usage :=
  if decide (attempt.runId = runId) = true then attempt.used else 0

theorem aggregateRunUsage_eq (store : RunStore) (runId : String) :
    aggregateRunUsage store runId = (store.attempts.rows.map (contribution runId)).sum :=
  Table.sum_filter _ _ _

section

variable (found : store.attempts.find attemptId = some attempt)
include found

theorem aggregate_split (runId : String) :
    aggregateRunUsage store runId =
      aggregateRunUsageExcluding store runId attemptId + contribution runId attempt := by
  rw [aggregateRunUsage_eq, store.attempts.sum_split found]
  congr 1
  unfold aggregateRunUsageExcluding
  rw [Table.sum_filter]
  congr 1
  apply List.map_congr_left
  intro other _
  by_cases same : other.attemptId = attemptId
  · simp [same]
  · simp [same, contribution]

theorem excluding_rewritten (sameId : row.attemptId = attempt.attemptId) (runId : String) :
    aggregateRunUsageExcluding { store with attempts := store.attempts.update row } runId
        attemptId =
      aggregateRunUsageExcluding store runId attemptId := by
  have key : attempt.attemptId = attemptId := store.attempts.key_of_find found
  have present : store.attempts.find row.attemptId = some attempt := by
    rw [sameId, key]
    exact found
  unfold aggregateRunUsageExcluding
  rw [Table.sum_filter, Table.sum_filter]
  apply store.attempts.sum_update_same row present
  simp [sameId, key]

theorem aggregate_rewritten (sameId : row.attemptId = attempt.attemptId)
    (sameRun : row.runId = attempt.runId) (sameUsed : row.used = attempt.used) (runId : String) :
    aggregateRunUsage { store with attempts := store.attempts.update row } runId =
      aggregateRunUsage store runId := by
  have key : attempt.attemptId = attemptId := store.attempts.key_of_find found
  have present : store.attempts.find row.attemptId = some attempt := by
    rw [sameId, key]
    exact found
  rw [aggregateRunUsage_eq, aggregateRunUsage_eq]
  apply store.attempts.sum_update_same row present
  simp only [contribution, sameRun, sameUsed]

end

theorem aggregate_inserted {attempts : Table AttemptRow.attemptId}
    (inserted : store.attempts.insert row = some attempts) (unused : row.used = 0)
    (runId : String) :
    aggregateRunUsage { store with attempts := attempts } runId =
      aggregateRunUsage store runId := by
  obtain ⟨-, rowsEq⟩ := (store.attempts.insert_some_iff attempts row).mp inserted
  rw [aggregateRunUsage_eq, aggregateRunUsage_eq]
  rw [rowsEq, List.map_append, List.sum_append]
  simp [contribution, unused]

theorem aggregate_unattempted (without : ∀ attempt ∈ store.attempts.rows, attempt.runId ≠ runId) :
    aggregateRunUsage store runId = 0 := by
  unfold aggregateRunUsage
  have none : store.attempts.rows.filter (fun row => decide (row.runId = runId)) = [] := by
    rw [List.filter_eq_nil_iff]
    intro attempt attemptIn
    simpa using without attempt attemptIn
  rw [none]
  rfl

def Owned (store : RunStore) (runId attemptId : String) : Prop :=
  ∃ attempt, store.attempts.find attemptId = some attempt ∧ attempt.runId = runId

/-- Runs are in attempts of their own, and attempts belong to runs. -/
structure Sound (store : RunStore) : Prop where
  current : ∀ runId run attemptId, store.runs.find runId = some run →
    run.currentAttemptId = some attemptId → Owned store runId attemptId
  homed : ∀ attempt ∈ store.attempts.rows, ∃ run, store.runs.find attempt.runId = some run

/-- The runs of `base` are still there, and its attempts with their runs and their usage,
and every run has used what it had used. -/
structure Attempted (base store : RunStore) : Prop where
  sound : Sound store
  lasting : ∀ runId run, base.runs.find runId = some run → ∃ row, store.runs.find runId = some row
  grown : ∀ attemptId attempt, base.attempts.find attemptId = some attempt →
    ∃ row, store.attempts.find attemptId = some row ∧ row.runId = attempt.runId ∧
      row.used = attempt.used
  totals : ∀ runId, aggregateRunUsage store runId = aggregateRunUsage base runId

variable {middle changed : RunStore}

theorem attempted_refl (sound : Sound store) : Attempted store store where
  sound := sound
  lasting _ run found := ⟨run, found⟩
  grown _ attempt found := ⟨attempt, found, rfl, rfl⟩
  totals _ := rfl

theorem attempted_trans (first : Attempted base middle) (second : Attempted middle store) :
    Attempted base store where
  sound := second.sound
  lasting := by
    intro runId run found
    obtain ⟨row, foundRow⟩ := first.lasting runId run found
    exact second.lasting runId row foundRow
  grown := by
    intro attemptId attempt found
    obtain ⟨row, foundRow, sameRun, sameUsed⟩ := first.grown attemptId attempt found
    obtain ⟨last, foundLast, lastRun, lastUsed⟩ := second.grown attemptId row foundRow
    exact ⟨last, foundLast, lastRun.trans sameRun, lastUsed.trans sameUsed⟩
  totals runId := (second.totals runId).trans (first.totals runId)

section

variable (attempted : Attempted base store)
include attempted

theorem Attempted.owned (owned : Owned base runId attemptId) : Owned store runId attemptId := by
  obtain ⟨attempt, found, isRun⟩ := owned
  obtain ⟨row, foundRow, sameRun, -⟩ := attempted.grown attemptId attempt found
  exact ⟨row, foundRow, sameRun.trans isRun⟩

theorem attempted_of_same (runs : changed.runs = store.runs)
    (attempts : changed.attempts = store.attempts) : Attempted base changed where
  sound :=
    { current := by
        unfold Owned
        rw [runs, attempts]
        exact attempted.sound.current
      homed := by
        rw [runs, attempts]
        exact attempted.sound.homed }
  lasting := by
    rw [runs]
    exact attempted.lasting
  grown := by
    rw [attempts]
    exact attempted.grown
  totals := by
    intro runId
    rw [← attempted.totals runId]
    unfold aggregateRunUsage
    rw [attempts]

theorem attempted_of_run {row old : RunRow} (found : store.runs.find row.runId = some old)
    (own : ∀ attemptId, row.currentAttemptId = some attemptId → Owned store row.runId attemptId)
    (runs : changed.runs = store.runs.update row) (attempts : changed.attempts = store.attempts) :
    Attempted base changed where
  sound :=
    { current := by
        intro runId run attemptId isRun isCurrent
        unfold Owned
        rw [attempts]
        rw [runs, store.runs.find_update row found runId] at isRun
        by_cases same : row.runId = runId
        · rw [if_pos same, Option.some.injEq] at isRun
          rw [← isRun] at isCurrent
          rw [← same]
          exact own attemptId isCurrent
        · rw [if_neg same] at isRun
          exact attempted.sound.current runId run attemptId isRun isCurrent
      homed := by
        intro attempt attemptIn
        rw [attempts] at attemptIn
        rw [runs, store.runs.find_update row found attempt.runId]
        by_cases same : row.runId = attempt.runId
        · exact ⟨row, if_pos same⟩
        · rw [if_neg same]
          exact attempted.sound.homed attempt attemptIn }
  lasting := by
    intro runId run isRun
    rw [runs, store.runs.find_update row found runId]
    by_cases same : row.runId = runId
    · exact ⟨row, if_pos same⟩
    · rw [if_neg same]
      exact attempted.lasting runId run isRun
  grown := by
    rw [attempts]
    exact attempted.grown
  totals := by
    intro runId
    rw [← attempted.totals runId]
    unfold aggregateRunUsage
    rw [attempts]

end

theorem nextEventSequence_attempted (runId : String) (now : Nat) :
    Keeps (Attempted base) (nextEventSequence runId now) := by
  apply nextEventSequence_ensures
  intro store row attempted _ own
  have present : store.runs.find (row.withEventSequence (row.lastEventSequence + 1) now).runId =
      some row := own
  refine attempted_of_run attempted present ?_ rfl rfl
  intro attemptId isCurrent
  exact attempted.sound.current row.runId row attemptId own isCurrent

theorem attempted_events (base : RunStore) : EventRules True (Attempted base) where
  unrelated _ _ _ runs attempts _ _ _ attempted := attempted_of_same attempted runs attempts
  opened :=
    createConversation_keeps_of fun _ _ attempted => attempted_of_same attempted rfl rfl
  spoken input _ :=
    insertMessage_keeps_of (fun _ _ _ attempted => attempted_of_same attempted rfl rfl) input
  entered row _ :=
    enterEvent_keeps_of nextEventSequence_attempted
      (fun _ _ attempted => attempted_of_same attempted rfl rfl) row
  classified _ _ _ := classifyRun_tasks fun _ _ attempted => attempted_of_same attempted rfl rfl

variable {Value : Type}

theorem updateRun_attempted (rule : CompletionRule) (input : RunUpdate)
    (own : ∀ attemptId, input.currentAttemptId = some attemptId →
      Owned base input.runId attemptId) :
    Keeps (Attempted base) (updateRun rule input) := by
  refine updateRun_ensures ?_ fun _ _ attempted => attempted_of_same attempted rfl rfl
  intro store row attempted key found
  have present : store.runs.find (row.updatedBy input).runId = some row := found
  refine attempted_of_run attempted present ?_ rfl rfl
  intro attemptId isCurrent
  have mine := attempted.owned (own attemptId isCurrent)
  rw [← key] at mine
  exact mine

theorem sound_rewritten (sound : Sound store) (found : store.attempts.find attemptId = some attempt)
    (sameId : row.attemptId = attempt.attemptId) (sameRun : row.runId = attempt.runId) :
    Sound { store with attempts := store.attempts.update row } where
  current := by
    intro runId run wanted foundRun isCurrent
    obtain ⟨other, foundOther, isRun⟩ := sound.current runId run wanted foundRun isCurrent
    unfold Owned
    rw [find_rewritten found sameId]
    by_cases own : wanted = attemptId
    · rw [own, found, Option.some.injEq] at foundOther
      refine ⟨row, if_pos own, ?_⟩
      rw [sameRun, foundOther]
      exact isRun
    · exact ⟨other, (if_neg own).trans foundOther, isRun⟩
  homed := by
    have present : store.attempts.find row.attemptId = some attempt := by
      rw [sameId]
      exact store.attempts.find_self found
    intro other otherIn
    rcases (store.attempts.mem_update_iff row present other).mp otherIn with isRow | ⟨kept, -⟩
    · rw [isRow, sameRun]
      exact sound.homed attempt (store.attempts.mem_of_find found)
    · exact sound.homed other kept

theorem attempted_rewritten (attempted : Attempted base store)
    (found : store.attempts.find attemptId = some attempt)
    (sameId : row.attemptId = attempt.attemptId) (sameRun : row.runId = attempt.runId)
    (sameUsed : row.used = attempt.used) :
    Attempted base { store with attempts := store.attempts.update row } where
  sound := sound_rewritten attempted.sound found sameId sameRun
  lasting := attempted.lasting
  grown := by
    intro wanted old foundOld
    obtain ⟨other, foundOther, isRun, isUsed⟩ := attempted.grown wanted old foundOld
    rw [find_rewritten found sameId]
    by_cases own : wanted = attemptId
    · rw [own, found, Option.some.injEq] at foundOther
      rw [← foundOther] at isRun isUsed
      exact ⟨row, if_pos own, sameRun.trans isRun, sameUsed.trans isUsed⟩
    · exact ⟨other, (if_neg own).trans foundOther, isRun, isUsed⟩
  totals := by
    intro runId
    rw [aggregate_rewritten found sameId sameRun sameUsed]
    exact attempted.totals runId

theorem updateAttempt_attempted (attemptId : String) (status : AttemptStatus)
    (startedAt endedAt : Option Nat) (reason : Option String) (now : Nat) :
    Keeps (Attempted base) (updateAttempt attemptId status startedAt endedAt reason now) := by
  apply ensures_inspect_at
  intro store attempted
  apply ensures_expect_then
  intro attempt found
  apply ensures_change
  intro known isStore
  rw [isStore]
  exact attempted_rewritten attempted found rfl rfl rfl

theorem configureAttempt_attempted (attemptId providerId modelId : String)
    (budget : ExecutionBudget) (now : Nat) :
    Keeps (Attempted base) (configureAttempt attemptId providerId modelId budget now) := by
  apply ensures_inspect_at
  intro store attempted
  apply ensures_expect_then
  intro attempt found
  apply ensures_change
  intro known isStore
  rw [isStore]
  exact attempted_rewritten attempted found rfl rfl rfl

theorem updateAttemptUsage_attempted (had : base.attempts.find attemptId = some attempt)
    (reason : Option String) (now : Nat) :
    Keeps (Attempted base) (updateAttemptUsage attemptId attempt.used reason now) := by
  apply ensures_inspect_at
  intro store attempted
  apply ensures_expect_then
  intro row found
  obtain ⟨last, foundLast, -, sameUsed⟩ := attempted.grown attemptId attempt had
  have isRow : last = row := Option.some.inj (foundLast.symm.trans found)
  rw [isRow] at sameUsed
  apply ensures_change
  intro known isStore
  rw [isStore]
  exact attempted_rewritten attempted found rfl rfl sameUsed.symm

theorem setAttempt_attempted (attemptId : Option String) (status : AttemptStatus)
    (startedAt endedAt : Option Nat) (reason : Option String) (now : Nat) :
    Keeps (Attempted base) (setAttempt attemptId status startedAt endedAt reason now) := by
  cases attemptId with
  | none => exact keeps_pure ()
  | some attemptId => exact updateAttempt_attempted attemptId _ _ _ _ _

structure Awaiting (base : RunStore) (runId attemptId : String) (store : RunStore) : Prop where
  present : ∃ run, store.runs.find runId = some run
  current : ∀ wanted run currentId, store.runs.find wanted = some run →
    run.currentAttemptId = some currentId →
      Owned store wanted currentId ∨ (wanted = runId ∧ currentId = attemptId)
  homed : ∀ attempt ∈ store.attempts.rows, ∃ run, store.runs.find attempt.runId = some run
  lasting : ∀ runId run, base.runs.find runId = some run → ∃ row, store.runs.find runId = some row
  grown : ∀ attemptId attempt, base.attempts.find attemptId = some attempt →
    ∃ row, store.attempts.find attemptId = some row ∧ row.runId = attempt.runId ∧
      row.used = attempt.used
  totals : ∀ runId, aggregateRunUsage store runId = aggregateRunUsage base runId

theorem awaiting_of_attempted (attempted : Attempted base store)
    (found : store.runs.find runId = some run) (attemptId : String) :
    Awaiting base runId attemptId store where
  present := ⟨run, found⟩
  current wanted other currentId isRun isCurrent :=
    Or.inl (attempted.sound.current wanted other currentId isRun isCurrent)
  homed := attempted.sound.homed
  lasting := attempted.lasting
  grown := attempted.grown
  totals := attempted.totals

theorem insertAttempt_attempted (row : AttemptRow) (unused : row.used = 0) :
    Ensures (Awaiting base row.runId row.attemptId) (insertAttempt row)
      (fun _ reached => Attempted base reached ∧ Owned reached row.runId row.attemptId) := by
  apply ensures_tryChange
  intro store reached awaiting done
  obtain ⟨attempts, inserted, isReached⟩ := Option.map_eq_some_iff.mp done
  have lookup := fun wanted => store.attempts.find_insert attempts row wanted inserted
  have fresh := ((store.attempts.insert_some_iff attempts row).mp inserted).1
  have entered : attempts.find row.attemptId = some row :=
    (lookup row.attemptId).trans (if_pos rfl)
  have kept : ∀ wanted other, store.attempts.find wanted = some other →
      attempts.find wanted = some other := by
    intro wanted other found
    have different : row.attemptId ≠ wanted := by
      intro same
      have key : other.attemptId = wanted := store.attempts.key_of_find found
      exact fresh other (store.attempts.mem_of_find found) (key.trans same.symm)
    exact ((lookup wanted).trans (if_neg different)).trans found
  rw [← isReached]
  refine ⟨⟨⟨?_, ?_⟩, awaiting.lasting, ?_, ?_⟩, ⟨row, entered, rfl⟩⟩
  · intro wanted run currentId found isCurrent
    rcases awaiting.current wanted run currentId found isCurrent with owned | ⟨isRun, isAttempt⟩
    · obtain ⟨attempt, foundAttempt, ofRun⟩ := owned
      exact ⟨attempt, kept currentId attempt foundAttempt, ofRun⟩
    · rw [isRun, isAttempt]
      exact ⟨row, entered, rfl⟩
  · intro other otherIn
    rcases (store.attempts.mem_insert_iff attempts row inserted other).mp otherIn with
      present | isRow
    · exact awaiting.homed other present
    · rw [isRow]
      exact awaiting.present
  · intro wanted old foundOld
    obtain ⟨other, found, isRun, isUsed⟩ := awaiting.grown wanted old foundOld
    exact ⟨other, kept wanted other found, isRun, isUsed⟩
  · intro runId
    rw [aggregate_inserted inserted unused]
    exact awaiting.totals runId

theorem insertRun_awaits (row : RunRow) (isCurrent : row.currentAttemptId = some attemptId) :
    Ensures (Attempted base) (insertRun row) (fun _ => Awaiting base row.runId attemptId) := by
  apply insertRun_ensures (Awaiting base row.runId attemptId) row
  · intro store runs attempted inserted
    have lookup := fun wanted => store.runs.find_insert runs row wanted inserted
    have lasts : ∀ runId run, store.runs.find runId = some run →
        ∃ other, runs.find runId = some other := by
      intro runId run found
      rw [lookup runId]
      by_cases own : row.runId = runId
      · exact ⟨row, if_pos own⟩
      · exact ⟨run, (if_neg own).trans found⟩
    refine ⟨⟨row, (lookup row.runId).trans (if_pos rfl)⟩, ?_, ?_, ?_, attempted.grown,
      attempted.totals⟩
    · intro wanted run currentId found current
      rw [lookup wanted] at found
      by_cases own : row.runId = wanted
      · rw [if_pos own, Option.some.injEq] at found
        rw [← found, isCurrent, Option.some.injEq] at current
        exact Or.inr ⟨own.symm, current.symm⟩
      · rw [if_neg own] at found
        exact Or.inl (attempted.sound.current wanted run currentId found current)
    · intro attempt attemptIn
      obtain ⟨run, found⟩ := attempted.sound.homed attempt attemptIn
      exact lasts attempt.runId run found
    · intro runId run found
      obtain ⟨other, foundOther⟩ := attempted.lasting runId run found
      exact lasts runId other foundOther
  · intro store _ tasks awaiting _
    exact ⟨awaiting.present, awaiting.current, awaiting.homed, awaiting.lasting, awaiting.grown,
      awaiting.totals⟩

theorem insertRunAttempt_attempted {row : RunRow}
    (isCurrent : row.currentAttemptId = some attempt.attemptId) (ofRun : attempt.runId = row.runId)
    (unused : attempt.used = 0) :
    Keeps (Attempted base) (insertRun row >>= fun _ => insertAttempt attempt) := by
  have awaits : Ensures (Attempted base) (insertRun row)
      (fun _ => Awaiting base row.runId attempt.attemptId) :=
    insertRun_awaits row isCurrent
  rw [← ofRun] at awaits
  refine ensures_bind awaits fun _ => ?_
  exact ensures_mono (insertAttempt_attempted attempt unused) (fun _ awaiting => awaiting)
    fun _ _ facts => facts.1

theorem insertAttempt_then (unused : row.used = 0) (known : base.runs.find row.runId = some run)
    {next : Unit → LedgerTransaction Value}
    (rest : ∀ middle, Attempted base middle → Owned middle row.runId row.attemptId →
      Keeps (Attempted middle) (next ())) :
    Keeps (Attempted base) (insertAttempt row >>= next) := by
  have inserted : Ensures (Attempted base) (insertAttempt row)
      (fun _ reached => Attempted base reached ∧ Owned reached row.runId row.attemptId) := by
    apply ensures_mono (insertAttempt_attempted row unused) _ fun _ _ facts => facts
    intro store attempted
    obtain ⟨other, found⟩ := attempted.lasting row.runId run known
    exact awaiting_of_attempted attempted found row.attemptId
  refine ensures_called inserted ?_
  intro _ middle facts
  obtain ⟨attempted, owned⟩ := facts
  intro state value reached isMiddle done
  rw [isMiddle] at done
  have followed := rest middle attempted owned middle value reached
    (attempted_refl attempted.sound) done
  exact attempted_trans attempted followed

theorem keeps_onwards {Result : Type} {view : RunStore → Value}
    {next : Value → LedgerTransaction Result}
    (rest : ∀ store, Sound store → Keeps (Attempted store) (next (view store))) :
    Keeps (Attempted base) (inspect view >>= next) := by
  apply ensures_inspect_at
  intro store attempted state value reached isStore done
  rw [isStore] at done
  have followed := rest store attempted.sound store value reached (attempted_refl attempted.sound)
    done
  exact attempted_trans attempted followed

theorem own_of_found (sound : Sound store) (found : store.runs.find runId = some run)
    (attemptId : String) (isCurrent : run.currentAttemptId = some attemptId) :
    Owned store run.runId attemptId := by
  have key : run.runId = runId := store.runs.key_of_find found
  rw [← key] at found
  exact sound.current run.runId run attemptId found isCurrent

theorem sendWithRepositories_attempted (input : SendInput) {role : MessageRole} {inputHash : String}
    (now : Nat) (createId : Nat → String) :
    Keeps (Attempted base) (sendWithRepositories input role inputHash now createId) := by
  have rules := attempted_events base
  apply keeps_inspect
  intro store _
  apply keeps_expect
  intro conversation _
  apply keeps_demand
  intro _
  split
  next existing _ => exact keeps_demand fun _ => keeps_expect_last _ _
  next =>
    refine keeps_bind (rules.spoken _ (Or.inl trivial)) fun _ => ?_
    refine keeps_pair (insertRunAttempt_attempted rfl rfl rfl) fun _ _ => ?_
    refine keeps_bind (appendEvent_keeps rules _ _ (Or.inl trivial)) fun _ => ?_
    refine keeps_bind (insertSubmission_keeps rules _) fun _ => ?_
    exact reread_keeps _ _

theorem send_attempted (input : SendInput) (now : Nat) (createId : Nat → String) :
    Keeps (Attempted base) (send options input now createId) :=
  keeps_bind (validateSendInput_keeps input) fun _ =>
    sendWithRepositories_attempted input now createId

theorem prepareExecutionAttempt_attempted (runId : String) (now : Nat)
    (createId : Nat → String) :
    Keeps (Attempted base) (prepareExecutionAttempt options runId now createId) := by
  apply keeps_onwards
  intro store sound
  apply keeps_expect
  intro run found
  apply keeps_demand
  intro _
  apply keeps_expect
  intro _ _
  apply keeps_expect
  intro previousId _
  apply keeps_expect
  intro previous _
  apply keeps_ite
  · intro _
    have known : store.runs.find
        (emptyAttempt (createId 0) run.runId (nextAttemptNumber store run.runId) now).runId =
          some run :=
      store.runs.find_self found
    apply insertAttempt_then rfl known
    intro middle _ owned
    have rules := attempted_events middle
    refine keeps_bind (updateRun_attempted _ _ ?_) fun _ => ?_
    · intro attemptId isCurrent
      rw [← Option.some.inj isCurrent]
      exact owned
    · refine keeps_bind (appendEvent_keeps rules _ _ (Or.inl trivial)) (fun _ => ?_)
      exact keeps_inspect fun _ _ => keeps_expect_last _ _
  · intro _
    exact keeps_demand fun _ => keeps_pure previous

theorem transitionRun_attempted (input : TransitionInput) (now : Nat) (createId : Nat → String) :
    Keeps (Attempted base) (transitionRun options input now createId) := by
  apply keeps_onwards
  intro store sound
  apply keeps_expect
  intro run found
  apply keeps_demand
  intro _
  have rest : ∀ middle currentAttemptId,
      (∀ attemptId, currentAttemptId = some attemptId → Owned middle run.runId attemptId) →
      Keeps (Attempted middle)
        (updateRun options.completionRule
            { runId := run.runId
              status := input.status
              recoveryState := .none
              currentAttemptId := currentAttemptId
              startedAt := startTime input.status now run.startedAt
              endedAt := endTime input.status now
              updatedAt := now
              lost := none
              completionText := input.completionText } >>= fun _ =>
          setAttempt currentAttemptId (attemptStatusOf input.status)
              (startTime input.status now none) (endTime input.status now) none now >>= fun _ =>
            appendEventWithRepositories
                (lifecycleEvent run.runId currentAttemptId
                  (input.eventType.getD (defaultEventType input.status)) input.payload none now)
                (createId 1) >>= fun _ =>
              inspect id >>= fun reached =>
                expect (reached.runs.find run.runId) runNotFound) := by
    intro middle currentAttemptId own
    refine keeps_bind (updateRun_attempted _ _ own) fun _ => ?_
    refine keeps_bind (setAttempt_attempted _ _ _ _ _ _) fun _ => ?_
    refine keeps_bind (appendEvent_keeps (attempted_events middle) _ _ (Or.inl trivial)) fun _ => ?_
    exact reread_keeps _ _
  dsimp only [id]
  cases fresh : (decide (input.status = .running) &&
      (run.currentAttemptId.bind store.attempts.find).all
        fun row => decide (row.status = .aborted)) with
  | true =>
    have known : store.runs.find
        (emptyAttempt (createId 0) run.runId (nextAttemptNumber store run.runId) now).runId =
          some run :=
      store.runs.find_self found
    refine insertAttempt_then rfl known fun middle _ owned => ?_
    apply rest middle (some (createId 0))
    intro attemptId isCurrent
    rw [← Option.some.inj isCurrent]
    exact owned
  | false =>
    refine keeps_bind (keeps_pure ()) fun _ => ?_
    exact rest store run.currentAttemptId (own_of_found sound found)

theorem resumeExecution_attempted (runId : String) (now : Nat) (createId : Nat → String) :
    Keeps (Attempted base) (resumeExecution options runId now createId) := by
  apply keeps_onwards
  intro store sound
  apply keeps_expect
  intro run found
  apply keeps_demand
  intro _
  apply keeps_expect
  intro attemptId isCurrent
  apply keeps_expect
  intro attempt _
  apply keeps_demand
  intro _
  have key : run.runId = runId := store.runs.key_of_find found
  refine keeps_bind (updateRun_attempted _ _ ?_) fun _ => ?_
  · intro wanted isWanted
    rw [← Option.some.inj isWanted]
    have owned := own_of_found sound found attemptId isCurrent
    rw [key] at owned
    exact owned
  · refine keeps_bind (updateAttempt_attempted _ _ _ _ _ _) (fun _ => ?_)
    refine keeps_bind (appendEvent_keeps (attempted_events store) _ _ (Or.inl trivial)) fun _ => ?_
    exact reread_keeps _ _

theorem cancel_attempted (input : CancelInput) (now : Nat) (createId : Nat → String) :
    Keeps (Attempted base) (cancel options input now createId) := by
  apply keeps_bind (authorize_keeps _)
  intro _
  apply keeps_onwards
  intro store sound
  apply keeps_expect
  intro conversation _
  apply keeps_demand
  intro _
  apply keeps_expect
  intro run found
  apply keeps_demand
  intro _
  apply keeps_ite fun _ => keeps_pure _
  intro _
  refine keeps_bind (updateRun_attempted _ _ (own_of_found sound found)) fun _ => ?_
  refine keeps_bind (setAttempt_attempted _ _ _ _ _ _) fun _ => ?_
  refine keeps_bind (appendEvent_keeps (attempted_events store) _ _ (Or.inl trivial)) fun _ => ?_
  exact keeps_inspect fun _ _ => keeps_expect fun _ _ => keeps_pure _

theorem attempt_of_bind {current : Option String}
    (found : current.bind store.attempts.find = some attempt) :
    store.attempts.find attempt.attemptId = some attempt := by
  obtain ⟨attemptId, -, isAttempt⟩ := Option.bind_eq_some_iff.mp found
  rw [store.attempts.key_of_find isAttempt]
  exact isAttempt

theorem loseAttempt_attempted {attempt : Option AttemptRow}
    (had : ∀ row, attempt = some row → base.attempts.find row.attemptId = some row)
    {errorCode : String} {now : Nat} :
    Keeps (Attempted base) (loseAttempt attempt errorCode now) := by
  cases attempt with
  | none => exact keeps_pure ()
  | some row =>
    refine keeps_bind (keeps_whenever fun _ => updateAttempt_attempted _ _ _ _ _ _) fun _ => ?_
    exact updateAttemptUsage_attempted (had row rfl) _ _

theorem markExecutionLost_attempted (runId errorCode : String) (now : Nat)
    (createId : Nat → String) :
    Keeps (Attempted base) (markExecutionLost options runId errorCode now createId) := by
  apply keeps_bind (bounded_keeps _ _ _ _)
  intro _
  apply keeps_onwards
  intro store sound
  apply keeps_expect
  intro run found
  apply keeps_ite fun _ => keeps_pure _
  intro _
  apply keeps_demand
  intro _
  refine keeps_bind (loseAttempt_attempted fun row isRow => attempt_of_bind isRow) fun _ => ?_
  refine keeps_bind (updateRun_attempted _ _ (own_of_found sound found)) fun _ => ?_
  refine keeps_bind (appendEvent_keeps (attempted_events store) _ _ (Or.inl trivial)) fun _ => ?_
  exact keeps_pure _

theorem interruptExecution_attempted (runId reason : String) (now : Nat)
    (createId : Nat → String) :
    Keeps (Attempted base) (interruptExecution options runId reason now createId) := by
  apply keeps_onwards
  intro store sound
  apply keeps_expect
  intro run found
  apply keeps_ite fun _ => keeps_pure _
  intro _
  refine keeps_bind (setAttempt_attempted _ _ _ _ _ _) fun _ => ?_
  refine keeps_bind (updateRun_attempted _ _ (own_of_found sound found)) fun _ => ?_
  refine keeps_bind (appendEvent_keeps (attempted_events store) _ _ (Or.inl trivial)) fun _ => ?_
  exact keeps_pure _

theorem insertChildRun_attempted (input : CreateDelegatedRunInput) (ids : ChildIds) (now : Nat) :
    Keeps (Attempted base) (insertChildRun options input ids now) := by
  have rules := attempted_events base
  refine keeps_bind (rules.opened _) fun _ => ?_
  refine keeps_bind (rules.spoken _ (Or.inl trivial)) fun _ => ?_
  refine keeps_pair (insertRunAttempt_attempted rfl rfl rfl) fun _ _ => ?_
  exact keeps_pair (rules.entered (childCreated input ids now) (Or.inl trivial))
    fun _ _ => insertSubmission_keeps rules _

theorem insertRun_fresh {row : RunRow} :
    Ensures (Attempted base) (insertRun row) (fun _ _ => base.runs.find row.runId = none) := by
  apply insertRun_ensures (fun _ => base.runs.find row.runId = none) row
  · intro store runs attempted inserted
    have fresh := ((store.runs.insert_some_iff runs row).mp inserted).1
    cases known : base.runs.find row.runId with
    | none => rfl
    | some run =>
      obtain ⟨other, found⟩ := attempted.lasting row.runId run known
      exact (fresh other (store.runs.mem_of_find found) (store.runs.key_of_find found)).elim
  · intro _ _ _ unknown _
    exact unknown

theorem insertChildRun_fresh (input : CreateDelegatedRunInput) (ids : ChildIds) (now : Nat) :
    Ensures (Attempted base) (insertChildRun options input ids now)
      (fun _ _ => base.runs.find ids.runId = none) := by
  have rules := attempted_events base
  refine ensures_bind (rules.opened _) fun _ => ?_
  refine ensures_bind (rules.spoken _ (Or.inl trivial)) fun _ => ?_
  exact ensures_bind insertRun_fresh fun _ _ _ _ known _ => known

theorem terminateAttempt_attempted {attempt : Option AttemptRow}
    (had : ∀ row, attempt = some row → base.attempts.find row.attemptId = some row)
    (termination : Termination) (errorCode : String) (now : Nat) :
    Keeps (Attempted base) (terminateAttempt attempt termination errorCode now) := by
  cases attempt with
  | none => exact keeps_pure ()
  | some row =>
    refine keeps_bind (updateAttemptUsage_attempted (had row rfl) _ _) fun _ => ?_
    exact updateAttempt_attempted _ _ _ _ _ _

theorem failUnstartedRun_attempted (delegation : DelegationRow) (childRun : RunRow)
    (had : base.attempts.find attemptId = some attempt) (ofRun : attempt.runId = childRun.runId)
    (unused : attempt.used = 0) (errorCode : String) (now : Nat) (createId : Nat → String) :
    Keeps (Attempted base)
      (failUnstartedRun options delegation childRun attemptId errorCode now createId) := by
  have cleared : Keeps (Attempted base) (updateAttemptUsage attemptId 0 (some errorCode) now) := by
    have same := updateAttemptUsage_attempted had (some errorCode) now
    rw [unused] at same
    exact same
  refine keeps_bind (updateAttempt_attempted _ _ _ _ _ _) fun _ => ?_
  refine keeps_bind cleared fun _ => ?_
  refine keeps_bind (updateRun_attempted _ _ ?_) fun _ => ?_
  · intro wanted isWanted
    rw [← Option.some.inj isWanted]
    exact ⟨attempt, had, ofRun⟩
  · exact appendRunEvent_keeps (attempted_events base) _ _ _ _ _ _ _ (Or.inl trivial)

end OpenRill.Runs.AttemptOwners
