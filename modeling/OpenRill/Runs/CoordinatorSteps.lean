import OpenRill.Runs.AwaitedRuns

/-!
# The steps of the coordinator keep what it owes

One lemma for each operation of the host: in a state that meets the condition of the
operation, the invariant of the coordinator is kept, and what the operation reports is
true.
-/

namespace OpenRill.Runs.CoordinatorSteps

open Lib Lib.Runs Lib.Transaction State Ledger Delegations Lifecycle Operations LedgerRules
open StatusMoves Coordinator KernelEnds AwaitedRuns

variable {options : RunOptions} {host : Host} {runId : String} {waiters : List String}

theorem start_blocked (steady : Steady host) {call : Call}
    (blocked : host.closing = true ∨ isActive host runId) :
    Steady (start options runId call host) := by
  unfold start
  rw [if_pos blocked]
  exact steady

theorem start_awaited (steady : Steady { host with waiters := waiters }) (call : Call)
    (notClosing : host.closing = false) (idle : ¬ isActive host runId)
    (notCompleted : statusOf host runId ≠ some .completed)
    (awaits : ∀ waiter ∈ host.waiters, waiter = runId ∨ waiter ∈ waiters) :
    Steady (start options runId call host) := by
  unfold start
  split
  next blocked =>
    rcases blocked with closing | active
    · rw [closing] at notClosing
      cases notClosing
    · exact absurd active idle
  next =>
    have begins : Begun (statuses host.tables.ledger) runId
        (prepare options runId call host.tables) := prepare_begun runId call rfl
    have opened := open_steady steady idle notClosing awaits begins notCompleted
    exact opened

theorem start_steady (steady : Steady host) (runId : String) (call : Call)
    (spares : SparesCompleted host runId) : Steady (start options runId call host) := by
  by_cases blocked : host.closing = true ∨ isActive host runId
  · exact start_blocked steady blocked
  obtain ⟨open_, idle⟩ := not_or.mp blocked
  have notClosing : host.closing = false := by simpa using open_
  have notCompleted : statusOf host runId ≠ some .completed := by
    rcases spares with closing | active | notCompleted
    · exact absurd closing open_
    · exact absurd active idle
    · exact notCompleted
  exact start_awaited steady call notClosing idle notCompleted fun _ waits => Or.inr waits

theorem resume_steady (steady : Steady host) (runId : String) (call : Call)
    (spares : SparesCompleted host runId) : Steady (resume options runId call host) := by
  unfold resume
  split
  next => exact steady
  next =>
    split
    next =>
      refine ⟨steady.distinct, steady.sound, steady.completed, ?_, steady.closed, steady.truthful⟩
      intro notClosing waiter waits ended
      obtain ⟨other, otherIn, isRun, settles⟩ := steady.awaited notClosing waiter waits ended
      exact ⟨other, otherIn, isRun, settles.imp id List.mem_insert_of_mem⟩
    next => exact start_steady steady runId call spares

theorem mem_terminalWaiter {waiter : String}
    (waits : waiter ∈ (terminalWaiter runId host).waiters) :
    waiter = runId ∨ waiter ∈ host.waiters := by
  unfold terminalWaiter at waits
  split at waits
  next => exact Or.inr waits
  next =>
    rcases List.mem_append.mp waits with earlier | last
    · exact Or.inr earlier
    · exact Or.inl (List.mem_singleton.mp last)

theorem terminalWaiter_eq (runId : String) :
    terminalWaiter runId host = { host with waiters := (terminalWaiter runId host).waiters } := by
  unfold terminalWaiter
  split <;> rfl

theorem join_steady (steady : Steady host) (notClosing : host.closing = false)
    (awaits : ∀ waiter ∈ waiters, waiter = runId ∨ waiter ∈ host.waiters)
    (active : isActive host runId) (inFlight : hasEnded (statusOf host runId) = true →
      Settles host runId ∧ ∀ execution ∈ host.active, execution.runId = runId →
        statusOf host runId = some .completed → Settled execution.phase = false) :
    Steady { host with waiters := waiters } where
  distinct := steady.distinct
  sound := steady.sound
  completed waiter waits completed := by
    rcases awaits waiter waits with own | earlier
    · obtain ⟨execution, executionIn, isRun⟩ := active
      rw [own] at completed ⊢
      have isCompleted : statusOf host runId = some .completed := completed
      have ended : hasEnded (statusOf host runId) = true := by
        rw [isCompleted]
        rfl
      exact ⟨execution, executionIn, isRun,
        (inFlight ended).2 execution executionIn isRun isCompleted⟩
    · exact steady.completed waiter earlier completed
  awaited _ waiter waits ended := by
    rcases awaits waiter waits with own | earlier
    · rw [own] at ended ⊢
      exact (inFlight ended).1
    · exact steady.awaited notClosing waiter earlier ended
  closed closed := by
    rw [(steady.closed closed).1] at notClosing
    cases notClosing
  truthful := steady.truthful

theorem executeUntilTerminal_steady (steady : Steady host) (runId : String) (call : Call)
    (meets : Meets options host (.executeUntilTerminal runId call)) :
    Steady (executeUntilTerminal options runId call host) := by
  obtain ⟨spares, inFlight⟩ := meets
  unfold executeUntilTerminal
  split
  next => exact steady
  next open_ =>
    have notClosing : host.closing = false := by simpa using open_
    rw [terminalWaiter_eq]
    have awaits : ∀ waiter ∈ (terminalWaiter runId host).waiters,
        waiter = runId ∨ waiter ∈ host.waiters := fun _ waits => mem_terminalWaiter waits
    by_cases active : isActive host runId
    · have joined : Steady { host with waiters := (terminalWaiter runId host).waiters } :=
        join_steady steady notClosing awaits active (inFlight notClosing active)
      exact start_blocked joined (Or.inr active)
    have notCompleted : statusOf host runId ≠ some .completed := by
      rcases spares with closing | inFlight | notCompleted
      · exact absurd closing open_
      · exact absurd inFlight active
      · exact notCompleted
    have before : Steady
        { { host with waiters := (terminalWaiter runId host).waiters } with
          waiters := host.waiters } := steady
    exact start_awaited before call notClosing active notCompleted awaits

theorem settleTerminal_steady (steady : Steady host) (result : ExecutionResult)
    (true_ : result.status.ended.isSome = true →
      hasEnded (statusOf host result.runId) = true ∧
        statusOf host result.runId = result.status.ended) :
    Steady (settleTerminal result host) := by
  unfold settleTerminal
  split
  next settles =>
    refine tell_steady (unwait_steady steady _ fun waiter waits => ?_) _ (true_ settles.1)
    exact (List.mem_filter.mp waits).1
  next => exact steady

theorem settleTerminal_unwaits {result : ExecutionResult}
    (told : result.status.ended.isSome = true) :
    result.runId ∉ (settleTerminal result host).waiters := by
  unfold settleTerminal
  split
  next =>
    intro waits
    have kept := (List.mem_filter.mp waits).2
    simp at kept
  next unsettled => exact fun waits => unsettled ⟨told, waits⟩

theorem resultStatusOf_ended {status : RunStatus} {result : ResultStatus}
    (isResult : resultStatusOf status = some result) :
    result.ended = some status ∧ status.terminal = true := by
  cases status with
  | completed =>
    obtain rfl := Option.some.inj isResult
    exact ⟨rfl, rfl⟩
  | failed =>
    obtain rfl := Option.some.inj isResult
    exact ⟨rfl, rfl⟩
  | cancelled =>
    obtain rfl := Option.some.inj isResult
    exact ⟨rfl, rfl⟩
  | created => cases isResult
  | running => cases isResult
  | waitingApproval => cases isResult

theorem cancel_steady (steady : Steady host) (runId : String) :
    Steady (Coordinator.cancel runId host) := by
  unfold Coordinator.cancel
  split
  next =>
    apply abort_steady steady
    · intro execution
      split <;> rfl
    · intro execution
      split <;> rfl
  next =>
    split
    next => exact steady
    next context read =>
      split
      next => exact steady
      next status isResult =>
        obtain ⟨told, terminal⟩ := resultStatusOf_ended isResult
        apply settleTerminal_steady steady
        intro _
        have isStatus : statusOf host runId = some context.run.status :=
          contextOf_status read
        change hasEnded (statusOf host runId) = true ∧ statusOf host runId = status.ended
        rw [isStatus, told]
        exact ⟨terminal, rfl⟩

theorem rejectWaiter_steady (steady : Steady host) (runId : String)
    (notCompleted : statusOf host runId ≠ some .completed) :
    Steady (rejectWaiter runId host) := by
  unfold rejectWaiter
  split
  next =>
    refine tell_steady (unwait_steady steady _ fun waiter waits => ?_) _ notCompleted
    exact (List.mem_filter.mp waits).1
  next => exact steady

theorem rejectWaiter_unwaits (runId : String) :
    runId ∉ (rejectWaiter runId host).waiters := by
  unfold rejectWaiter
  split
  next =>
    intro waits
    have kept := (List.mem_filter.mp waits).2
    simp at kept
  next absent => exact absent

theorem close_steady (steady : Steady host) : Steady (close host) := by
  unfold close
  split
  next => exact steady
  next =>
    have aborted := abort_steady steady (abort .hostShutdown) (fun _ => rfl) fun _ => rfl
    refine ⟨aborted.distinct, aborted.sound, aborted.completed, ?_, ?_, aborted.truthful⟩
    · exact fun notClosing => nomatch notClosing
    · exact fun closed => ⟨rfl, (steady.closed closed).2⟩

theorem rejections_truthful (waiters : List String) (current : Host)
    (spared : ∀ waiter ∈ waiters, statusOf current waiter ≠ some .completed)
    (truthful : ∀ told ∈ current.told, Truthful told) :
    ∀ told ∈ (waiters.foldl (fun current waiter => tell (.rejected waiter) current) current).told,
      Truthful told := by
  induction waiters generalizing current with
  | nil => exact truthful
  | cons waiter rest ih =>
    apply ih
    · exact fun other otherIn => spared other (List.mem_cons_of_mem _ otherIn)
    intro told toldIn
    rcases List.mem_append.mp toldIn with earlier | last
    · exact truthful told earlier
    · rw [List.mem_singleton] at last
      rw [last]
      exact spared waiter List.mem_cons_self

theorem rejections_frame (waiters : List String) (current : Host) :
    let after := waiters.foldl (fun current waiter => tell (.rejected waiter) current) current
    after.active = current.active ∧ after.tables = current.tables ∧
      after.closing = current.closing := by
  induction waiters generalizing current with
  | nil => exact ⟨rfl, rfl, rfl⟩
  | cons waiter rest ih => exact ih (tell (.rejected waiter) current)

theorem finishClose_steady (steady : Steady host) : Steady (finishClose host) := by
  unfold finishClose
  split
  next closes =>
    obtain ⟨closing, -, none⟩ := closes
    have spared : ∀ waiter ∈ host.waiters, statusOf host waiter ≠ some .completed := by
      intro waiter waits completed
      obtain ⟨execution, executionIn, -⟩ := steady.completed waiter waits completed
      rw [none] at executionIn
      cases executionIn
    obtain ⟨sameActive, -, sameClosing⟩ := rejections_frame host.waiters host
    refine ⟨?_, ?_, ?_, ?_, ?_, rejections_truthful host.waiters host spared steady.truthful⟩
    · dsimp only
      rw [sameActive, none]
      exact List.nodup_nil
    · intro execution executionIn
      rw [sameActive, none] at executionIn
      cases executionIn
    · exact fun _ waits => nomatch waits
    · exact fun _ _ waits => nomatch waits
    · intro _
      refine ⟨?_, rfl⟩
      rw [sameClosing]
      exact closing
  next => exact steady

variable {result : ExecutionResult}

theorem shows_own (host : Host) : OnLedger (Shows (statuses host.tables.ledger)) host.tables := rfl

theorem prepared_steady (steady : Steady host) (runId : String) (failure : Option String)
    (call : Call) : Steady (prepared options runId failure call host) := by
  unfold prepared
  split
  next ownId abort found =>
    obtain ⟨executionIn, isRun⟩ := found_in found
    have notCompleted : statusOf host runId ≠ some .completed := by
      have sound := steady.sound _ executionIn
      rw [← isRun]
      exact sound
    subst isRun
    split
    next message =>
      have begun : Begun (statuses host.tables.ledger) ownId
          (failPreparation options ownId message call host.tables) :=
        failPreparation_begun ownId message call (shows_own host)
      obtain ⟨sound, tells, unsettled, others⟩ := begun_sound begun notCompleted
      exact advance_steady steady executionIn others sound (fun _ _ => unsettled)
        fun _ _ _ => Or.inl tells
    next =>
      split
      next initial _ =>
        exact advance_steady steady executionIn (fun _ _ => rfl) notCompleted
          (fun _ _ => rfl) fun _ _ _ => Or.inl rfl
      next =>
        exact advance_steady steady executionIn (fun _ _ => rfl) notCompleted
          (fun _ _ => rfl) fun _ _ _ => Or.inl rfl
  next => exact steady

theorem resolved_steady (steady : Steady host) (runId : String)
    (answer : Option ModelResolution) (call : Call) :
    Steady (resolved options runId answer call host) := by
  unfold resolved
  split
  next ownId abort initial found =>
    obtain ⟨executionIn, isRun⟩ := found_in found
    have notCompleted : statusOf host runId ≠ some .completed := by
      have sound := steady.sound _ executionIn
      rw [← isRun]
      exact sound
    subst isRun
    split
    next =>
      exact advance_steady steady executionIn (fun _ _ => rfl) notCompleted
        (fun _ _ => rfl) fun _ _ _ => Or.inl rfl
    next resolution =>
      have started : Ends host.tables (startKernel options ownId initial resolution call)
          (fun _ => OnLedger (Shows (setStatus (statuses host.tables.ledger) ownId .running)))
          (OnLedger (Shows (statuses host.tables.ledger))) :=
        startKernel_ends ownId initial resolution call (shows_own host)
      unfold Ends at started
      split
      next row reached ran =>
        rw [ran] at started
        have shown : statuses reached.ledger =
            setStatus (statuses host.tables.ledger) ownId .running := started
        refine advance_steady steady executionIn ?_ ?_ (fun _ _ => rfl) fun _ _ _ => Or.inl rfl
        · intro other different
          rw [shown]
          exact setStatus_other different _
        · rw [shown]
          exact Or.inl (setStatus_self _ _ _)
      next failure reached ran =>
        rw [ran] at started
        have shown : statuses reached.ledger = statuses host.tables.ledger := started
        refine advance_steady steady executionIn ?_ ?_ (fun _ _ => rfl) fun _ _ _ => Or.inl rfl
        · exact fun other _ => congrFun shown other
        · rw [shown]
          exact notCompleted
  next => exact steady

theorem returned_sound {known : StatusMap} {runId : String} {ending : RunStatus}
    {reached : RunTables} (returned : Returned known runId ending result reached)
    (agrees : hasEnded (known runId) = true → known runId = some ending) :
    Sound runId (statuses reached.ledger runId) (.returned result) ∧
      (hasEnded (statuses reached.ledger runId) = true → Tells (.returned result) = true) ∧
      ∀ other, other ≠ runId → statuses reached.ledger other = known other := by
  obtain ⟨own, status, shown, told⟩ := returned
  have isStatus : statuses reached.ledger runId = some status := by
    rw [show statuses reached.ledger = setStatus known runId status from shown]
    exact setStatus_self _ _ _
  have others : ∀ other, other ≠ runId → statuses reached.ledger other = known other := by
    intro other different
    rw [show statuses reached.ledger = setStatus known runId status from shown]
    exact setStatus_other different _
  rw [isStatus]
  rcases told with ended | ⟨open_, live⟩ | ⟨before, terminal, ended⟩
  · refine ⟨⟨own, fun open_ => ?_, fun _ => ended.symm⟩, fun _ => ?_, others⟩
    · rw [open_] at ended
      cases ended
    · simp [Tells, ended]
  · refine ⟨⟨own, fun _ completed => ?_, fun told => ?_⟩, fun ended => ?_, others⟩
    · rw [Option.some.inj completed] at live
      cases live
    · rw [open_] at told
      cases told
    · rw [hasEnded, Option.any_some, live] at ended
      cases ended
  · have isEnding : some status = some ending := by
      rw [← before]
      apply agrees
      rw [before]
      exact terminal
    refine ⟨⟨own, fun open_ => ?_, fun _ => isEnding.trans ended.symm⟩, fun _ => ?_, others⟩
    · rw [open_] at ended
      cases ended
    · simp [Tells, ended]

theorem ends_steady (steady : Steady host) (runId : String) (usage : Usage) (ending : Ending)
    (call : Call) (meets : Meets options host (.ends runId usage ending call)) :
    Steady (ends options runId usage ending call host) := by
  unfold ends
  split
  next execution found =>
    obtain ⟨executionIn, isRun⟩ := found_in found
    split
    next isPhase =>
      split
      next admitted =>
        have inFlight : RunningOrEnded (statusOf host runId) := by
          have sound := steady.sound execution executionIn
          rw [isPhase, isRun] at sound
          exact sound
        have agrees : hasEnded (statusOf host runId) = true →
            statusOf host runId = some (reports ending) := by
          apply meets execution executionIn isRun ?_ admitted
          rw [isPhase]
          rfl
        have ended : Ends host.tables (endKernel options runId usage call ending)
            (Returned (statuses host.tables.ledger) runId (reports ending))
            (OnLedger (Shows (statuses host.tables.ledger))) :=
          endKernel_ends runId usage call ending inFlight (shows_own host)
        unfold Ends at ended
        split
        next result reached ran =>
          rw [ran] at ended
          obtain ⟨sound, tells, others⟩ := returned_sound ended agrees
          subst isRun
          exact advance_steady steady executionIn others sound (fun _ _ => rfl)
            fun _ _ ended => Or.inl (tells ended)
        next failure reached ran =>
          rw [ran] at ended
          have shown : statuses reached.ledger = statuses host.tables.ledger := ended
          subst isRun
          refine advance_steady steady executionIn ?_ ?_ (fun _ _ => rfl) fun _ _ _ => Or.inl rfl
          · exact fun other _ => congrFun shown other
          intro completed
          rw [shown] at completed
          have same : statusOf host execution.runId = some .completed := completed
          rw [same] at inFlight
          rcases inFlight with running | failed | cancelled
          · cases running
          · cases failed
          · cases cancelled
      next => exact steady
    next => exact steady
  next => exact steady

theorem noticeOf_truthful
    (sound : Sound result.runId (statusOf host result.runId) (.returned result)) :
    Truthful
      { report := .updated (noticeOf host.tables result)
        durable := statusOf host result.runId } := by
  intro completed
  obtain ⟨-, waiting, ended⟩ := sound
  have isCompleted : statusOf host result.runId = some .completed := completed
  have told : result.status = .completed := by
    cases isResult : result.status with
    | completed => rfl
    | failed =>
      rw [isResult, isCompleted] at ended
      cases ended rfl
    | cancelled =>
      rw [isResult, isCompleted] at ended
      cases ended rfl
    | waitingApproval =>
      rw [isResult] at waiting
      exact absurd isCompleted (waiting rfl)
    | waitingDelegation =>
      rw [isResult] at waiting
      exact absurd isCompleted (waiting rfl)
    | interrupted =>
      rw [isResult] at waiting
      exact absurd isCompleted (waiting rfl)
  unfold noticeOf
  rw [told]
  refine ⟨?_, ?_, fun failed => nomatch failed⟩
  · split
    next context read =>
      have isStatus : statusOf host result.runId = some context.run.status :=
        contextOf_status read
      rw [isCompleted] at isStatus
      rw [← Option.some.inj isStatus]
      exact fun failed => nomatch failed
    next => exact fun failed => nomatch failed
  · split
    next => exact fun failed => nomatch failed
    next => exact fun failed => nomatch failed

theorem reported_steady (steady : Steady host) (runId : String) :
    Steady (reported runId host) := by
  unfold reported
  split
  next ownId abort result found =>
    obtain ⟨executionIn, isRun⟩ := found_in found
    have sound := steady.sound _ executionIn
    obtain ⟨own, waiting, ended⟩ := sound
    have truthful : Truthful
        { report := .updated (noticeOf host.tables result)
          durable := statusOf host result.runId } := by
      apply noticeOf_truthful
      rw [own]
      exact ⟨own, waiting, ended⟩
    have told : Steady (tell (.updated (noticeOf host.tables result)) host) :=
      tell_steady steady _ truthful
    subst isRun
    refine advance_steady told executionIn (fun _ _ => rfl) ?_ ?_ ?_
    · split
      next final => exact ⟨own, final, ended final⟩
      next => trivial
    · intro _ completed
      split
      next => rfl
      next open_ => exact absurd completed (waiting (by simpa using open_))
    · intro notClosing waits hasEnded
      split
      next => exact Or.inl rfl
      next open_ =>
        obtain ⟨other, otherIn, isOther, settles⟩ :=
          steady.awaited notClosing ownId waits hasEnded
        have same := same_execution steady otherIn executionIn isOther
        rw [same] at settles
        refine Or.inr (settles.resolve_left fun tells => open_ tells)
  next => exact steady

theorem handled_steady (steady : Steady host) (runId : String) (threw : Bool)
    (meets : Meets options host (.handled runId threw)) : Steady (handled runId threw host) := by
  unfold handled
  split
  next ownId abort result found =>
    obtain ⟨executionIn, isRun⟩ := found_in found
    obtain ⟨own, told, ended⟩ := steady.sound _ executionIn
    subst isRun
    split
    next threw =>
      have notCompleted : statusOf host ownId ≠ some .completed := by
        intro completed
        rw [completed] at ended
        have isResult : result.status = .completed := by
          cases isResult : result.status <;> rw [isResult] at ended <;> first
            | rfl
            | cases ended
        apply meets threw _ executionIn rfl
        exact congrArg some isResult
      exact advance_steady steady executionIn (fun _ _ => rfl) notCompleted
        (fun _ _ => rfl) fun _ _ _ => Or.inl rfl
    next =>
      have settled : Steady (settleTerminal result host) := by
        apply settleTerminal_steady steady
        intro _
        rw [own]
        refine ⟨?_, ended⟩
        rw [ended]
        obtain ⟨status, isStatus⟩ := Option.isSome_iff_exists.mp told
        cases isResult : result.status <;> rw [isResult] at isStatus <;>
          cases isStatus <;> rfl
      have sameActive : (settleTerminal result host).active = host.active := by
        unfold settleTerminal
        split <;> rfl
      rw [← sameActive] at executionIn
      have left : ownId ∉ (settleTerminal result host).waiters := by
        have isOwn : result.runId = ownId := own
        rw [← isOwn]
        exact settleTerminal_unwaits told
      refine advance_steady settled executionIn (fun _ _ => rfl) trivial ?_ ?_
      · exact fun waits => absurd waits left
      · exact fun _ waits => absurd waits left
  next => exact steady

theorem caught_steady (steady : Steady host) (runId : String) : Steady (caught runId host) := by
  unfold caught
  split
  next ownId abort found =>
    obtain ⟨executionIn, isRun⟩ := found_in found
    have notCompleted : statusOf host ownId ≠ some .completed := steady.sound _ executionIn
    subst isRun
    have noticed : Steady (tell (.updated (errorNotice ownId)) host) :=
      tell_steady steady _ fun completed => absurd completed notCompleted
    have rejected : Steady
        (rejectWaiter ownId (tell (.updated (errorNotice ownId)) host)) :=
      rejectWaiter_steady noticed ownId notCompleted
    have left : ownId ∉
        (rejectWaiter ownId (tell (.updated (errorNotice ownId)) host)).waiters :=
      rejectWaiter_unwaits ownId
    have sameActive : (rejectWaiter ownId (tell (.updated (errorNotice ownId)) host)).active =
        host.active := by
      unfold rejectWaiter
      split <;> rfl
    rw [← sameActive] at executionIn
    refine advance_steady rejected executionIn
      (fun _ _ => rfl) trivial ?_ ?_
    · exact fun waits => absurd waits left
    · exact fun _ waits => absurd waits left
  next => exact steady

theorem left_idle (runId : String) : ¬ isActive (leave runId host) runId := by
  rintro ⟨other, otherIn, isOther⟩
  have different := (List.mem_filter.mp otherIn).2
  rw [isOther] at different
  simp at different

theorem finished_steady (steady : Steady host) (runId : String) (call : Call)
    (meets : Meets options host (.finished runId call)) :
    Steady (finished options runId call host) := by
  unfold finished
  split
  next ownId abort found =>
    obtain ⟨executionIn, isRun⟩ := found_in found
    subst isRun
    split
    next pending =>
      by_cases closing : host.closing = true
      · -- A closing coordinator starts nothing.
        have left : Steady { leave ownId host with waiters := host.waiters } :=
          leave_steady steady executionIn rfl (fun _ waits => waits)
            fun notClosing => absurd closing (by simp [notClosing])
        exact start_blocked left (Or.inl closing)
      · have notClosing : host.closing = false := by simpa using closing
        have notCompleted : statusOf host ownId ≠ some .completed :=
          meets notClosing pending ⟨_, executionIn, rfl, rfl⟩
        -- The run is left without its waiter, which the next execution takes over.
        have left : Steady
            { leave ownId host with
              waiters := host.waiters.filter (fun waiter => decide (waiter ≠ ownId)) } := by
          apply leave_steady steady executionIn rfl
          · exact fun _ waits => (List.mem_filter.mp waits).1
          · intro _ waits
            have different := (List.mem_filter.mp waits).2
            simp at different
        refine start_awaited left call notClosing (left_idle ownId) notCompleted ?_
        intro waiter waits
        by_cases own : waiter = ownId
        · exact Or.inl own
        · exact Or.inr (List.mem_filter.mpr ⟨waits, decide_eq_true own⟩)
    next notPending =>
      have left : Steady { leave ownId host with waiters := host.waiters } :=
        leave_steady steady executionIn rfl (fun _ waits => waits) fun _ _ => notPending
      exact left
  next => exact steady

theorem other_steady (steady : Steady host) (op : RunOp)
    (meets : Meets options host (.other op)) : Steady (other options op host) := by
  unfold other
  split
  next => exact steady
  next foreign =>
    obtain ⟨settled, kept⟩ := meets.resolve_left foreign
    exact elsewhere_steady steady (step_elsewhere host.tables op foreign) settled kept

theorem cancelled_statuses {input : CancelInput} {call : Call} {row : RunRow × Bool}
    {ledger : RunStore}
    (ran : (Lifecycle.cancel options input call.now call.createId).run host.tables.ledger =
      .ok (row, ledger)) :
    (∀ runId, runId ≠ input.runId → statuses ledger runId = statusOf host runId) ∧
      hasEnded (statuses ledger input.runId) = true ∧
      (hasEnded (statusOf host input.runId) = true →
        statuses ledger input.runId = statusOf host input.runId) ∧
      ∀ runId, Elsewhere (statusOf host runId) (statuses ledger runId) := by
  have elsewhere : ShowsElsewhere (statuses host.tables.ledger) ledger :=
    cancel_keeps (elsewhere_rules options.completionRule) input call.now call.createId
      host.tables.ledger row ledger (elsewhere_of_shows rfl) ran
  obtain ⟨status, isStatus, ⟨terminal, shown⟩ | ⟨live, shown⟩⟩ :=
    cancel_moves input call.now call.createId host.tables.ledger row ledger rfl ran
  · have same : statuses ledger = statuses host.tables.ledger := shown
    refine ⟨fun runId _ => congrFun same runId, ?_, fun _ => congrFun same input.runId, elsewhere⟩
    rw [same, isStatus]
    exact terminal
  · have moved : statuses ledger =
        setStatus (statuses host.tables.ledger) input.runId .cancelled := shown
    refine ⟨fun runId different => ?_, ?_, fun ended => ?_, elsewhere⟩
    · rw [moved]
      exact setStatus_other different _
    · rw [moved, setStatus_self]
      rfl
    · have before : statusOf host input.runId = some status := isStatus
      rw [before, hasEnded, Option.any_some, live] at ended
      cases ended

theorem ended_of_final (steady : Steady host) {execution : ActiveRun}
    (executionIn : execution ∈ host.active) (told : (final execution.phase).isSome = true) :
    hasEnded (statusOf host execution.runId) = true := by
  have endedStatus : ∀ status : ResultStatus, status.ended.isSome = true →
      hasEnded status.ended = true := by
    intro status isSome
    cases status <;> first | rfl | cases isSome
  have sound := steady.sound execution executionIn
  cases isPhase : execution.phase with
  | returned result =>
    rw [isPhase] at sound told
    rw [sound.2.2 told]
    exact endedStatus result.status told
  | notifying result =>
    rw [isPhase] at sound told
    rw [sound.2.2]
    exact endedStatus result.status told
  | preparing =>
    rw [isPhase] at told
    cases told
  | resolving initial =>
    rw [isPhase] at told
    cases told
  | running =>
    rw [isPhase] at told
    cases told
  | rejected =>
    rw [isPhase] at told
    cases told
  | settling =>
    rw [isPhase] at told
    cases told

theorem cancel_settles {runId : String}
    (steady : Steady
      { host with waiters := host.waiters.filter (fun waiter => decide (waiter ≠ runId)) })
    (idle : ¬ isActive host runId) (waits : runId ∈ host.waiters)
    (readable : (contextOf host.tables runId).isSome = true)
    (ended : hasEnded (statusOf host runId) = true) :
    Steady (Coordinator.cancel runId host) := by
  unfold Coordinator.cancel
  rw [if_neg idle]
  obtain ⟨context, read⟩ := Option.isSome_iff_exists.mp readable
  have isStatus : statusOf host runId = some context.run.status := contextOf_status read
  have terminal : context.run.status.terminal = true := by
    rw [isStatus] at ended
    exact ended
  obtain ⟨status, isResult⟩ : ∃ status, resultStatusOf context.run.status = some status := by
    cases isRun : context.run.status with
    | completed => exact ⟨_, rfl⟩
    | failed => exact ⟨_, rfl⟩
    | cancelled => exact ⟨_, rfl⟩
    | created =>
      rw [isRun] at terminal
      cases terminal
    | running =>
      rw [isRun] at terminal
      cases terminal
    | waitingApproval =>
      rw [isRun] at terminal
      cases terminal
  obtain ⟨told, -⟩ := resultStatusOf_ended isResult
  have settles : (resultOf runId 0 status (statusText context.run.status)).status.ended.isSome =
        true ∧
      (resultOf runId 0 status (statusText context.run.status)).runId ∈ host.waiters := by
    refine ⟨?_, waits⟩
    change status.ended.isSome = true
    rw [told]
    rfl
  rw [read]
  dsimp only
  rw [isResult]
  dsimp only
  unfold settleTerminal
  rw [if_pos settles]
  apply tell_steady steady
  change hasEnded (statusOf host runId) = true ∧ statusOf host runId = status.ended
  rw [told]
  exact ⟨ended, isStatus⟩

theorem operatorCancel_steady (steady : Steady host) (input : CancelInput) (call : Call)
    (meets : Meets options host (.operatorCancel input call)) :
    Steady (operatorCancel options input call host) := by
  unfold operatorCancel
  split
  next row ledger ran =>
    simp only [Meets, ran] at meets
    obtain ⟨others, ended, absorbed, elsewhere⟩ := cancelled_statuses ran
    have kept : KeepsFinal host (statuses ledger) := by
      intro execution executionIn told
      by_cases own : execution.runId = input.runId
      · rw [own]
        apply absorbed
        rw [← own]
        exact ended_of_final steady executionIn told
      · exact others execution.runId own
    have unwaited : Steady
        { host with
          waiters := host.waiters.filter (fun waiter => decide (waiter ≠ input.runId)) } :=
      unwait_steady steady _ fun _ waits => (List.mem_filter.mp waits).1
    by_cases settles : EndsSettled host (statuses ledger)
    · have cancelled : Steady { host with tables := host.tables.withLedger ledger } :=
        elsewhere_steady steady elsewhere settles kept
      exact cancel_steady cancelled input.runId
    -- The run is idle, and its waiter is settled in the same turn.
    have own : input.runId ∈ host.waiters ∧ host.closing = false ∧
        hasEnded (statusOf host input.runId) = false ∧ ¬ Settles host input.runId := by
      unfold EndsSettled at settles
      push Not at settles
      obtain ⟨waiter, waits, notClosing, live, endedNow, unsettled⟩ := settles
      have isOwn : waiter = input.runId := by
        by_contra different
        rw [others waiter different, live] at endedNow
        cases endedNow
      rw [isOwn] at waits live unsettled
      exact ⟨waits, notClosing, live, unsettled⟩
    obtain ⟨waits, notClosing, live, unsettled⟩ := own
    have settled := meets waits notClosing live
    by_cases active : isActive host input.runId
    · rw [if_pos active] at settled
      exact absurd settled unsettled
    rw [if_neg active] at settled
    have remaining : Steady
        { host with
          waiters := host.waiters.filter fun waiter => decide (waiter ≠ input.runId)
          tables := host.tables.withLedger ledger } := by
      refine elsewhere_steady unwaited elsewhere ?_ kept
      intro waiter waiting _ before after
      have different := (List.mem_filter.mp waiting).2
      have unmoved : statuses ledger waiter = statusOf host waiter :=
        others waiter (by simpa using different)
      rw [show statuses (host.tables.withLedger ledger).ledger waiter =
        statusOf host waiter from unmoved] at after
      have beforeHost : hasEnded (statusOf host waiter) = false := before
      rw [beforeHost] at after
      cases after
    exact cancel_settles remaining active waits settled ended
  next => exact steady

theorem step_steady (op : HostOp) (meets : Meets options host op) (steady : Steady host) :
    Steady (step options host op) := by
  cases op with
  | schedule runId call => exact start_steady steady runId call meets
  | ensureScheduled runId call => exact start_steady steady runId call meets
  | resume runId call => exact resume_steady steady runId call meets
  | executeUntilTerminal runId call => exact executeUntilTerminal_steady steady runId call meets
  | cancel runId => exact cancel_steady steady runId
  | close => exact close_steady steady
  | finishClose => exact finishClose_steady steady
  | prepared runId failure call => exact prepared_steady steady runId failure call
  | resolved runId answer call => exact resolved_steady steady runId answer call
  | ends runId usage ending call => exact ends_steady steady runId usage ending call meets
  | reported runId => exact reported_steady steady runId
  | handled runId threw => exact handled_steady steady runId threw meets
  | caught runId => exact caught_steady steady runId
  | finished runId call => exact finished_steady steady runId call meets
  | other op => exact other_steady steady op meets
  | operatorCancel input call => exact operatorCancel_steady steady input call meets

end OpenRill.Runs.CoordinatorSteps
