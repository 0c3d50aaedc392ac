import OpenRill.Automation.DeskMoves
import OpenRill.Automation.Fleet
import OpenRill.Lib.OneShot

/-!
# One agent Run for each automation run

To send the prompt of an automation run is a right that can be used once: marking the run
running while no agent Run is bound to it takes the right and spends it for good, since a
run that is running without an agent Run is never put back in the queue. So the prompt is
sent at most once whatever the processes do, the one agent Run of that submission is the
only one ever bound, and an execution that comes later goes on with it.
-/

namespace OpenRill.Automation.OneRun

open Lib Lib.Runs
open OpenRill.Runs.Lifecycle (RunOptions)
open OpenRill.Runs.Operations (RunOp)
open Ledger SchedulerProcess Executor RowMoves DeskMoves Fleet

variable {automationRunId : String} {fleet : Fleet} {tables after : AutomationTables}
variable {process : Nat} {desk : Desk}

/-- At most one prompt is sent for a run, what is bound to it was made by that prompt, and
whatever is executed for it is what is bound to it. -/
structure OneAgentRun (fleet : Fleet) : Prop where
  sentOnce : (fleet.sent.map Sending.automationRunId).Nodup
  boundSent : ∀ row ∈ fleet.tables.runs.rows, ∀ runId, row.runId = some runId →
    ∃ sending ∈ fleet.sent, sending.automationRunId = row.automationRunId ∧ sending.runId = runId
  executedBound : ∀ executed ∈ fleet.executed, ∃ row ∈ fleet.tables.runs.rows,
    row.automationRunId = executed.automationRunId ∧ row.runId = some executed.runId

def BoundKept (before after : Fleet) : Prop :=
  ∀ row ∈ before.tables.runs.rows, ∀ runId, row.runId = some runId →
    ∃ later ∈ after.tables.runs.rows,
      later.automationRunId = row.automationRunId ∧ later.runId = some runId

variable {runId : Option String}

def sendRight (stage : Stage) (execution : Execution) : Option String :=
  if isFresh execution = true then executes stage else none

def rightsOf (fleet : Fleet) : OneShot.Rights String Nat where
  spent := { automationRunId | Spent (marks fleet.tables automationRunId) }
  held := fun process =>
    sendRight (fleet.memories process).stage (fleet.memories process).execution
  used := fleet.sent.map Sending.automationRunId

theorem held_put :
    (rightsOf (put fleet process desk)).held =
      Function.update (rightsOf fleet).held process
        (sendRight desk.process.stage desk.execution) := by
  funext other
  simp only [rightsOf, put]
  by_cases same : other = process
  · rw [same, Function.update_self, Function.update_self]
    rfl
  · rw [Function.update_of_ne same, Function.update_of_ne same]

theorem release_steps
    (spent : ∀ wanted, Spent (marks fleet.tables wanted) → Spent (marks desk.process.tables wanted))
    (right : sendRight desk.process.stage desk.execution = none ∨
      sendRight desk.process.stage desk.execution = (rightsOf fleet).held process)
    (sent : desk.sent = fleet.sent) :
    OneShot.Steps (rightsOf fleet) (rightsOf (put fleet process desk)) := by
  refine OneShot.steps_of_release process spent ?_
    (congrArg (List.map Sending.automationRunId) sent)
  rw [held_put]
  rcases right with lost | kept
  · rw [lost]
    exact Or.inr rfl
  · rw [kept]
    exact Or.inl (Function.update_eq_self _ _)

theorem sendRight_stale {stage : Stage} {execution : Execution}
    (stale : isFresh execution = false) : sendRight stage execution = none := by
  unfold sendRight
  rw [stale]
  rfl

theorem spent_running {status : AutomationRunStatus} (begun : status ≠ .pending ∧ status ≠ .claimed)
    (reached : marks after = setMark (marks tables) automationRunId
      { status := status, runId := runId }) (wanted : String) :
    Spent (marks after wanted) ↔ wanted = automationRunId ∨ Spent (marks tables wanted) := by
  rw [reached]
  by_cases own : wanted = automationRunId
  · rw [own, setMark_self]
    exact ⟨fun _ => Or.inl rfl, fun _ => ⟨_, rfl, Or.inr begun⟩⟩
  · rw [setMark_other own]
    exact ⟨Or.inr, fun either => either.resolve_left own⟩

theorem began_steps (claimed : marks fleet.tables automationRunId =
      some { status := .claimed, runId := runId })
    (reached : marks desk.process.tables = setMark (marks fleet.tables) automationRunId
      { status := .running, runId := runId })
    (inHand : executes desk.process.stage = some automationRunId)
    (execution : desk.execution = .begun runId) (sent : desk.sent = fleet.sent) :
    OneShot.Steps (rightsOf fleet) (rightsOf (put fleet process desk)) := by
  have spends := spent_running (by simp) reached
  cases runId with
  | some bound =>
    refine release_steps (fun wanted already => (spends wanted).mpr (Or.inr already))
      (Or.inl (sendRight_stale ?_)) sent
    rw [execution]
    rfl
  | none =>
    have unspent : automationRunId ∉ (rightsOf fleet).spent := by
      rintro ⟨mark, isMark, reason⟩
      rw [claimed] at isMark
      cases isMark
      rcases reason with bound | ⟨-, unclaimed⟩
      · exact bound rfl
      · exact unclaimed rfl
    have right : sendRight desk.process.stage desk.execution = some automationRunId := by
      rw [execution]
      exact inHand
    refine OneShot.steps_of_take process unspent ?_ ?_
      (congrArg (List.map Sending.automationRunId) sent)
    · ext wanted
      exact spends wanted
    · rw [held_put, right]

theorem sent_steps {sending : Sending}
    (fresh : isFresh (deskOf fleet process).execution = true)
    (inHand : executes (deskOf fleet process).process.stage = some sending.automationRunId)
    (tables : desk.process.tables = fleet.tables)
    (stale : isFresh desk.execution = false) (sent : desk.sent = fleet.sent ++ [sending]) :
    OneShot.Steps (rightsOf fleet) (rightsOf (put fleet process desk)) := by
  have holds : (rightsOf fleet).held process = some sending.automationRunId := by
    exact (if_pos fresh).trans inHand
  refine OneShot.steps_of_use process holds ?_ ?_ ?_
  · ext wanted
    change Spent (marks desk.process.tables wanted) ↔ Spent (marks fleet.tables wanted)
    rw [tables]
  · rw [held_put, sendRight_stale stale]
  · simp only [rightsOf, put, sent, List.map_append, List.map_cons, List.map_nil]

theorem did_steps (did : Did (deskOf fleet process) desk) :
    OneShot.Steps (rightsOf fleet) (rightsOf (put fleet process desk)) := by
  cases did with
  | worked _ moved execution sent executed =>
    refine release_steps (fun wanted => carried_spent (moved wanted)) ?_ sent
    rcases execution with idle | ⟨sameStage, same⟩
    · rw [idle]
      exact Or.inl rfl
    · right
      unfold sendRight
      rw [same, sameStage]
      rfl
  | began _ automationRunId runId claimed reached inHand execution sent executed =>
    exact began_steps claimed reached inHand execution sent
  | went runs execution fresh carried followed =>
    refine release_steps (fun _ => id) ?_ rfl
    cases isFreshNow : isFresh execution with
    | false => exact Or.inl (sendRight_stale isFreshNow)
    | true =>
      right
      unfold sendRight
      rw [if_pos isFreshNow]
      exact (if_pos (fresh isFreshNow)).symm
  | sent runs automationRunId conversationId workspaceId runId fresh inHand =>
    exact sent_steps fresh inHand rfl rfl rfl
  | bound tables automationRunId runId execution carried inHand fresh carriesIt followed
      reached =>
      refine release_steps (fun wanted already => ?_) (Or.inl (sendRight_stale fresh)) rfl
      rcases reached with ⟨same, -⟩ | ⟨-, moved⟩
      · change Spent (marks tables wanted)
        rw [same]
        exact already
      · exact (spent_running (by simp) moved wanted).mpr (Or.inr already)
  | awaited automationRunId runId execution inHand followed carried fresh carriesIt
      followsIt =>
      exact release_steps (fun _ => id) (Or.inl (sendRight_stale fresh)) rfl
  | finished _ automationRunId result earlier status carried inHand running reached execution
      sent executed =>
      refine release_steps (fun wanted already => ?_) (Or.inl (sendRight_stale ?_)) sent
      · exact (spent_running (by cases status <;> simp [FinishStatus.toStatus]) reached
          wanted).mpr (Or.inr already)
      · rw [execution]
        rfl

theorem reboot_did (ownerId : String) : Did desk (reboot ownerId desk) :=
  Did.worked _ (fun _ => Carried.same _) (Or.inl rfl) rfl rfl

variable {mark : Mark}

def SentAs (sent : List Sending) (automationRunId runId : String) : Prop :=
  ∃ sending ∈ sent, sending.automationRunId = automationRunId ∧ sending.runId = runId

structure Linked (fleet : Fleet) : Prop where
  sound : OneShot.Sound (rightsOf fleet)
  boundSent : ∀ automationRunId runId,
    boundOf (marks fleet.tables automationRunId) = some runId →
      SentAs fleet.sent automationRunId runId
  carried : ∀ process automationRunId runId,
    executes (fleet.memories process).stage = some automationRunId →
      carries (fleet.memories process).execution = some runId →
        SentAs fleet.sent automationRunId runId
  followed : ∀ process automationRunId runId,
    executes (fleet.memories process).stage = some automationRunId →
      follows (fleet.memories process).execution = some runId →
        boundOf (marks fleet.tables automationRunId) = some runId
  executedBound : ∀ executed ∈ fleet.executed,
    boundOf (marks fleet.tables executed.automationRunId) = some executed.runId

theorem linked_empty {runs : Runs.Delegations.RunTables} : Linked (Fleet.empty runs) where
  sound := by
    have unused := @OneShot.sound_unused String Nat (rightsOf (Fleet.empty runs)).spent
    exact unused
  boundSent _ _ bound := nomatch bound
  carried _ _ _ inHand := nomatch inHand
  followed _ _ _ inHand := nomatch inHand
  executedBound _ member := nomatch member

theorem sentAs_unique {sent : List Sending} (once : (sent.map Sending.automationRunId).Nodup)
    {first second : String} (isFirst : SentAs sent automationRunId first)
    (isSecond : SentAs sent automationRunId second) : first = second := by
  obtain ⟨sending, sendingIn, named, rfl⟩ := isFirst
  obtain ⟨other, otherIn, otherNamed, rfl⟩ := isSecond
  rw [List.inj_on_of_nodup_map once sendingIn otherIn (named.trans otherNamed.symm)]

theorem linked_put (linked : Linked fleet) (did : Did (deskOf fleet process) desk)
    (kept : ∀ automationRunId runId,
      boundOf (marks fleet.tables automationRunId) = some runId →
        boundOf (marks desk.process.tables automationRunId) = some runId)
    (bound : ∀ automationRunId runId,
      boundOf (marks desk.process.tables automationRunId) = some runId →
        SentAs desk.sent automationRunId runId)
    (sent : ∀ sending ∈ fleet.sent, sending ∈ desk.sent)
    (carried : ∀ automationRunId runId, executes desk.process.stage = some automationRunId →
      carries desk.execution = some runId → SentAs desk.sent automationRunId runId)
    (followed : ∀ automationRunId runId, executes desk.process.stage = some automationRunId →
      follows desk.execution = some runId →
        boundOf (marks desk.process.tables automationRunId) = some runId)
    (executed : ∀ executed ∈ desk.executed, executed ∈ fleet.executed ∨
      boundOf (marks desk.process.tables executed.automationRunId) = some executed.runId) :
    Linked (put fleet process desk) where
  sound := OneShot.steps_sound (did_steps did) linked.sound
  boundSent := bound
  carried other automationRunId runId := by
    simp only [put]
    by_cases same : other = process
    · rw [same, Function.update_self]
      exact carried automationRunId runId
    · rw [Function.update_of_ne same]
      intro inHand knows
      obtain ⟨sending, sendingIn, isSending⟩ :=
        linked.carried other automationRunId runId inHand knows
      exact ⟨sending, sent sending sendingIn, isSending⟩
  followed other automationRunId runId := by
    simp only [put]
    by_cases same : other = process
    · rw [same, Function.update_self]
      exact followed automationRunId runId
    · rw [Function.update_of_ne same]
      intro inHand knows
      exact kept automationRunId runId (linked.followed other automationRunId runId inHand knows)
  executedBound record recordIn := by
    rcases executed record recordIn with earlier | now
    · exact kept record.automationRunId record.runId (linked.executedBound record earlier)
    · exact now

section

variable (reached : marks after = setMark (marks tables) automationRunId mark)
include reached

theorem boundOf_set (wanted : String) :
    boundOf (marks after wanted) =
      if wanted = automationRunId then mark.runId else boundOf (marks tables wanted) := by
  rw [reached, setMark]
  split <;> rfl

theorem boundOf_kept_set (own : ∀ runId, boundOf (marks tables automationRunId) = some runId →
      mark.runId = some runId) (wanted runId : String)
    (bound : boundOf (marks tables wanted) = some runId) :
    boundOf (marks after wanted) = some runId := by
  rw [boundOf_set reached]
  split
  next same =>
    rw [same] at bound
    exact own runId bound
  next => exact bound

end

theorem did_linked (linked : Linked fleet) (did : Did (deskOf fleet process) desk) :
    Linked (put fleet process desk) ∧
      ∀ automationRunId runId, boundOf (marks fleet.tables automationRunId) = some runId →
        boundOf (marks desk.process.tables automationRunId) = some runId := by
  have step := did
  cases did with
  | worked _ moved execution sent executed =>
    have unmoved : ∀ wanted, boundOf (marks desk.process.tables wanted) =
        boundOf (marks fleet.tables wanted) :=
      fun wanted => carried_boundOf (moved wanted)
    have kept : ∀ automationRunId runId,
        boundOf (marks fleet.tables automationRunId) = some runId →
          boundOf (marks desk.process.tables automationRunId) = some runId := by
      intro automationRunId runId bound
      rw [unmoved]
      exact bound
    refine ⟨linked_put linked step kept ?_ ?_ ?_ ?_ ?_, kept⟩
    · intro automationRunId runId bound
      rw [unmoved] at bound
      rw [sent]
      exact linked.boundSent automationRunId runId bound
    · intro sending sendingIn
      rw [sent]
      exact sendingIn
    · intro automationRunId runId inHand knows
      rcases execution with idle | ⟨sameStage, same⟩
      · rw [idle] at knows
        cases knows
      · rw [same] at knows
        rw [sameStage] at inHand
        rw [sent]
        exact linked.carried process automationRunId runId inHand knows
    · intro automationRunId runId inHand knows
      rcases execution with idle | ⟨sameStage, same⟩
      · rw [idle] at knows
        cases knows
      · rw [same] at knows
        rw [sameStage] at inHand
        exact kept automationRunId runId
          (linked.followed process automationRunId runId inHand knows)
    · intro record recordIn
      rw [executed] at recordIn
      exact Or.inl recordIn
  | began _ ownId runId claimed reached inHand execution sent executed =>
    have isClaimed : boundOf (marks fleet.tables ownId) = runId := by
      change boundOf (marks (deskOf fleet process).process.tables ownId) = runId
      rw [claimed]
      rfl
    have kept := boundOf_kept_set reached fun other bound => isClaimed.symm.trans bound
    have bindings := boundOf_set reached
    have boundNow : ∀ automationRunId other,
        boundOf (marks desk.process.tables automationRunId) = some other →
          boundOf (marks fleet.tables automationRunId) = some other := by
      intro automationRunId other bound
      rw [bindings] at bound
      split at bound
      next same =>
        rw [same, isClaimed]
        exact bound
      next => exact bound
    refine ⟨linked_put linked step kept ?_ ?_ ?_ ?_ ?_, kept⟩
    · intro automationRunId other bound
      rw [sent]
      exact linked.boundSent automationRunId other (boundNow automationRunId other bound)
    · intro sending sendingIn
      rw [sent]
      exact sendingIn
    · intro automationRunId other isInHand knows
      rw [inHand] at isInHand
      rw [execution] at knows
      rw [sent, ← Option.some.inj isInHand]
      exact linked.boundSent ownId other (isClaimed.trans knows)
    · intro automationRunId other isInHand knows
      rw [inHand] at isInHand
      rw [execution] at knows
      rw [← Option.some.inj isInHand]
      exact kept ownId other (isClaimed.trans knows)
    · intro record recordIn
      rw [executed] at recordIn
      exact Or.inl recordIn
  | went runs execution fresh carried followed =>
    refine ⟨linked_put linked step (fun _ _ => id) linked.boundSent (fun _ => id) ?_ ?_
      fun _ => Or.inl, fun _ _ => id⟩
    · exact fun automationRunId runId inHand knows =>
        linked.carried process automationRunId runId inHand (carried runId knows)
    · exact fun automationRunId runId inHand knows =>
        linked.followed process automationRunId runId inHand (followed runId knows)
  | sent runs ownId conversationId workspaceId runId fresh inHand =>
    have grows : ∀ {automationRunId other}, SentAs fleet.sent automationRunId other →
        SentAs (fleet.sent ++
          [{ automationRunId := ownId
             conversationId := conversationId
             runId := runId }]) automationRunId other := by
      rintro automationRunId other ⟨sending, sendingIn, isSending⟩
      exact ⟨sending, List.mem_append_left _ sendingIn, isSending⟩
    refine ⟨linked_put linked step (fun _ _ => id) ?_ ?_ ?_ nofun fun _ => Or.inl, fun _ _ => id⟩
    · exact fun automationRunId other bound =>
        grows (linked.boundSent automationRunId other bound)
    · exact fun sending sendingIn => List.mem_append_left _ sendingIn
    · intro automationRunId other isInHand knows
      have named : ownId = automationRunId := Option.some.inj (inHand.symm.trans isInHand)
      exact ⟨_, List.mem_append_right _ (List.mem_singleton.mpr rfl), named, Option.some.inj knows⟩
  | bound tables ownId runId execution carried inHand fresh carriesIt followed reached =>
    have ownSent : SentAs fleet.sent ownId runId :=
      linked.carried process ownId runId inHand carried
    have kept : ∀ automationRunId other,
        boundOf (marks fleet.tables automationRunId) = some other →
          boundOf (marks tables automationRunId) = some other := by
      rcases reached with ⟨same, -⟩ | ⟨unbound, moved⟩
      · intro automationRunId other bound
        rw [same]
        exact bound
      · refine boundOf_kept_set moved (fun other bound => ?_)
        change boundOf (marks (deskOf fleet process).process.tables ownId) = _ at bound
        rw [unbound] at bound
        cases bound
    have boundNow : boundOf (marks tables ownId) = some runId := by
      rcases reached with ⟨-, already⟩ | ⟨-, moved⟩
      · exact already
      · rw [boundOf_set moved, if_pos rfl]
    refine ⟨linked_put linked step kept ?_ (fun _ => id) ?_ ?_ fun _ => Or.inl, kept⟩
    · intro automationRunId other bound
      change boundOf (marks tables automationRunId) = some other at bound
      rcases reached with ⟨same, -⟩ | ⟨-, moved⟩
      · rw [same] at bound
        exact linked.boundSent automationRunId other bound
      rw [boundOf_set moved] at bound
      split at bound
      next isOwn =>
        rw [isOwn, ← Option.some.inj bound]
        exact ownSent
      next => exact linked.boundSent automationRunId other bound
    · intro automationRunId other isInHand knows
      have named : ownId = automationRunId := Option.some.inj (inHand.symm.trans isInHand)
      have isRun : runId = other := Option.some.inj (carriesIt.symm.trans knows)
      rw [← named, ← isRun]
      exact ownSent
    · intro automationRunId other isInHand knows
      have named : ownId = automationRunId := Option.some.inj (inHand.symm.trans isInHand)
      rw [← named, followed other knows]
      exact boundNow
  | awaited ownId runId execution inHand followed carried fresh carriesIt followsIt =>
    refine ⟨linked_put linked step (fun _ _ => id) linked.boundSent (fun _ => id) ?_ ?_ ?_,
      fun _ _ => id⟩
    · intro automationRunId other isInHand knows
      have isRun : runId = other := Option.some.inj (carriesIt.symm.trans knows)
      rw [← isRun]
      exact linked.carried process automationRunId runId isInHand carried
    · intro automationRunId other isInHand knows
      have isRun : runId = other := Option.some.inj (followsIt.symm.trans knows)
      rw [← isRun]
      exact linked.followed process automationRunId runId isInHand followed
    · intro record recordIn
      rcases List.mem_append.mp recordIn with earlier | last
      · exact Or.inl earlier
      · right
        rw [List.mem_singleton.mp last]
        exact linked.followed process ownId runId inHand followed
  | finished _ ownId result earlier status carried inHand running reached execution sent
      executed =>
      have wasBound : boundOf (marks fleet.tables ownId) = earlier := by
        change boundOf (marks (deskOf fleet process).process.tables ownId) = earlier
        rw [running]
        rfl
      have resultSent : ∀ runId, result = some runId → SentAs fleet.sent ownId runId :=
        fun runId isResult =>
          linked.carried process ownId runId inHand (carried runId isResult)
      have kept := boundOf_kept_set reached fun runId bound => by
        change boundOf (marks fleet.tables ownId) = some runId at bound
        rw [wasBound] at bound
        cases isResult : result with
        | none => exact bound
        | some other =>
          have sameRun : other = runId :=
            sentAs_unique linked.sound.usedOnce (resultSent other isResult)
              (linked.boundSent ownId runId (wasBound.trans bound))
          rw [sameRun]
          rfl
      refine ⟨linked_put linked step kept ?_ ?_ ?_ ?_ ?_, kept⟩
      · intro automationRunId runId bound
        rw [boundOf_set reached] at bound
        rw [sent]
        split at bound
        next isOwn =>
          rw [isOwn]
          cases isResult : result with
          | none =>
            rw [isResult] at bound
            exact linked.boundSent ownId runId (wasBound.trans bound)
          | some other =>
            rw [isResult] at bound
            rw [← Option.some.inj bound]
            exact resultSent other isResult
        next => exact linked.boundSent automationRunId runId bound
      · intro sending sendingIn
        rw [sent]
        exact sendingIn
      · intro automationRunId runId _ knows
        rw [execution] at knows
        cases knows
      · intro automationRunId runId _ knows
        rw [execution] at knows
        cases knows
      · intro record recordIn
        rw [executed] at recordIn
        exact Or.inl recordIn

variable {options : SchedulerOptions} {runOptions : RunOptions} {runId : String}

theorem step_linked (fleet : Fleet) (op : FleetOp) (linked : Linked fleet) :
    Linked (Fleet.step options runOptions fleet op) := by
  cases op with
  | desk process op => exact (did_linked linked (step_did op)).1
  | reboot process ownerId => exact (did_linked linked (reboot_did ownerId)).1
  | runs op => exact ⟨linked.sound, linked.boundSent, linked.carried, linked.followed,
      linked.executedBound⟩

theorem mem_of_boundOf (bound : boundOf (marks tables automationRunId) = some runId) :
    ∃ row ∈ tables.runs.rows, row.automationRunId = automationRunId ∧ row.runId = some runId := by
  obtain ⟨mark, isMark, isRun⟩ := Option.bind_eq_some_iff.mp bound
  obtain ⟨row, found, rfl⟩ := Option.map_eq_some_iff.mp isMark
  exact ⟨row, tables.runs.mem_of_find found, tables.runs.key_of_find found, isRun⟩

theorem boundOf_of_mem {row : AutomationRunRow} (rowIn : row ∈ tables.runs.rows)
    (isRun : row.runId = some runId) : boundOf (marks tables row.automationRunId) = some runId := by
  rw [marks_found (tables.runs.find_of_mem rowIn)]
  exact isRun

theorem step_boundKept (fleet : Fleet) (op : FleetOp) (linked : Linked fleet) :
    BoundKept fleet (Fleet.step options runOptions fleet op) := by
  intro row rowIn runId isRun
  have bound := boundOf_of_mem rowIn isRun
  apply mem_of_boundOf
  cases op with
  | desk process op => exact (did_linked linked (step_did op)).2 _ _ bound
  | reboot process ownerId => exact (did_linked linked (reboot_did ownerId)).2 _ _ bound
  | runs op => exact bound

theorem oneAgentRun_of_linked (linked : Linked fleet) : OneAgentRun fleet where
  sentOnce := linked.sound.usedOnce
  boundSent _ rowIn runId isRun := linked.boundSent _ runId (boundOf_of_mem rowIn isRun)
  executedBound executed executedIn := mem_of_boundOf (linked.executedBound executed executedIn)

theorem reach_linked (history : List RunOp) (ops : List FleetOp) :
    Linked (Fleet.reach options runOptions history ops) :=
  run_invariant (Fleet.step options runOptions) Linked step_linked _ ops linked_empty

theorem boundKept_trans (first second third : Fleet) (earlier : BoundKept first second)
    (later : BoundKept second third) : BoundKept first third := by
  intro row rowIn runId isRun
  obtain ⟨middle, middleIn, named, isMiddle⟩ := earlier row rowIn runId isRun
  obtain ⟨last, lastIn, lastNamed, isLast⟩ := later middle middleIn runId isMiddle
  exact ⟨last, lastIn, lastNamed.trans named, isLast⟩

theorem one_agent_run (options : SchedulerOptions) (runOptions : RunOptions)
    (history : List RunOp) (ops later : List FleetOp) :
    OneAgentRun (Fleet.reach options runOptions history ops) ∧
      BoundKept (Fleet.reach options runOptions history ops)
        (Fleet.reach options runOptions history (ops ++ later)) := by
  have linked : Linked (Fleet.reach options runOptions history ops) := reach_linked history ops
  refine ⟨oneAgentRun_of_linked linked, ?_⟩
  rw [Fleet.reach, Fleet.reach, run_append]
  exact run_relates (Fleet.step options runOptions) Linked BoundKept
    (fun _ row rowIn runId isRun => ⟨row, rowIn, rfl, isRun⟩) boundKept_trans step_linked
    step_boundKept _ later linked

end OpenRill.Automation.OneRun
