import OpenRill.Automation.RunWrites

/-!
# How the operations move an automation run

The status of an automation run and the agent Run bound to it, its mark, and what each
operation of the scheduler makes of the marks. The leases and the other columns are left
out of sight: an operation that writes only those leaves every mark alone.
-/

namespace OpenRill.Automation.RowMoves

open Lib.Checked Ledger RunWrites

variable {tables after : AutomationTables} {automationRunId : String}

structure Mark where
  status : AutomationRunStatus
  runId : Option String
  deriving DecidableEq

def markOf (row : AutomationRunRow) : Mark where
  status := row.status
  runId := row.runId

abbrev Marks := String → Option Mark

def marks (tables : AutomationTables) : Marks := fun automationRunId =>
  (tables.runs.find automationRunId).map markOf

def setMark (known : Marks) (automationRunId : String) (mark : Mark) : Marks := fun wanted =>
  if wanted = automationRunId then some mark else known wanted

@[simp] theorem setMark_self (known : Marks) (automationRunId : String) (mark : Mark) :
    setMark known automationRunId mark automationRunId = some mark := if_pos rfl

variable {known : Marks}

theorem setMark_other {wanted : String} (different : wanted ≠ automationRunId) (mark : Mark) :
    setMark known automationRunId mark wanted = known wanted := if_neg different

theorem setMark_same {mark : Mark} (already : known automationRunId = some mark) :
    setMark known automationRunId mark = known := by
  funext wanted
  unfold setMark
  split
  next own =>
    rw [own]
    exact already.symm
  next => rfl

theorem marks_found {row : AutomationRunRow} (found : tables.runs.find automationRunId = some row) :
    marks tables automationRunId = some (markOf row) := by
  unfold marks
  rw [found]
  rfl

theorem marks_missing (missing : tables.runs.find automationRunId = none) :
    marks tables automationRunId = none := by
  unfold marks
  rw [missing]
  rfl

theorem marks_of_runs (same : after.runs = tables.runs) : marks after = marks tables := by
  unfold marks
  rw [same]

theorem marks_rewrite (row : AutomationRunRow) {current : AutomationRunRow}
    (found : tables.runs.find automationRunId = some current)
    (sameRun : row.automationRunId = current.automationRunId) :
    marks (writeRun tables row) = setMark (marks tables) automationRunId (markOf row) := by
  funext wanted
  unfold marks setMark
  rw [find_writeRun row found sameRun]
  by_cases own : automationRunId = wanted
  · rw [if_pos own, if_pos own.symm]
    rfl
  · rw [if_neg own, if_neg fun same => own same.symm]

def Grown (known reached : Marks) : Prop :=
  ∀ wanted, reached wanted = known wanted ∨
    known wanted = none ∧ ∃ status, (status = .pending ∨ status = .skipped) ∧
      reached wanted = some { status := status, runId := none }

theorem grown_refl (known : Marks) : Grown known known := fun _ => Or.inl rfl

theorem grown_trans {middle reached : Marks} (first : Grown known middle)
    (second : Grown middle reached) : Grown known reached := by
  intro wanted
  rcases second wanted with same | ⟨absent, status, unstarted, inserted⟩
  · rw [same]
    exact first wanted
  · rcases first wanted with same | ⟨-, earlier, -, present⟩
    · rw [same] at absent
      exact Or.inr ⟨absent, status, unstarted, inserted⟩
    · rw [present] at absent
      cases absent

theorem grown_inserts :
    InsertRules (fun before after => Grown (marks before) (marks after)) where
  refl _ := grown_refl _
  trans := grown_trans
  inserted := by
    intro tables row runs unstarted _ _ inserted wanted
    by_cases own : row.automationRunId = wanted
    · refine Or.inr ⟨?_, row.status, unstarted.status, ?_⟩
      · apply marks_missing
        rw [tables.runs.find_none_iff, ← own]
        exact ((tables.runs.insert_some_iff runs row).mp inserted).1
      · have found : runs.find wanted = some row := by
          rw [tables.runs.find_insert _ _ _ inserted, if_pos own]
        rw [marks_found found, markOf, unstarted.unbound]
    · left
      unfold marks
      rw [tables.runs.find_insert _ _ _ inserted, if_neg own]
  advanced _ _ _ _ := grown_refl _

variable {leaseOwner : String} {leaseExpiresAt : Nat} {result : Option AutomationRunRow}

theorem claimRun_marks {claimedAt : Nat}
    (done : claimRun tables automationRunId leaseOwner claimedAt leaseExpiresAt =
      .ok (after, result)) :
    result = none ∧ marks after = marks tables ∨
      ∃ runId, marks tables automationRunId = some { status := .pending, runId := runId } ∧
        (∃ row, result = some row ∧ row.automationRunId = automationRunId) ∧
        marks after =
          setMark (marks tables) automationRunId { status := .claimed, runId := runId } := by
  rcases claimRun_cases done with ⟨rfl, rfl⟩ | ⟨current, lease, found, pending, -, rfl, rfl⟩
  · exact Or.inl ⟨rfl, rfl⟩
  · have named : current.automationRunId = automationRunId := tables.runs.key_of_find found
    refine Or.inr ⟨current.runId, ?_, ⟨_, rfl, named⟩, ?_⟩
    · rw [marks_found found, markOf, pending]
    · exact marks_rewrite (current.claimedUnder lease claimedAt) found rfl

theorem markRunRunning_marks {runningAt : Nat}
    (done : markRunRunning tables automationRunId leaseOwner runningAt leaseExpiresAt =
      .ok (after, result)) :
    result = none ∧ marks after = marks tables ∨
      ∃ row, result = some row ∧
        marks tables automationRunId = some { status := .claimed, runId := row.runId } ∧
        marks after =
          setMark (marks tables) automationRunId { status := .running, runId := row.runId } := by
  rcases markRunRunning_cases done with
    ⟨rfl, rfl⟩ | ⟨current, lease, found, claimed, -, rfl, rfl⟩
  · exact Or.inl ⟨rfl, rfl⟩
  · refine Or.inr ⟨_, rfl, ?_, ?_⟩
    · rw [marks_found found, markOf, claimed]
      rfl
    · exact marks_rewrite (current.startedUnder lease runningAt) found rfl

theorem renewRunLease_marks {renewedAt : Nat}
    (done : renewRunLease tables automationRunId leaseOwner renewedAt leaseExpiresAt =
      .ok (after, result)) : marks after = marks tables := by
  rcases renewRunLease_cases done with ⟨rfl, -⟩ | ⟨current, lease, found, -, -, rfl⟩
  · rfl
  · have unmoved : marks tables automationRunId = some (markOf current) := marks_found found
    rw [marks_rewrite (current.renewedUnder lease renewedAt) found rfl]
    exact setMark_same unmoved

theorem bindRunId_marks {runId : String} {boundAt : Nat}
    (done : bindRunId tables automationRunId leaseOwner runId boundAt = .ok (after, result)) :
    marks after = marks tables ∧
        (result.isSome = true →
          ∃ mark, marks tables automationRunId = some mark ∧ mark.runId = some runId) ∨
      marks tables automationRunId = some { status := .running, runId := none } ∧
        marks after =
          setMark (marks tables) automationRunId { status := .running, runId := some runId } := by
  rcases bindRunId_cases done with ⟨rfl, told⟩ | ⟨current, found, running, unbound, rfl⟩
  · refine Or.inl ⟨rfl, fun some => ?_⟩
    obtain ⟨current, found, bound⟩ := told some
    exact ⟨_, marks_found found, bound⟩
  · refine Or.inr ⟨?_, ?_⟩
    · rw [marks_found found, markOf, running, unbound]
    · rw [marks_rewrite (current.boundTo runId boundAt) found rfl]
      simp only [markOf, AutomationRunRow.boundTo, running]

theorem finishRun_marks {input : FinishRunInput}
    (done : finishRun tables input = .ok (after, result)) :
    result = none ∧ marks after = marks tables ∨
      ∃ row runId, result = some row ∧
        marks tables input.automationRunId = some { status := .running, runId := runId } ∧
        marks after =
          setMark (marks tables) input.automationRunId
            { status := input.status.toStatus, runId := input.runId.or runId } := by
  rcases finishRun_cases done with ⟨rfl, rfl⟩ | ⟨current, found, running, -, rfl, rfl⟩
  · exact Or.inl ⟨rfl, rfl⟩
  · refine Or.inr ⟨_, current.runId, rfl, ?_, ?_⟩
    · rw [marks_found found, markOf, running]
    · rw [marks_of_runs (updateJobOutcome_runs _ _ _ _)]
      exact marks_rewrite (current.finishedBy input) found rfl

variable (linked : String → Option LinkedRun)

def recoveredMark (run : AutomationRunRow) : Mark :=
  if run.status = .claimed ∨ (run.runId.bind linked).any LinkedRun.resumes = true then
    { status := .pending, runId := run.runId }
  else { status := .failed, runId := run.runId }

theorem recoverExpiredRuns_marks (now : Nat) (wanted : String) :
    marks (recoverExpiredRuns linked tables now).1 wanted = marks tables wanted ∨
      ∃ run, tables.runs.find wanted = some run ∧ run.expired now = true ∧
        (run.status = .claimed ∨ run.status = .running) ∧
        marks (recoverExpiredRuns linked tables now).1 wanted =
          some (recoveredMark linked run) := by
  unfold marks
  rw [recoverExpiredRuns_find]
  cases found : tables.runs.find wanted with
  | none => exact Or.inl rfl
  | some run =>
    simp only [Option.map_some]
    split
    next runIn =>
      have listed := (listExpiredRuns_listed.1 run).mp runIn
      refine Or.inr ⟨run, rfl, listed.late, listed.live, ?_⟩
      unfold recoveredRow recoveredMark
      by_cases requeues : Requeues linked run
      · rw [if_pos requeues]
        exact congrArg some (if_pos requeues).symm
      · rw [if_neg requeues]
        exact congrArg some (if_neg requeues).symm
    next => exact Or.inl rfl

end OpenRill.Automation.RowMoves
