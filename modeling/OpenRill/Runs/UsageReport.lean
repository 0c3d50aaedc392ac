import OpenRill.Runs.Lifecycle

/-!
# The usage report

`updateExecutionUsage` looks at no status. It gives the attempt of a run what a reported
usage says beyond the other attempts, with the reason of the report, and the envelope
the usage itself. It throws only for a run that is in no attempt.
-/

namespace OpenRill.Runs.UsageReport

open Lib Lib.Transaction State Ledger Delegations Lifecycle

variable {store : RunStore} {attemptId : String} {row : AttemptRow}

structure HasAttempt (store : RunStore) (runId : String) (run : RunRow) (attempt : AttemptRow) :
    Prop where
  found : store.runs.find runId = some run
  current : run.currentAttemptId = some attempt.attemptId
  stored : store.attempts.find attempt.attemptId = some attempt

def attemptShare (store : RunStore) (run : RunRow) (attempt : AttemptRow) (usage : Usage) : Usage :=
  usageBeyond usage (aggregateRunUsageExcluding store run.runId attempt.attemptId)

def reportedAttempt (attempt : AttemptRow) (share : Usage) (reason : Option String) (now : Nat) :
    AttemptRow :=
  { attempt with
    used := share
    terminalReason := reason <|> attempt.terminalReason
    updatedAt := now }

def reportedEnvelopes (store : DelegationStore) (runId : String) (usage : Usage) (now : Nat) :
    DelegationStore :=
  match store.envelopes.find runId with
  | some envelope =>
    { store with envelopes := store.envelopes.update (envelope.reporting usage now) }
  | none => store

def reported (tables : RunTables) (run : RunRow) (attempt : AttemptRow) (usage : Usage)
    (reason : Option String) (now : Nat) : RunTables where
  ledger :=
    { tables.ledger with
      attempts := tables.ledger.attempts.update
        (reportedAttempt attempt (attemptShare tables.ledger run attempt usage) reason now) }
  delegations := reportedEnvelopes tables.delegations run.runId usage now

variable {tables : RunTables} {runId : String} {run : RunRow} {attempt : AttemptRow}

theorem reportEnvelope_completes (store : DelegationStore) (usage : Usage) (now : Nat) :
    Completes store
      (whenever ((store.envelopes.find runId).isSome) (updateBudgetUsage runId usage now))
      (fun _ reached => reached = reportedEnvelopes store runId usage now) := by
  apply completes_whenever
  · intro present
    obtain ⟨envelope, found⟩ := Option.isSome_iff_exists.mp present
    apply completes_inspect
    apply completes_expect found
    apply completes_change
    unfold reportedEnvelopes
    rw [found]
  · intro absent
    unfold reportedEnvelopes
    rw [Option.not_isSome_iff_eq_none.mp absent]

theorem rewriteAttempt_completes (stored : store.attempts.find attemptId = some attempt)
    (rewrite : AttemptRow → AttemptRow) (missing : String) :
    Completes store (rewriteAttempt attemptId rewrite missing)
      (fun _ reached =>
        reached = { store with attempts := store.attempts.update (rewrite attempt) }) := by
  apply completes_inspect
  apply completes_expect stored
  apply completes_change
  rfl

theorem updateExecutionUsage_reports (has : HasAttempt tables.ledger runId run attempt)
    (usage : Usage) (reason : Option String) (now : Nat) :
    Completes tables (updateExecutionUsage runId usage reason now)
      (fun _ reached => reached = reported tables run attempt usage reason now) := by
  have key : run.runId = runId := tables.ledger.runs.key_of_find has.found
  have share : attemptShare tables.ledger run attempt usage =
      usageBeyond usage (aggregateRunUsageExcluding tables.ledger runId attempt.attemptId) := by
    rw [← key]
    rfl
  have ledgerWritten : Completes tables.ledger
      (updateAttemptUsage attempt.attemptId (attemptShare tables.ledger run attempt usage)
        reason now)
      (fun _ ledger => ledger = (reported tables run attempt usage reason now).ledger) :=
    rewriteAttempt_completes has.stored _ _
  have ledgerReported : Completes tables
      (onLedger (updateAttemptUsage attempt.attemptId
        (attemptShare tables.ledger run attempt usage) reason now))
      (fun _ middle =>
        middle = tables.withLedger (reported tables run attempt usage reason now).ledger) := by
    apply completes_focus ledgerWritten
    intro _ ledger isLedger
    rw [isLedger]
  apply completes_read
  apply completes_expect has.found
  apply completes_expect has.current
  rw [← share]
  apply completes_called ledgerReported
  intro _ middle isMiddle
  rw [isMiddle]
  apply completes_focus (reportEnvelope_completes tables.delegations usage now)
  intro _ delegations isDelegations
  rw [isDelegations, ← key]
  rfl

theorem updateExecutionUsage_needs (usage : Usage) (reason : Option String) (now : Nat) :
    Ensures (fun known => known = tables) (updateExecutionUsage runId usage reason now)
      (fun _ _ => ∃ run attempt, HasAttempt tables.ledger runId run attempt) := by
  apply ensures_read
  apply ensures_expect_then
  intro run found
  apply ensures_expect_then
  intro attemptId current
  have stored : Ensures (fun known => known = tables)
      (onLedger (updateAttemptUsage attemptId
        (usageBeyond usage (aggregateRunUsageExcluding tables.ledger runId attemptId)) reason now))
      (fun _ _ => ∃ run attempt, HasAttempt tables.ledger runId run attempt) := by
    apply ensures_focus
    intro whole value reached isTables done
    rw [isTables] at done
    have known : Ensures (fun store => store = tables.ledger)
        (updateAttemptUsage attemptId
          (usageBeyond usage (aggregateRunUsageExcluding tables.ledger runId attemptId)) reason
          now)
        (fun _ _ => ∃ attempt, tables.ledger.attempts.find attemptId = some attempt) := by
      apply ensures_inspect_then
      intro store isLedger
      apply ensures_expect_then
      intro attempt present
      rw [isLedger] at present
      exact ensures_change _ fun _ _ => ⟨attempt, present⟩
    obtain ⟨attempt, present⟩ := known tables.ledger value reached rfl done
    have key : attempt.attemptId = attemptId := tables.ledger.attempts.key_of_find present
    rw [← key] at current present
    exact ⟨run, attempt, found, current, present⟩
  refine ensures_bind stored fun _ => ?_
  apply ensures_focus
  intro _ _ _ has _
  exact has

section

variable (found : store.attempts.find attemptId = some attempt)
  (sameId : row.attemptId = attempt.attemptId)
include found sameId

theorem find_rewritten (wanted : String) :
    (store.attempts.update row).find wanted =
      if wanted = attemptId then some row else store.attempts.find wanted := by
  have key : row.attemptId = attemptId := sameId.trans (store.attempts.key_of_find found)
  have present : store.attempts.find row.attemptId = some attempt := by
    rw [key]
    exact found
  rw [store.attempts.find_update row present wanted]
  by_cases own : wanted = attemptId
  · rw [if_pos own, if_pos (key.trans own.symm)]
  · rw [if_neg own, if_neg fun same => own (same.symm.trans key)]

theorem find_rewrittenAttempt : (store.attempts.update row).find attemptId = some row :=
  (find_rewritten found sameId attemptId).trans (if_pos rfl)

end

variable {usage : Usage} {reason : Option String} {now : Nat}

theorem hasAttempt_reported (has : HasAttempt tables.ledger runId run attempt) (usage : Usage)
    (reason : Option String) (now : Nat) :
    HasAttempt (reported tables run attempt usage reason now).ledger runId run
      (reportedAttempt attempt (attemptShare tables.ledger run attempt usage) reason now) where
  found := has.found
  current := has.current
  stored := find_rewrittenAttempt has.stored rfl

theorem resultDeliveries_reported (store : DelegationStore) :
    (reportedEnvelopes store runId usage now).resultDeliveries = store.resultDeliveries := by
  unfold reportedEnvelopes
  split <;> rfl

theorem find_reportedAttempt (stored : tables.ledger.attempts.find attempt.attemptId = some attempt)
    (attemptId : String) :
    (reported tables run attempt usage reason now).ledger.attempts.find attemptId =
      if attempt.attemptId = attemptId then
        some (reportedAttempt attempt (attemptShare tables.ledger run attempt usage) reason now)
      else tables.ledger.attempts.find attemptId :=
  tables.ledger.attempts.find_update
    (reportedAttempt attempt (attemptShare tables.ledger run attempt usage) reason now) stored
    attemptId

theorem find_reportedEnvelope (store : DelegationStore) (runId : String) (usage : Usage)
    (now : Nat) (wanted : String) :
    ((reportedEnvelopes store runId usage now).envelopes.find wanted).map EnvelopeRow.used =
      if wanted = runId then (store.envelopes.find wanted).map (fun _ => usage)
      else (store.envelopes.find wanted).map EnvelopeRow.used := by
  unfold reportedEnvelopes
  cases found : store.envelopes.find runId with
  | none =>
    by_cases own : wanted = runId
    · rw [if_pos own, own, found]
      rfl
    · rw [if_neg own]
  | some envelope =>
    have key : envelope.runId = runId := store.envelopes.key_of_find found
    have present : store.envelopes.find (envelope.reporting usage now).runId = some envelope :=
      store.envelopes.find_self found
    rw [store.envelopes.find_update _ present wanted]
    by_cases own : wanted = runId
    · have isKey : (envelope.reporting usage now).runId = wanted := key.trans own.symm
      rw [if_pos own, if_pos isKey, own, found]
      rfl
    · have notKey : (envelope.reporting usage now).runId ≠ wanted :=
        fun same => own (same.symm.trans key)
      rw [if_neg own, if_neg notKey]

end OpenRill.Runs.UsageReport
