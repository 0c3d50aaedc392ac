import OpenRill.Runs.DelegationRules

/-!
# The scope of an envelope does not change

An envelope is inserted once and rewritten by reports and charges alone, and
neither touches its scope. What a run was granted is therefore what it is
granted for good, whatever operations come between.
-/

namespace OpenRill.Runs.GrantedScopes

open Lib Lib.Transaction State Ledger Delegations Lifecycle DelegationService Operations
open DelegationRules

variable {runId : String} {scope : DelegationScope}

def Granted (runId : String) (scope : DelegationScope) (store : DelegationStore) : Prop :=
  ∃ row, store.envelopes.find runId = some row ∧ row.scope = scope

variable {store : DelegationStore} {row : EnvelopeRow}

theorem granted_unrelated {changed : DelegationStore} (granted : Granted runId scope store)
    (envelopes : changed.envelopes = store.envelopes) : Granted runId scope changed := by
  unfold Granted
  rw [envelopes]
  exact granted

theorem granted_insert {envelopes : Table EnvelopeRow.runId} (granted : Granted runId scope store)
    (inserted : store.envelopes.insert row = some envelopes) :
    Granted runId scope { store with envelopes := envelopes } := by
  obtain ⟨held, found, isScope⟩ := granted
  exact ⟨held, store.envelopes.kept_insert envelopes row inserted found, isScope⟩

theorem granted_update {old : EnvelopeRow} (granted : Granted runId scope store)
    (found : store.envelopes.find row.runId = some old) (sameScope : row.scope = old.scope) :
    Granted runId scope { store with envelopes := store.envelopes.update row } := by
  obtain ⟨held, foundHeld, isScope⟩ := granted
  have read := store.envelopes.find_update row found runId
  by_cases same : row.runId = runId
  · rw [if_pos same] at read
    rw [same, foundHeld, Option.some.injEq] at found
    refine ⟨row, read, ?_⟩
    rw [sameScope, ← found, isScope]
  · rw [if_neg same] at read
    exact ⟨held, read.trans foundHeld, isScope⟩

theorem insertBudgetEnvelope_granted (row : EnvelopeRow) :
    Keeps (Granted runId scope) (insertBudgetEnvelope row) := by
  apply keeps_tryMap
  intro store envelopes granted inserted
  exact granted_insert granted inserted

theorem updateBudgetUsage_granted (reporting : String) (used : Usage) (now : Nat) :
    Keeps (Granted runId scope) (updateBudgetUsage reporting used now) := by
  refine ensures_bind (ensures_inspect _) fun envelope => ?_
  refine ensures_bind (ensures_expect _ _) fun row => ensures_change _ ?_
  rintro store ⟨⟨granted, isLookup⟩, isRow⟩
  have found : store.envelopes.find reporting = some row := isLookup.symm.trans isRow
  have own : store.envelopes.find (row.reporting used now).runId = some row := by
    have key : row.runId = reporting := store.envelopes.key_of_find found
    change store.envelopes.find row.runId = some row
    rw [key]
    exact found
  exact granted_update granted own rfl

theorem granted_rules : GraphRules True (Granted runId scope) where
  unrelated _ _ envelopes _ granted := granted_unrelated granted envelopes
  charged _ _ _ _ found granted := granted_update granted found rfl
  opened := insertBudgetEnvelope_granted
  reported := updateBudgetUsage_granted

theorem step_granted {options : RunOptions} (tables : RunTables) (op : RunOp)
    (granted : OnDelegations (Granted runId scope) tables) :
    OnDelegations (Granted runId scope) (Operations.step options tables op) :=
  step_keeps_delegations granted_rules tables op (fun _ => trivial) granted

end OpenRill.Runs.GrantedScopes
