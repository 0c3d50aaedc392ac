import OpenRill.Automation.NextOccurrence
import OpenRill.Automation.Scheduler
import OpenRill.Lib.Text

/-!
# Updates of a job

An update names the fields it changes and takes the others from the stored job. It computes
the schedule anew from its own time in every case, so an update of other fields keeps the
next occurrence only while that is still the next one.
-/

namespace OpenRill.Automation.JobUpdates

open Lib.Text Lib.Checked Ledger Schedule Scheduler NextOccurrence

/-- The fields of an update, with a schedule that was parsed. `restValid` says that the
conversation template and the failure policy, where they are given, are valid. -/
structure JobPatch where
  name : Option String
  enabled : Option Bool
  schedule : Option AutomationSchedule
  timezone : Option String
  catchUpPolicy : Option CatchUpPolicy
  restValid : Bool

def CatchUpPolicy.valid : CatchUpPolicy → Bool
  | .bounded limit => decide (1 ≤ limit ∧ limit ≤ 100)
  | _ => true

def JobPatch.valid (patch : JobPatch) : Bool :=
  patch.name.all (fun name =>
    decide (1 ≤ utf16Length (trim name) ∧ utf16Length (trim name) ≤ 128)) &&
    patch.catchUpPolicy.all CatchUpPolicy.valid && patch.restValid

def JobPatch.definition (patch : JobPatch) (current : JobDefinition) : JobDefinition where
  schedule := patch.schedule.getD current.schedule
  timezone := patch.timezone.getD current.timezone
  catchUpPolicy := patch.catchUpPolicy.getD current.catchUpPolicy

def updateJob (zonedParts : String → Nat → Option ZonedParts) (state : SchedulerState)
    (jobId : String) (expectedRevision : Nat) (patch : JobPatch) (now : Nat) : SchedulerState :=
  match state.tables.jobs.find jobId, state.definitions jobId with
  | some job, some current =>
    if now ≤ maxSafeInteger ∧ patch.valid = true then
      Scheduler.update zonedParts state jobId expectedRevision
        ((patch.name.map trim).getD job.name) (patch.enabled.getD job.enabled)
        (patch.definition current) now
    else state
  | _, _ => state

variable {parts : String → Nat → ZonedParts} {state : SchedulerState} {jobId : String}
variable {job : JobRow} {current : JobDefinition} {patch : JobPatch} {now : Nat}

structure Unrelated (patch : JobPatch) (job : JobRow) (current : JobDefinition) : Prop where
  enabled : patch.enabled.getD job.enabled = job.enabled
  schedule : patch.schedule.getD current.schedule = current.schedule
  timezone : patch.timezone.getD current.timezone = current.timezone

def KeepsNext (job : JobRow) (jobId : String) (reached : SchedulerState) : Prop :=
  ∃ row, reached.tables.jobs.find jobId = some row ∧ row.revision = job.revision + 1 ∧
    row.nextScheduledFor = job.nextScheduledFor

/-- The stored occurrence is still the next one at `now`; a disabled job has none. -/
def StillNext (parts : String → Nat → ZonedParts) (job : JobRow) (current : JobDefinition)
    (now : Nat) : Prop :=
  if job.enabled = true then
    ∃ next, job.nextScheduledFor = some next ∧
      IsLeast (Later parts current.schedule current.timezone now) next ∧
      next ≤ horizon now current.schedule
  else job.nextScheduledFor = none

theorem compute_next_iff {schedule : AutomationSchedule} {timezone : String} {next : Nat}
    (normalized : Normalized schedule) (inRange : now ≤ maxSafeInteger) :
    computeNextScheduledFor (zonesOf parts) schedule timezone now = .ok (some next) ↔
      IsLeast (Later parts schedule timezone now) next ∧ next ≤ horizon now schedule := by
  have exactly := next_exact parts normalized timezone now
  unfold NextExact at exactly
  constructor
  · intro computed
    rw [computed] at exactly
    exact exactly
  rintro ⟨least, within⟩
  split at exactly
  next other computed => rw [computed, exactly.1.unique least]
  next =>
    have later := least.1
    rw [exactly] at later
    exact later.elim
  next =>
    rcases exactly with late | beyond
    · omega
    · have past := beyond next least.1
      omega

theorem firstScheduledFor_iff (normalized : Normalized current.schedule)
    (inRange : now ≤ maxSafeInteger) :
    firstScheduledFor (zonesOf parts) current job.enabled now = .ok job.nextScheduledFor ↔
      StillNext parts job current now := by
  unfold firstScheduledFor StillNext
  split
  next =>
    simp only [bind_ok_iff, require_ok_iff, pure_ok_iff, exists_const]
    constructor
    · rintro ⟨next, computed, present, isNext⟩
      obtain ⟨instant, isInstant⟩ := Option.isSome_iff_exists.mp present
      rw [isInstant] at computed isNext
      exact ⟨instant, isNext.symm, (compute_next_iff normalized inRange).mp computed⟩
    · rintro ⟨next, isNext, facts⟩
      exact ⟨some next, (compute_next_iff normalized inRange).mpr facts, rfl, isNext.symm⟩
  next =>
    simp only [pure_ok_iff]
    exact eq_comm

theorem updateJob_unrelated (known : state.tables.jobs.find jobId = some job)
    (defined : state.definitions jobId = some current) (unrelated : Unrelated patch job current)
    (valid : patch.valid = true) (inRange : now ≤ maxSafeInteger) :
    (updateJob (zonesOf parts) state jobId job.revision patch now).tables.jobs.find jobId =
      match firstScheduledFor (zonesOf parts) current job.enabled now with
      | .error _ => some job
      | .ok next =>
        some (job.withConfig
          { jobId := jobId
            expectedRevision := job.revision
            name := (patch.name.map trim).getD job.name
            enabled := job.enabled
            nextScheduledFor := next
            updatedAt := now }) := by
  have sameSchedule : firstScheduledFor (zonesOf parts) (patch.definition current) job.enabled
      now = firstScheduledFor (zonesOf parts) current job.enabled now := by
    unfold firstScheduledFor nextAfter JobPatch.definition
    rw [unrelated.schedule, unrelated.timezone]
  unfold updateJob
  rw [known, defined]
  dsimp only
  rw [if_pos ⟨inRange, valid⟩, unrelated.enabled]
  unfold Scheduler.update
  rw [sameSchedule]
  cases firstScheduledFor (zonesOf parts) current job.enabled now with
  | error failure => exact known
  | ok next =>
    have stored : ∀ input : JobConfigUpdate, input.jobId = jobId →
        input.expectedRevision = job.revision → updateJobConfig state.tables input =
          .ok ({ state.tables with jobs := state.tables.jobs.update (job.withConfig input) },
            job.withConfig input) := by
      intro input sameJob sameRevision
      unfold updateJobConfig fetch require
      rw [sameJob, known, sameRevision]
      simp [bind, Except.bind, pure, Except.pure]
    have isJob : job.jobId = jobId := state.tables.jobs.key_of_find known
    dsimp only
    rw [stored _ rfl rfl]
    rw [← isJob] at known
    refine (state.tables.jobs.find_update (job.withConfig _) known jobId).trans ?_
    exact if_pos isJob

def hourly : JobDefinition where
  schedule := .interval 3600000 0
  timezone := "UTC"
  catchUpPolicy := .skip

def rename : JobPatch where
  name := some "renamed"
  enabled := none
  schedule := none
  timezone := none
  catchUpPolicy := none
  restValid := true

def hourlyJob : SchedulerState :=
  Scheduler.create (zonesOf midnight) SchedulerState.empty "j1" "hourly" true hourly 0

end OpenRill.Automation.JobUpdates
