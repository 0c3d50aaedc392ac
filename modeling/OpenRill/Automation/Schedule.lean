import OpenRill.Automation.Ledger

/-!
# When a job is due, and what a wake plans for it

`computeNextScheduledFor` with the two plans of the scheduler. A stored `at`
timestamp is the instant it names and a stored cron expression its parsed
fields. The wall clock of a time zone comes from the host's `Intl`, so
`zonedParts` is a parameter; it gives nothing where the conversion fails.
-/

namespace OpenRill.Automation.Schedule

open Lib.Checked State

inductive AutomationErrorCode where
  | invalidArgument
  | invalidTimezone
  | scheduleInPast
  | scheduleNoFuture
  deriving DecidableEq

abbrev ScheduleFailure := Failure AutomationErrorCode

structure CronField where
  values : List Nat
  wildcard : Bool
  deriving DecidableEq

structure ParsedCron where
  minute : CronField
  hour : CronField
  dayOfMonth : CronField
  month : CronField
  dayOfWeek : CronField
  deriving DecidableEq

structure ZonedParts where
  month : Nat
  day : Nat
  hour : Nat
  minute : Nat
  dayOfWeek : Nat
  deriving DecidableEq

inductive AutomationSchedule where
  | at (epochMs : Nat)
  | interval (everyMs anchorMs : Nat)
  | cron (parsed : ParsedCron)
  deriving DecidableEq

inductive CatchUpPolicy where
  | skip
  | runOnce
  | bounded (limit : Nat)
  deriving DecidableEq

structure JobDefinition where
  schedule : AutomationSchedule
  timezone : String
  catchUpPolicy : CatchUpPolicy
  deriving DecidableEq

def maxSafeInteger : Nat := 9007199254740991

def cronSearchLimitMinutes : Nat := 5 * 366 * 24 * 60

def cronMatches (parsed : ParsedCron) (parts : ZonedParts) : Bool :=
  if parts.minute ∉ parsed.minute.values then false
  else if parts.hour ∉ parsed.hour.values then false
  else if parts.month ∉ parsed.month.values then false
  else
    let dayOfMonthMatch := decide (parts.day ∈ parsed.dayOfMonth.values)
    let dayOfWeekMatch := decide (parts.dayOfWeek ∈ parsed.dayOfWeek.values)
    if parsed.dayOfMonth.wildcard && parsed.dayOfWeek.wildcard then true
    else if parsed.dayOfMonth.wildcard then dayOfWeekMatch
    else if parsed.dayOfWeek.wildcard then dayOfMonthMatch
    else dayOfMonthMatch || dayOfWeekMatch

variable (zonedParts : String → Nat → Option ZonedParts)

/-- The minute-by-minute search, with the minutes that are left to it. -/
def searchCron (parsed : ParsedCron) (timezone : String) :
    Nat → Nat → Except ScheduleFailure Nat
  | 0, _ =>
    .error (.service .scheduleNoFuture
      ("cron schedule has no occurrence within " ++ toString cronSearchLimitMinutes ++ " minutes"))
  | minutes + 1, candidate => do
      let parts ← fetch (zonedParts timezone candidate)
        (.service .invalidTimezone ("timezone conversion failed: " ++ timezone))
      if cronMatches parsed parts then pure candidate
      else searchCron parsed timezone minutes (candidate + 60000)

def computeNextScheduledFor (schedule : AutomationSchedule) (timezone : String)
    (after : Nat) : Except ScheduleFailure (Option Nat) := do
  require (after ≤ maxSafeInteger)
    (.service .invalidArgument ("afterMs must be an integer in 0.." ++ toString maxSafeInteger))
  match schedule with
  | .at epochMs => pure (if after < epochMs then some epochMs else none)
  | .interval everyMs anchorMs =>
    if after < anchorMs then pure (some anchorMs)
    else do
      let result := anchorMs + ((after - anchorMs) / everyMs + 1) * everyMs
      require (result ≤ maxSafeInteger)
        (.service .scheduleNoFuture "interval next occurrence exceeds the supported range")
      pure (some result)
  | .cron parsed => do
      let candidate ← searchCron zonedParts parsed timezone cronSearchLimitMinutes
        (after / 60000 * 60000 + 60000)
      pure (some candidate)

structure WakePlan where
  pending : List Nat
  skipped : List Nat
  nextScheduledFor : Option Nat
  lastScheduledFor : Option Nat
  deriving DecidableEq

def WakePlan.instants (plan : WakePlan) : List Nat := plan.pending ++ plan.skipped

def nextAfter (definition : JobDefinition) (after : Nat) :
    Except ScheduleFailure (Option Nat) :=
  computeNextScheduledFor zonedParts definition.schedule definition.timezone after

/-- The loop of the bounded policy: the occurrences up to `now` and the cursor
that is left, with the number of rows it may still make. -/
def boundedPending (definition : JobDefinition) (now : Nat) :
    Nat → Option Nat → Except ScheduleFailure (List Nat × Option Nat)
  | 0, cursor => pure ([], cursor)
  | _ + 1, none => pure ([], none)
  | limit + 1, some cursor =>
    if cursor ≤ now then do
      let next ← nextAfter zonedParts definition cursor
      let rest ← boundedPending definition now limit next
      pure (cursor :: rest.1, rest.2)
    else pure ([], some cursor)

def startupPlan (definition : JobDefinition) (nextScheduledFor : Option Nat) (now : Nat) :
    Except ScheduleFailure WakePlan :=
  match nextScheduledFor with
  | none =>
    pure { pending := [], skipped := [], nextScheduledFor := none, lastScheduledFor := none }
  | some first =>
    if now < first then
      pure
        { pending := [], skipped := [], nextScheduledFor := some first, lastScheduledFor := none }
    else
      match definition.catchUpPolicy with
      | .skip => do
          let next ← nextAfter zonedParts definition now
          pure
            { pending := []
              skipped := [first]
              nextScheduledFor := next
              lastScheduledFor := some first }
      | .runOnce => do
          let next ← nextAfter zonedParts definition now
          pure
            { pending := [first]
              skipped := []
              nextScheduledFor := next
              lastScheduledFor := none }
      | .bounded limit => do
          let caught ← boundedPending zonedParts definition now limit (some first)
          let next ←
            if caught.2.any (fun cursor => decide (cursor ≤ now)) then
              nextAfter zonedParts definition now
            else pure caught.2
          pure
            { pending := caught.1
              skipped := []
              nextScheduledFor := next
              lastScheduledFor := none }

def regularPlan (definition : JobDefinition) (nextScheduledFor : Option Nat) :
    Except ScheduleFailure WakePlan :=
  match nextScheduledFor with
  | none =>
    pure { pending := [], skipped := [], nextScheduledFor := none, lastScheduledFor := none }
  | some first => do
      let next ← nextAfter zonedParts definition first
      pure { pending := [first], skipped := [], nextScheduledFor := next, lastScheduledFor := none }

/-- `normalizeScheduleState`: the cursor of a job that is created or updated. -/
def firstScheduledFor (definition : JobDefinition) (enabled : Bool) (now : Nat) :
    Except ScheduleFailure (Option Nat) :=
  if enabled then do
    let next ← nextAfter zonedParts definition now
    require next.isSome
      (.service .scheduleInPast "enabled one-shot automation time must be in the future")
    pure next
  else pure none

end OpenRill.Automation.Schedule
