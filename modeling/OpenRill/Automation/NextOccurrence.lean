import OpenRill.Automation.CronFields
import Mathlib.Order.Bounds.Basic

/-!
# The next occurrence of a schedule

`computeNextScheduledFor` returns the least occurrence after an instant, as far as it
looks: a cron search ends at its limit and an interval at the largest safe integer. The
zoned calendar fields are any function of the instant.
-/

namespace OpenRill.Automation.NextOccurrence

open Lib.Checked Schedule CronFields

variable {after : Nat}

def Normalized : AutomationSchedule → Prop
  | .at epochMs => epochMs ≤ maxSafeInteger
  | .interval everyMs anchorMs =>
    (1000 ≤ everyMs ∧ everyMs ≤ 365 * 24 * 60 * 60 * 1000) ∧ anchorMs ≤ maxSafeInteger
  | .cron parsed => ∃ expression, parseCronExpression expression = .ok parsed

variable (parts : String → Nat → ZonedParts)

def Occurs (schedule : AutomationSchedule) (timezone : String) (instant : Nat) : Prop :=
  match schedule with
  | .at epochMs => instant = epochMs
  | .interval everyMs anchorMs => ∃ count, instant = anchorMs + count * everyMs
  | .cron parsed => 60000 ∣ instant ∧ cronMatches parsed (parts timezone instant) = true

def Later (schedule : AutomationSchedule) (timezone : String) (after : Nat) : Set Nat :=
  { instant | after < instant ∧ Occurs parts schedule timezone instant }

def horizon (after : Nat) : AutomationSchedule → Nat
  | .cron _ => after / 60000 * 60000 + cronSearchLimitMinutes * 60000
  | _ => maxSafeInteger

def zonesOf (timezone : String) (instant : Nat) : Option ZonedParts :=
  some (parts timezone instant)

/-- The least later occurrence within the horizon, nothing when there is no later one, or
an error when the instant is out of range or nothing lies within the horizon. -/
def NextExact (schedule : AutomationSchedule) (timezone : String) (after : Nat) : Prop :=
  match computeNextScheduledFor (zonesOf parts) schedule timezone after with
  | .ok (some next) =>
    IsLeast (Later parts schedule timezone after) next ∧ next ≤ horizon after schedule
  | .ok none => Later parts schedule timezone after = ∅
  | .error _ =>
    maxSafeInteger < after ∨
      ∀ instant ∈ Later parts schedule timezone after, horizon after schedule < instant

/-- A field of an expression has the values that its items denote. -/
def FieldExact (range : CronRange) (raw : String) : Prop :=
  (∀ field, parseCronField range raw = .ok field →
    (∃ items, Spells range raw items ∧ Denoted range items field) ∧
      (field.wildcard = true ↔ raw = "*")) ∧
  ∀ items, Spells range raw items →
    ∃ field, parseCronField range raw = .ok field ∧ Denoted range items field

variable {parts : String → Nat → ZonedParts} {parsed : ParsedCron} {timezone : String}

theorem searchCron_exact (minutes candidate : Nat) :
    match searchCron (zonesOf parts) parsed timezone minutes candidate with
    | .ok found => ∃ turn < minutes, found = candidate + turn * 60000 ∧
        cronMatches parsed (parts timezone found) = true ∧
        ∀ earlier < turn, cronMatches parsed (parts timezone (candidate + earlier * 60000)) = false
    | .error _ => ∀ turn < minutes,
        cronMatches parsed (parts timezone (candidate + turn * 60000)) = false := by
  induction minutes generalizing candidate with
  | zero => exact nofun
  | succ minutes ih =>
    have shifted : ∀ turn, candidate + 60000 + turn * 60000 = candidate + (turn + 1) * 60000 := by
      intro turn
      omega
    have read : searchCron (zonesOf parts) parsed timezone (minutes + 1) candidate =
        if cronMatches parsed (parts timezone candidate) = true then .ok candidate
        else searchCron (zonesOf parts) parsed timezone minutes (candidate + 60000) := rfl
    rw [read]
    by_cases isMatch : cronMatches parsed (parts timezone candidate) = true
    · rw [if_pos isMatch]
      exact ⟨0, by omega, by omega, isMatch, nofun⟩
    rw [if_neg isMatch]
    have first : cronMatches parsed (parts timezone (candidate + 0 * 60000)) = false := by
      simpa using isMatch
    have rest := ih (candidate + 60000)
    split at rest
    next found isFound =>
      obtain ⟨turn, isTurn, isInstant, matched, before⟩ := rest
      refine ⟨turn + 1, by omega, by omega, matched, fun earlier isEarlier => ?_⟩
      cases earlier with
      | zero => exact first
      | succ earlier =>
        rw [← shifted]
        exact before earlier (by omega)
    next =>
      intro turn isTurn
      cases turn with
      | zero => exact first
      | succ turn =>
        rw [← shifted]
        exact rest turn (by omega)

theorem minute_counted {instant : Nat} (later : after < instant) (whole : 60000 ∣ instant) :
    ∃ turn, instant = after / 60000 * 60000 + 60000 + turn * 60000 := by
  obtain ⟨minute, rfl⟩ := whole
  exact ⟨minute - (after / 60000 + 1), by omega⟩

variable (parts : String → Nat → ZonedParts) {everyMs anchorMs : Nat}

theorem at_exact (epochMs : Nat) (timezone : String) (after : Nat)
    (safe : epochMs ≤ maxSafeInteger) : NextExact parts (.at epochMs) timezone after := by
  unfold NextExact computeNextScheduledFor
  by_cases inRange : after ≤ maxSafeInteger
  · simp only [require, inRange, if_true]
    by_cases isLater : after < epochMs
    · simp only [isLater, if_true]
      exact ⟨⟨⟨isLater, rfl⟩, fun instant member => member.2.ge⟩, safe⟩
    · simp only [isLater, if_false]
      rw [Set.eq_empty_iff_forall_notMem]
      rintro instant ⟨later, rfl⟩
      exact isLater later
  · simp only [require, inRange, if_false]
    exact Or.inl (Nat.lt_of_not_le inRange)

theorem interval_least (positive : 0 < everyMs) (begun : anchorMs ≤ after) (timezone : String) :
    IsLeast (Later parts (.interval everyMs anchorMs) timezone after)
      (anchorMs + ((after - anchorMs) / everyMs + 1) * everyMs) := by
  have reaches : after - anchorMs < ((after - anchorMs) / everyMs + 1) * everyMs :=
    (Nat.div_lt_iff_lt_mul positive).mp (Nat.lt_succ_self _)
  refine ⟨⟨by omega, _, rfl⟩, ?_⟩
  rintro instant ⟨later, count, rfl⟩
  have counted : (after - anchorMs) / everyMs < count := by
    rw [Nat.div_lt_iff_lt_mul positive]
    omega
  have grows : ((after - anchorMs) / everyMs + 1) * everyMs ≤ count * everyMs :=
    Nat.mul_le_mul_right everyMs counted
  omega

theorem interval_exact (positive : 0 < everyMs) (safe : anchorMs ≤ maxSafeInteger)
    (timezone : String) (after : Nat) :
    NextExact parts (.interval everyMs anchorMs) timezone after := by
  unfold NextExact computeNextScheduledFor
  by_cases inRange : after ≤ maxSafeInteger
  · simp only [require, inRange, if_true]
    by_cases early : after < anchorMs
    · simp only [early, if_true]
      refine ⟨⟨⟨early, 0, by omega⟩, ?_⟩, safe⟩
      rintro instant ⟨-, count, rfl⟩
      exact Nat.le_add_right anchorMs _
    · simp only [early, if_false]
      have least := interval_least parts positive (Nat.le_of_not_lt early) timezone
      by_cases fits : anchorMs + ((after - anchorMs) / everyMs + 1) * everyMs ≤ maxSafeInteger
      · simp only [fits, if_true]
        exact ⟨least, fits⟩
      · simp only [fits, if_false]
        exact Or.inr fun instant member =>
          Nat.lt_of_lt_of_le (Nat.lt_of_not_le fits) (least.2 member)
  · simp only [require, inRange, if_false]
    exact Or.inl (Nat.lt_of_not_le inRange)

theorem cron_exact (parsed : ParsedCron) (timezone : String) (after : Nat) :
    NextExact parts (.cron parsed) timezone after := by
  have searched := @searchCron_exact parts parsed timezone cronSearchLimitMinutes
    (after / 60000 * 60000 + 60000)
  unfold NextExact computeNextScheduledFor
  by_cases inRange : after ≤ maxSafeInteger
  · simp only [require, inRange, if_true]
    cases isSearch : searchCron (zonesOf parts) parsed timezone cronSearchLimitMinutes
        (after / 60000 * 60000 + 60000) with
    | ok found =>
      rw [isSearch] at searched
      obtain ⟨turn, isTurn, rfl, matched, before⟩ := searched
      refine ⟨⟨⟨by omega, by omega, matched⟩, ?_⟩, ?_⟩
      · rintro instant ⟨later, whole, isMatch⟩
        obtain ⟨minute, rfl⟩ := minute_counted later whole
        by_contra earlier
        have missed := before minute (by omega)
        rw [isMatch] at missed
        cases missed
      · change _ ≤ after / 60000 * 60000 + cronSearchLimitMinutes * 60000
        omega
    | error failure =>
      rw [isSearch] at searched
      refine Or.inr ?_
      rintro instant ⟨later, whole, isMatch⟩
      obtain ⟨minute, rfl⟩ := minute_counted later whole
      change after / 60000 * 60000 + cronSearchLimitMinutes * 60000 < _
      by_contra within
      have missed := searched minute (by omega)
      rw [isMatch] at missed
      cases missed
  · simp only [require, inRange, if_false]
    exact Or.inl (Nat.lt_of_not_le inRange)

theorem next_exact {schedule : AutomationSchedule} (normalized : Normalized schedule)
    (timezone : String) (after : Nat) : NextExact parts schedule timezone after := by
  match schedule, normalized with
  | .at epochMs, safe => exact at_exact parts epochMs timezone after safe
  | .interval everyMs anchorMs, ⟨bounds, safe⟩ =>
    have positive : 0 < everyMs := Nat.lt_of_lt_of_le (by decide) bounds.1
    exact interval_exact parts positive safe timezone after
  | .cron parsed, _ => exact cron_exact parts parsed timezone after

theorem field_exact (range : CronRange) (raw : String) : FieldExact range raw := by
  constructor
  · intro field parsed
    obtain ⟨items, spelled, rfl⟩ := parseCronField_ok_iff.mp parsed
    exact ⟨⟨items, spelled, denoted_values spelled.2.2 _⟩, decide_eq_true_iff⟩
  · intro items spelled
    exact ⟨_, parseCronField_ok_iff.mpr ⟨items, spelled, rfl⟩, denoted_values spelled.2.2 _⟩

def midnight (_ : String) (_ : Nat) : ZonedParts where
  month := 1
  day := 1
  hour := 0
  minute := 0
  dayOfWeek := 0

end OpenRill.Automation.NextOccurrence
