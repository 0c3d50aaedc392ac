import Mathlib
import OpenRill.Automation.Schedule
import OpenRill.Lib.Text

/-!
# The fields of a cron expression

`parseCronExpression` and `parseCronField` beside the grammar that they accept: a list of
values, ranges and wildcards, the last two with an optional step. A field is parsed exactly
when it is spelled by such a list, and its values are those that the list denotes. What is
thrown has the code `AUTOMATION_INVALID_SCHEDULE`; the cache of parsed expressions is left
out.
-/

namespace OpenRill.Automation.CronFields

open Lib.Checked Lib.Text Schedule

variable {value min max : Nat} {step : Option (List Char)} {first last base : List Char}

/-- The bounds of a field and the name that its errors give it. -/
structure CronRange where
  min : Nat
  max : Nat
  label : String
  dayOfWeek : Bool
  ordered : min ≤ max

def normalizeDow (value : Nat) : Nat := if value = 7 then 0 else value

def parseCronNumber (raw : List Char) (min max : Nat) (label : String) : Except String Nat := do
  require (raw ≠ [] ∧ ∀ char ∈ raw, char.isDigit = true)
    ("cron " ++ label ++ " contains a non-numeric value")
  require (min ≤ Nat.ofDigitChars 10 raw 0 ∧ Nat.ofDigitChars 10 raw 0 ≤ max)
    ("cron " ++ label ++ " value " ++ String.ofList raw ++ " is outside " ++ toString min ++
      ".." ++ toString max)
  pure (Nat.ofDigitChars 10 raw 0)

def countUp (last step : Nat) : Nat → Nat → List Nat
  | 0, _ => []
  | turns + 1, value =>
    if value ≤ last then value :: countUp last step turns (value + step) else []

def valuesBetween (first last step : Nat) : List Nat :=
  countUp last step (last + 1 - first) first

variable (range : CronRange)

def parseCronBase (base : List Char) (step : Nat) (stepped : Bool) :
    Except String (List Nat) :=
  if base = ['*'] then pure (valuesBetween range.min range.max step)
  else
    match base.splitOn '-' with
    | [_] => do
      require (stepped = false)
        ("cron " ++ range.label ++ " steps require '*' or an explicit range")
      let value ← parseCronNumber base range.min range.max range.label
      pure [value]
    | [startRaw, endRaw] => do
      let start ← parseCronNumber startRaw range.min range.max range.label
      let last ← parseCronNumber endRaw range.min range.max range.label
      require (start ≤ last) ("cron " ++ range.label ++ " range must be ascending")
      pure (valuesBetween start last step)
    | _ => .error ("cron " ++ range.label ++ " range syntax is invalid")

def parseCronItem (item : List Char) : Except String (List Nat) := do
  require (item ≠ []) ("cron " ++ range.label ++ " contains an empty list item")
  match item.splitOn '/' with
  | [base] => parseCronBase range base 1 false
  | [base, stepRaw] => do
    let step ← parseCronNumber stepRaw 1 (range.max - range.min + 1) (range.label ++ " step")
    parseCronBase range base step true
  | _ => .error ("cron " ++ range.label ++ " step syntax is invalid")

def parseCronItems : List (List Char) → Except String (List Nat)
  | [] => pure []
  | item :: items => do
    let values ← parseCronItem range item
    let others ← parseCronItems items
    pure (values ++ others)

def storedValue (value : Nat) : Nat :=
  if range.dayOfWeek = true then normalizeDow value else value

def parseCronField (raw : String) : Except String CronField := do
  let values ← parseCronItems range (raw.toList.splitOn ',')
  require (values ≠ []) ("cron " ++ range.label ++ " has no values")
  pure
    { values := values.map (storedValue range)
      wildcard := decide (raw = "*") }

def cronRange (min max : Nat) (label : String) (dayOfWeek : Bool) (ordered : min ≤ max) :
    CronRange where
  min := min
  max := max
  label := label
  dayOfWeek := dayOfWeek
  ordered := ordered

def parseCronExpression (expression : String) : Except String ParsedCron :=
  match ((trim expression).toList.splitOnP isTrimmed).filter (fun word => word ≠ []) with
  | [minute, hour, dayOfMonth, month, dayOfWeek] => do
    let minute ← parseCronField (cronRange 0 59 "minute" false (by decide)) (String.ofList minute)
    let hour ← parseCronField (cronRange 0 23 "hour" false (by decide)) (String.ofList hour)
    let dayOfMonth ←
      parseCronField (cronRange 1 31 "day-of-month" false (by decide)) (String.ofList dayOfMonth)
    let month ← parseCronField (cronRange 1 12 "month" false (by decide)) (String.ofList month)
    let dayOfWeek ←
      parseCronField (cronRange 0 7 "day-of-week" true (by decide)) (String.ofList dayOfWeek)
    pure
      { minute := minute
        hour := hour
        dayOfMonth := dayOfMonth
        month := month
        dayOfWeek := dayOfWeek }
  | _ =>
    .error ("cron expression must contain exactly five fields: " ++
      "minute hour day-of-month month day-of-week")

variable {range : CronRange}

inductive CronItem where
  | value (digits : List Char)
  | every (step : Option (List Char))
  | range (first last : List Char) (step : Option (List Char))

def numberOf (digits : List Char) : Nat := Nat.ofDigitChars 10 digits 0

def stepText : Option (List Char) → List Char
  | none => []
  | some digits => '/' :: digits

def CronItem.text : CronItem → List Char
  | .value digits => digits
  | .every step => '*' :: stepText step
  | .range first last step => first ++ '-' :: last ++ stepText step

def Numeral (digits : List Char) (min max : Nat) : Prop :=
  (digits ≠ [] ∧ ∀ char ∈ digits, char.isDigit = true) ∧
    min ≤ numberOf digits ∧ numberOf digits ≤ max

def ValidStep (range : CronRange) (step : Option (List Char)) : Prop :=
  ∀ digits, step = some digits → Numeral digits 1 (range.max - range.min + 1)

def CronItem.Valid (range : CronRange) : CronItem → Prop
  | .value digits => Numeral digits range.min range.max
  | .every step => ValidStep range step
  | .range first last step =>
    Numeral first range.min range.max ∧ Numeral last range.min range.max ∧
      numberOf first ≤ numberOf last ∧ ValidStep range step

def stepOf (step : Option (List Char)) : Nat := (step.map numberOf).getD 1

def Between (first last step value : Nat) : Prop :=
  ∃ count, value = first + count * step ∧ value ≤ last

def CronItem.Denotes (range : CronRange) (value : Nat) : CronItem → Prop
  | .value digits => value = numberOf digits
  | .every step => Between range.min range.max (stepOf step) value
  | .range first last step => Between (numberOf first) (numberOf last) (stepOf step) value

def Spells (range : CronRange) (raw : String) (items : List CronItem) : Prop :=
  items ≠ [] ∧ raw.toList = [','].intercalate (items.map CronItem.text) ∧
    ∀ item ∈ items, item.Valid range

def Denoted (range : CronRange) (items : List CronItem) (field : CronField) : Prop :=
  ∀ value, value ∈ field.values ↔
    ∃ item ∈ items, ∃ known, item.Denotes range known ∧ value = storedValue range known

variable {item : CronItem}

theorem parseCronNumber_ok_iff {raw : List Char} {label : String} :
    parseCronNumber raw min max label = .ok value ↔ Numeral raw min max ∧ value = numberOf raw := by
  simp only [parseCronNumber, bind_ok_iff, require_ok_iff, pure_ok_iff, exists_const,
    Numeral, numberOf, eq_comm (a := value), and_assoc]

theorem mem_countUp (last step turns first value : Nat) :
    value ∈ countUp last step turns first ↔
      ∃ count < turns, value = first + count * step ∧ value ≤ last := by
  induction turns generalizing first with
  | zero => simp [countUp]
  | succ turns ih =>
    unfold countUp
    by_cases within : first ≤ last
    · rw [if_pos within, List.mem_cons, ih]
      constructor
      · rintro (rfl | ⟨count, isTurn, isValue, isWithin⟩)
        · exact ⟨0, by omega, by omega, within⟩
        · exact ⟨count + 1, by omega, by rw [isValue, Nat.succ_mul]; omega, isWithin⟩
      rintro ⟨count, isTurn, isValue, isWithin⟩
      cases count with
      | zero => exact Or.inl (by omega)
      | succ count =>
        refine Or.inr ⟨count, by omega, ?_, isWithin⟩
        rw [isValue, Nat.succ_mul]
        omega
    · rw [if_neg within]
      constructor
      · exact fun member => nomatch member
      · rintro ⟨count, -, isValue, isWithin⟩
        exact absurd (by omega : first ≤ last) within

theorem mem_valuesBetween {first last step : Nat} (positive : 1 ≤ step) :
    value ∈ valuesBetween first last step ↔ Between first last step value := by
  unfold valuesBetween Between
  rw [mem_countUp]
  constructor
  · rintro ⟨count, -, isValue, isWithin⟩
    exact ⟨count, isValue, isWithin⟩
  · rintro ⟨count, isValue, isWithin⟩
    have grows : count ≤ count * step := Nat.le_mul_of_pos_right count positive
    exact ⟨count, by omega, isValue, isWithin⟩

theorem stepOf_positive (valid : ValidStep range step) : 1 ≤ stepOf step := by
  cases step with
  | none => exact Nat.le_refl 1
  | some digits => exact (valid digits rfl).2.1

theorem numeral_plain {digits : List Char} (numeral : Numeral digits min max) (sign : Char)
    (isSign : sign.isDigit = false) : sign ∉ digits := by
  intro member
  have digit := numeral.1.2 sign member
  rw [isSign] at digit
  cases digit

def CronItem.values (range : CronRange) : CronItem → List Nat
  | .value digits => [numberOf digits]
  | .every step => valuesBetween range.min range.max (stepOf step)
  | .range first last step =>
    valuesBetween (numberOf first) (numberOf last) (stepOf step)

theorem CronItem.mem_values (valid : item.Valid range) :
    value ∈ item.values range ↔ item.Denotes range value := by
  cases item with
  | value digits => exact List.mem_singleton
  | every step => exact mem_valuesBetween (stepOf_positive valid)
  | range first last step => exact mem_valuesBetween (stepOf_positive valid.2.2.2)

theorem CronItem.values_nonempty (valid : item.Valid range) : item.values range ≠ [] := by
  suffices some_value : ∃ value, item.Denotes range value by
    obtain ⟨value, denotes⟩ := some_value
    exact List.ne_nil_of_mem ((CronItem.mem_values valid).mpr denotes)
  cases item with
  | value digits => exact ⟨_, rfl⟩
  | every step => exact ⟨range.min, 0, by simp, range.ordered⟩
  | range first last step => exact ⟨numberOf first, 0, by simp, valid.2.2.1⟩

theorem splitOn_plain {text : List Char} {sign : Char} (plain : sign ∉ text) :
    text.splitOn sign = [text] := List.splitOn_eq_singleton plain

theorem splitOn_once {sign : Char} (firstPlain : sign ∉ first) (lastPlain : sign ∉ last) :
    (first ++ sign :: last).splitOn sign = [first, last] := by
  rw [List.splitOn_append_cons_self_of_not_mem firstPlain, splitOn_plain lastPlain]

theorem eq_of_plain {text piece : List Char} {sign : Char}
    (pieces : text.splitOn sign = [piece]) : text = piece := by
  have whole : [sign].intercalate (text.splitOn sign) = text := List.intercalate_splitOn sign
  rw [pieces, List.intercalate_singleton] at whole
  exact whole.symm

theorem eq_of_once {text : List Char} {sign : Char} (pieces : text.splitOn sign = [first, last]) :
    text = first ++ sign :: last := by
  have whole : [sign].intercalate (text.splitOn sign) = text := List.intercalate_splitOn sign
  rw [pieces, List.intercalate_cons_cons, List.intercalate_singleton] at whole
  rw [← whole]
  simp

theorem parseCronBase_ok_iff {step : Nat} {stepped : Bool} {values : List Nat} :
    parseCronBase range base step stepped = .ok values ↔
      (base = ['*'] ∧ values = valuesBetween range.min range.max step) ∨
      (stepped = false ∧ Numeral base range.min range.max ∧ values = [numberOf base]) ∨
      ∃ first last, base = first ++ '-' :: last ∧ Numeral first range.min range.max ∧
        Numeral last range.min range.max ∧ numberOf first ≤ numberOf last ∧
        values = valuesBetween (numberOf first) (numberOf last) step := by
  have starPlain : ∀ {digits : List Char}, Numeral digits range.min range.max →
      digits ≠ ['*'] := by
    rintro digits numeral rfl
    exact numeral_plain numeral '*' rfl (by simp)
  constructor
  · intro parsed
    unfold parseCronBase at parsed
    split at parsed
    next isStar =>
      rw [pure_ok_iff] at parsed
      exact Or.inl ⟨isStar, parsed.symm⟩
    next =>
      split at parsed
      next =>
        simp only [bind_ok_iff, require_ok_iff, pure_ok_iff, exists_const,
          parseCronNumber_ok_iff] at parsed
        obtain ⟨plain, value, ⟨numeral, rfl⟩, isValues⟩ := parsed
        exact Or.inr (Or.inl ⟨plain, numeral, isValues.symm⟩)
      next startRaw endRaw pieces =>
        simp only [bind_ok_iff, require_ok_iff, pure_ok_iff, exists_const,
          parseCronNumber_ok_iff] at parsed
        obtain ⟨start, ⟨first, rfl⟩, last, ⟨final, rfl⟩, ascending, isValues⟩ := parsed
        refine Or.inr (Or.inr ⟨startRaw, endRaw, ?_, first, final, ascending, isValues.symm⟩)
        exact eq_of_once pieces
      next => cases parsed
  · unfold parseCronBase
    rintro (⟨rfl, rfl⟩ | ⟨rfl, numeral, rfl⟩ |
      ⟨first, last, rfl, isFirst, isLast, ascending, rfl⟩)
    · rfl
    · rw [if_neg (starPlain numeral), splitOn_plain (numeral_plain numeral '-' rfl)]
      simp only [bind_ok_iff, require_ok_iff, pure_ok_iff, exists_const, parseCronNumber_ok_iff]
      exact ⟨trivial, _, ⟨numeral, rfl⟩, rfl⟩
    have notStar : first ++ '-' :: last ≠ ['*'] := by
      intro same
      have member : '-' ∈ ['*'] := by
        rw [← same]
        simp
      simp at member
    rw [if_neg notStar,
      splitOn_once (numeral_plain isFirst '-' rfl) (numeral_plain isLast '-' rfl)]
    simp only [bind_ok_iff, require_ok_iff, pure_ok_iff, exists_const, parseCronNumber_ok_iff]
    exact ⟨_, ⟨isFirst, rfl⟩, _, ⟨isLast, rfl⟩, ascending, rfl⟩

theorem stepText_plain (valid : ValidStep range step) (sign : Char) (isSign : sign.isDigit = false)
    (notSlash : sign ≠ '/') : sign ∉ stepText step := by
  cases step with
  | none => simp [stepText]
  | some digits =>
    have plain := numeral_plain (valid digits rfl) sign isSign
    simp [stepText, notSlash, plain]

theorem CronItem.text_plain (valid : item.Valid range) : ',' ∉ item.text := by
  cases item with
  | value digits => exact numeral_plain valid ',' rfl
  | every step =>
    have plain := stepText_plain valid ',' rfl (by decide)
    simp [CronItem.text, plain]
  | range first last step =>
    obtain ⟨isFirst, isLast, -, validStep⟩ := valid
    have plain := stepText_plain validStep ',' rfl (by decide)
    simp [CronItem.text, plain, numeral_plain isFirst ',' rfl, numeral_plain isLast ',' rfl]

theorem parseCronItem_stepped (plain : '/' ∉ base) (nonempty : base ≠ [])
    (valid : ValidStep range step) :
    parseCronItem range (base ++ stepText step) =
      parseCronBase range base (stepOf step) step.isSome := by
  unfold parseCronItem
  have given : base ++ stepText step ≠ [] := by simp [nonempty]
  rw [require, if_pos given]
  cases step with
  | none =>
    simp only [stepText, List.append_nil, splitOn_plain plain]
    rfl
  | some digits =>
    have numeral := valid digits rfl
    have parsed : parseCronNumber digits 1 (range.max - range.min + 1) (range.label ++ " step") =
        .ok (numberOf digits) := parseCronNumber_ok_iff.mpr ⟨numeral, rfl⟩
    simp only [stepText, splitOn_once plain (numeral_plain numeral '/' rfl), parsed]
    rfl

theorem valid_unstepped : ValidStep range none := by
  intro digits same
  cases same

theorem parseCronItem_ok_iff {item : List Char} {values : List Nat} :
    parseCronItem range item = .ok values ↔
      ∃ parsed : CronItem, parsed.text = item ∧ parsed.Valid range ∧
        values = parsed.values range := by
  constructor
  · intro done
    simp only [parseCronItem, bind_ok_iff, require_ok_iff, exists_const] at done
    obtain ⟨-, done⟩ := done
    split at done
    next base pieces =>
      have isBase : item = base := eq_of_plain pieces
      rcases parseCronBase_ok_iff.mp done with ⟨rfl, isValues⟩ | ⟨-, numeral, isValues⟩ |
        ⟨first, last, rfl, isFirst, isLast, ascending, isValues⟩
      · exact ⟨.every none, isBase.symm, valid_unstepped, isValues⟩
      · exact ⟨.value base, isBase.symm, numeral, isValues⟩
      · refine ⟨.range first last none, ?_, ⟨isFirst, isLast, ascending, valid_unstepped⟩, isValues⟩
        simp [CronItem.text, stepText, isBase]
    next base stepRaw pieces =>
      have isItem : item = base ++ '/' :: stepRaw := eq_of_once pieces
      simp only [bind_ok_iff, parseCronNumber_ok_iff] at done
      obtain ⟨step, ⟨numeral, rfl⟩, done⟩ := done
      have valid : ValidStep range (some stepRaw) := by
        intro digits same
        rw [← Option.some.inj same]
        exact numeral
      rcases parseCronBase_ok_iff.mp done with ⟨rfl, isValues⟩ | ⟨unstepped, -, -⟩ |
        ⟨first, last, rfl, isFirst, isLast, ascending, isValues⟩
      · exact ⟨.every (some stepRaw), isItem.symm, valid, isValues⟩
      · cases unstepped
      · refine ⟨.range first last (some stepRaw), ?_, ⟨isFirst, isLast, ascending, valid⟩, isValues⟩
        rw [isItem]
        rfl
    next => cases done
  · rintro ⟨parsed, rfl, valid, rfl⟩
    cases parsed with
    | value digits =>
      have unstepped : ValidStep range none := valid_unstepped
      have whole := parseCronItem_stepped (numeral_plain valid '/' rfl) valid.1.1 unstepped
      rw [stepText, List.append_nil] at whole
      rw [CronItem.text, whole, parseCronBase_ok_iff]
      exact Or.inr (Or.inl ⟨rfl, valid, rfl⟩)
    | every step =>
      have plain : '/' ∉ ['*'] := by simp
      have whole := parseCronItem_stepped plain (by simp) valid
      rw [CronItem.text, ← List.singleton_append, whole, parseCronBase_ok_iff]
      exact Or.inl ⟨rfl, rfl⟩
    | range first last step =>
      obtain ⟨isFirst, isLast, ascending, validStep⟩ := valid
      have plain : '/' ∉ first ++ '-' :: last := by
        simp [numeral_plain isFirst '/' rfl, numeral_plain isLast '/' rfl]
      have whole := parseCronItem_stepped plain (by simp) validStep
      rw [CronItem.text, whole, parseCronBase_ok_iff]
      exact Or.inr (Or.inr ⟨first, last, rfl, isFirst, isLast, ascending, rfl⟩)

theorem parseCronItems_ok_iff {pieces : List (List Char)} {values : List Nat} :
    parseCronItems range pieces = .ok values ↔
      ∃ items : List CronItem, items.map CronItem.text = pieces ∧
        (∀ item ∈ items, item.Valid range) ∧
        values = items.flatMap (CronItem.values range) := by
  induction pieces generalizing values with
  | nil =>
    simp only [parseCronItems, pure_ok_iff, List.map_eq_nil_iff]
    constructor
    · rintro rfl
      exact ⟨[], rfl, by simp, rfl⟩
    · rintro ⟨items, rfl, -, rfl⟩
      rfl
  | cons piece pieces ih =>
    simp only [parseCronItems, bind_ok_iff, pure_ok_iff, parseCronItem_ok_iff, ih]
    constructor
    · rintro ⟨-, ⟨item, rfl, valid, rfl⟩, -, ⟨items, rfl, allValid, rfl⟩, rfl⟩
      exact ⟨item :: items, rfl, List.forall_mem_cons.mpr ⟨valid, allValid⟩, rfl⟩
    rintro ⟨items, texts, allValid, rfl⟩
    cases items with
    | nil => cases texts
    | cons item items =>
      obtain ⟨valid, others⟩ := List.forall_mem_cons.mp allValid
      simp only [List.map_cons, List.cons.injEq] at texts
      exact ⟨_, ⟨item, texts.1, valid, rfl⟩, _, ⟨items, texts.2, others, rfl⟩, rfl⟩

theorem denoted_values {items : List CronItem} (valid : ∀ item ∈ items, item.Valid range)
    (wildcard : Bool) :
    Denoted range items
      { values := (items.flatMap (CronItem.values range)).map (storedValue range)
        wildcard := wildcard } := by
  intro value
  simp only [List.mem_map, List.mem_flatMap]
  constructor
  · rintro ⟨known, ⟨item, itemIn, known_in⟩, rfl⟩
    exact ⟨item, itemIn, known, (CronItem.mem_values (valid item itemIn)).mp known_in, rfl⟩
  · rintro ⟨item, itemIn, known, denotes, rfl⟩
    exact ⟨known, ⟨item, itemIn, (CronItem.mem_values (valid item itemIn)).mpr denotes⟩, rfl⟩

theorem parseCronField_ok_iff {raw : String} {field : CronField} :
    parseCronField range raw = .ok field ↔
      ∃ items, Spells range raw items ∧
        field =
          { values := (items.flatMap (CronItem.values range)).map (storedValue range)
            wildcard := decide (raw = "*") } := by
  simp only [parseCronField, bind_ok_iff, require_ok_iff, pure_ok_iff, exists_const,
    parseCronItems_ok_iff]
  constructor
  · rintro ⟨-, ⟨items, pieces, valid, rfl⟩, given, rfl⟩
    refine ⟨items, ⟨?_, ?_, valid⟩, rfl⟩
    · rintro rfl
      exact given rfl
    · rw [pieces]
      exact (List.intercalate_splitOn ',').symm
  · rintro ⟨items, ⟨given, spelled, valid⟩, rfl⟩
    have noCommas : ∀ text ∈ items.map CronItem.text, ',' ∉ text := by
      intro text textIn
      obtain ⟨item, itemIn, rfl⟩ := List.mem_map.mp textIn
      exact CronItem.text_plain (valid item itemIn)
    have pieces : raw.toList.splitOn ',' = items.map CronItem.text := by
      rw [spelled]
      exact List.splitOn_intercalate ',' noCommas (by simpa using given)
    refine ⟨_, ⟨items, pieces.symm, valid, rfl⟩, ?_, rfl⟩
    obtain ⟨item, rest, rfl⟩ := List.exists_cons_of_ne_nil given
    simp [CronItem.values_nonempty (valid item (by simp))]

end OpenRill.Automation.CronFields
