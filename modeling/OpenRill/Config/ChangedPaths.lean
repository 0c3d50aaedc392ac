import OpenRill.Lib.Json
import Mathlib.Data.List.Dedup

/-!
# The paths of a configuration change

`collectChangedPaths` compares two values that come from separate parses. Only scalars
are compared by value, so two arrays at one place are always reported, whatever they
hold. A name that a mapping lacks is read from its prototype: `__proto__` gives an
object, which counts as a mapping of its own.
-/

namespace OpenRill.Config.ChangedPaths

open Lib

/-- What reading a property gives: nothing that JSON has, `Object.prototype` or a value. -/
inductive Slot where
  | absent
  | prototype
  | value (json : Json)

def Slot.own : Slot → Option Json
  | .value json => some json
  | _ => none

/-- The keys of a mapping. -/
def Slot.keys : Slot → Option (List String)
  | .value (.object members) => some (members.map Prod.fst)
  | .prototype => some []
  | _ => none

/-- `slot[key]`. -/
def Slot.read (slot : Slot) (key : String) : Slot :=
  match slot with
  | .value (.object members) =>
    match members.lookup key with
    | some json => .value json
    | none => if key = "__proto__" then .prototype else .absent
  | .prototype => if key = "__proto__" then .value .null else .absent
  | _ => .absent

/-- `Object.is` of two values from separate parses. -/
def Slot.is : Slot → Slot → Bool
  | .absent, .absent => true
  | .prototype, .prototype => true
  | .value .null, .value .null => true
  | .value (.flag before), .value (.flag after) => before = after
  | .value (.number before), .value (.number after) => before = after
  | .value (.text before), .value (.text after) => before = after
  | _, _ => false

def sortedKeys (before after : List String) : List String :=
  (before ++ after).dedup.insertionSort (· ≤ ·)

noncomputable def Slot.size : Slot → Nat
  | .absent => 0
  | .prototype => 3
  | .value json => 2 * sizeOf json

theorem size_read {slot : Slot} {keys : List String} (isMapping : slot.keys = some keys)
    (key : String) : (slot.read key).size < slot.size := by
  cases slot with
  | absent => cases isMapping
  | prototype =>
    rw [Slot.read]
    split <;> simp [Slot.size]
  | value json =>
    cases json with
    | object members =>
      rw [Slot.read, Slot.size, Json.object.sizeOf_spec]
      split
      next json found =>
        obtain ⟨first, rest, rfl, -⟩ := List.lookup_eq_some_iff.mp found
        have member : (key, json) ∈ first ++ (key, json) :: rest := by simp
        have less := List.sizeOf_lt_of_mem member
        rw [Prod.mk.sizeOf_spec] at less
        rw [Slot.size]
        omega
      next =>
        have some : 0 < sizeOf members := by cases members <;> simp
        split <;> rw [Slot.size] <;> omega
    | _ => cases isMapping

/-- `collectChangedPaths`, with any record of the keys for a path. -/
def changed {Path : Type} (extend : Path → String → Path) (before after : Slot) (path : Path) :
    List Path :=
  if before.is after then []
  else
    match _isBefore : before.keys, _isAfter : after.keys with
    | some beforeKeys, some afterKeys =>
      (sortedKeys beforeKeys afterKeys).flatMap (fun key =>
        changed extend (before.read key) (after.read key) (extend path key))
    | _, _ => [path]
termination_by before.size + after.size
decreasing_by
  have first := size_read _isBefore key
  have second := size_read _isAfter key
  omega

/-- The text of a path with one more key. -/
def extendText (path key : String) : String := if path = "" then key else path ++ "." ++ key

def collectChangedPaths (before after : Json) : List String :=
  (changed extendText (.value before) (.value after) "").map (fun path =>
    if path = "" then "<root>" else path)

def addKey (path : List String) (key : String) : List String := path ++ [key]

/-- The keys of the reported paths. -/
def changedKeys (before after : Slot) : List (List String) := changed addKey before after []

def pathText (keys : List String) : String :=
  let path := keys.foldl extendText ""
  if path = "" then "<root>" else path

/-- Structural equality: equal scalars, items in their order, members by their names. -/
inductive Same : Option Json → Option Json → Prop
  | absent : Same none none
  | null : Same (some .null) (some .null)
  | flag (value : Bool) : Same (some (.flag value)) (some (.flag value))
  | number (literal : String) : Same (some (.number literal)) (some (.number literal))
  | text (value : String) : Same (some (.text value)) (some (.text value))
  | list {items others : List Json} (each : ∀ index : Nat, Same items[index]? others[index]?) :
      Same (some (.list items)) (some (.list others))
  | object {members others : List (String × Json)}
      (each : ∀ key, Same (members.lookup key) (others.lookup key)) :
      Same (some (.object members)) (some (.object others))

/-- What two slots hold along a path through mappings on both sides. -/
inductive At : Slot → Slot → List String → Slot → Slot → Prop
  | here (before after : Slot) : At before after [] before after
  | inside {members others : List (String × Json)} {key : String} {rest : List String}
      {before after : Slot}
      (later : At (Slot.read (.value (.object members)) key)
        (Slot.read (.value (.object others)) key) rest before after) :
      At (.value (.object members)) (.value (.object others)) (key :: rest) before after

def Mappings (before after : Slot) : Prop :=
  ∃ members others, before = .value (.object members) ∧ after = .value (.object others)

/-- The path leads to values that differ and are not mappings both. -/
def Differs (first second : Slot) (path : List String) : Prop :=
  ∃ before after, At first second path before after ∧ ¬ Mappings before after ∧
    ¬ Same before.own after.own

/-- Two equal arrays, or a mapping against the prototype of the other side. -/
inductive Hidden : Slot → Slot → Prop
  | arrays {items others : List Json} (same : Same (some (.list items)) (some (.list others))) :
      Hidden (.value (.list items)) (.value (.list others))
  | missingBefore (members : List (String × Json)) : Hidden .prototype (.value (.object members))
  | missingAfter (members : List (String × Json)) : Hidden (.value (.object members)) .prototype

/-- Nothing hidden stands along the paths through mappings on both sides. -/
def Clear (first second : Slot) : Prop :=
  ∀ path before after, At first second path before after → ¬ Hidden before after

/-- The reported paths are those of the differences, each once. -/
def Exact (before after : Json) : Prop :=
  (collectChangedPaths before after = [] ↔ Same (some before) (some after)) ∧
    (changedKeys (.value before) (.value after)).Nodup ∧
    ∀ path, path ∈ changedKeys (.value before) (.value after) ↔
      Differs (.value before) (.value after) path

variable {Path : Type} {extend : Path → String → Path} {before after first second : Slot}
variable {path keys otherKeys : List String} {members others : List (String × Json)} {key : String}

theorem changed_map {Text : Type} {extendOther : Text → String → Text} (render : Path → Text)
    (agrees : ∀ path key, render (extend path key) = extendOther (render path) key)
    (before after : Slot) (path : Path) :
    (changed extend before after path).map render =
      changed extendOther before after (render path) := by
  fun_induction changed extend before after path with
  | case1 _ _ _ same =>
    rw [changed, if_pos same]
    rfl
  | case2 before after path apart beforeKeys afterKeys isBefore isAfter ih =>
    rw [changed, if_neg apart, List.map_flatMap]
    simp only [ih, agrees]
    split
    next isFirst isSecond =>
      rw [isBefore, Option.some.injEq] at isFirst
      rw [isAfter, Option.some.injEq] at isSecond
      rw [isFirst, isSecond]
    next none => exact absurd isAfter (none _ _ isBefore)
  | case3 before after path apart none =>
    rw [changed, if_neg apart]
    split
    next isFirst isSecond => exact absurd isSecond (none _ _ isFirst)
    next => rfl

/-- The reported texts are those of the reported keys. -/
theorem collected_texts (before after : Json) : collectChangedPaths before after =
    (changedKeys (.value before) (.value after)).map pathText := by
  have texts := @changed_map _ addKey _ extendText (List.foldl extendText "")
    (fun path key => List.foldl_append) (.value before) (.value after) []
  rw [List.foldl_nil] at texts
  rw [collectChangedPaths, changedKeys, ← texts, List.map_map]
  rfl

theorem changed_below (path : List String) :
    changed addKey before after path = (changedKeys before after).map (path ++ ·) := by
  have below := @changed_map _ addKey _ addKey (path ++ ·)
    (fun inner key => (List.append_assoc path inner [key]).symm) before after []
  rw [List.append_nil] at below
  exact below.symm

theorem changedKeys_same (same : before.is after = true) : changedKeys before after = [] := by
  rw [changedKeys, changed, if_pos same]

theorem changedKeys_inside (differ : ¬ before.is after = true) (isBefore : before.keys = some keys)
    (isAfter : after.keys = some otherKeys) :
    changedKeys before after = (sortedKeys keys otherKeys).flatMap (fun key =>
      (changedKeys (before.read key) (after.read key)).map (key :: ·)) := by
  rw [changedKeys, changed, if_neg differ]
  simp only [changed_below (addKey [] _)]
  split
  next isFirst isSecond =>
    rw [isBefore, Option.some.injEq] at isFirst
    rw [isAfter, Option.some.injEq] at isSecond
    rw [isFirst, isSecond]
    rfl
  next none => exact absurd isAfter (none _ _ isBefore)

theorem changedKeys_apart (differ : ¬ before.is after = true)
    (none : ∀ keys otherKeys, before.keys = some keys → after.keys = some otherKeys → False) :
    changedKeys before after = [[]] := by
  rw [changedKeys, changed, if_neg differ]
  split
  next isFirst isSecond => exact (none _ _ isFirst isSecond).elim
  next => rfl

/-- The cases of `collectChangedPaths`. -/
theorem slots_induct {motive : Slot → Slot → Prop}
    (same : ∀ before after, before.is after = true → motive before after)
    (inside : ∀ before after, ¬ before.is after = true → ∀ keys otherKeys,
      before.keys = some keys → after.keys = some otherKeys →
        (∀ key, motive (before.read key) (after.read key)) → motive before after)
    (apart : ∀ before after, ¬ before.is after = true →
      (∀ keys otherKeys, before.keys = some keys → after.keys = some otherKeys → False) →
        motive before after) (before after : Slot) : motive before after :=
  @changed.induct Unit (fun path _ => path) (fun before after _ => motive before after)
    (fun before after _ => same before after)
    (fun before after _ differ keys otherKeys isBefore isAfter ih =>
      inside before after differ keys otherKeys isBefore isAfter ih)
    (fun before after _ differ none => apart before after differ none) before after ()

theorem changedKeys_nodup (before after : Slot) : (changedKeys before after).Nodup := by
  induction before, after using slots_induct with
  | same before after same => simp [changedKeys_same same]
  | inside before after differ keys otherKeys isBefore isAfter ih =>
    rw [changedKeys_inside differ isBefore isAfter]
    have distinct : (sortedKeys keys otherKeys).Nodup :=
      (List.perm_insertionSort _ _).nodup_iff.mpr (List.nodup_dedup _)
    refine List.nodup_flatMap.mpr ⟨fun key _ => (ih key).map List.cons_injective, ?_⟩
    refine List.Pairwise.imp (fun different path here there => different ?_) distinct
    obtain ⟨_, -, rfl⟩ := List.mem_map.mp here
    obtain ⟨_, -, isPath⟩ := List.mem_map.mp there
    exact (List.cons.inj isPath).1.symm
  | apart before after differ none => simp [changedKeys_apart differ none]

theorem at_apart (apart : ¬ Mappings before after)
    (reached : At before after path first second) :
    path = [] ∧ first = before ∧ second = after := by
  cases reached with
  | here => exact ⟨rfl, rfl, rfl⟩
  | inside => exact absurd ⟨_, _, rfl, rfl⟩ apart

theorem differs_apart (apart : ¬ Mappings before after) :
    Differs before after path ↔ path = [] ∧ ¬ Same before.own after.own := by
  constructor
  · rintro ⟨first, second, reached, -, differ⟩
    obtain ⟨rfl, rfl, rfl⟩ := at_apart apart reached
    exact ⟨rfl, differ⟩
  · rintro ⟨rfl, differ⟩
    exact ⟨before, after, .here before after, apart, differ⟩

theorem clear_apart (apart : ¬ Mappings before after) :
    Clear before after ↔ ¬ Hidden before after := by
  constructor
  · exact fun clear => clear [] before after (.here before after)
  · intro open_ path first second reached
    obtain ⟨-, rfl, rfl⟩ := at_apart apart reached
    exact open_

theorem differs_inside : Differs (.value (.object members)) (.value (.object others)) path ↔
    ∃ key rest, path = key :: rest ∧ Differs ((Slot.value (.object members)).read key)
      ((Slot.value (.object others)).read key) rest := by
  constructor
  · rintro ⟨first, second, reached, apart, differ⟩
    cases reached with
    | here => exact absurd ⟨_, _, rfl, rfl⟩ apart
    | inside later => exact ⟨_, _, rfl, first, second, later, apart, differ⟩
  · rintro ⟨key, rest, rfl, first, second, later, apart, differ⟩
    exact ⟨first, second, .inside later, apart, differ⟩

theorem clear_inside : Clear (.value (.object members)) (.value (.object others)) ↔
    ∀ key, Clear ((Slot.value (.object members)).read key)
      ((Slot.value (.object others)).read key) := by
  constructor
  · exact fun clear key path first second later => clear (key :: path) first second (.inside later)
  · intro each path first second reached
    cases reached with
    | here => nofun
    | inside later => exact each _ _ first second later

theorem read_own : ((Slot.value (.object members)).read key).own = members.lookup key := by
  rw [Slot.read]
  cases members.lookup key with
  | some json => rfl
  | none =>
    dsimp only
    split <;> rfl

/-- A key that both mappings lack reads the same on both sides. -/
theorem read_missing (missing : members.lookup key = none) (missingToo : others.lookup key = none) :
    (Slot.value (.object members)).read key = (Slot.value (.object others)).read key ∧
      ((Slot.value (.object members)).read key).is ((Slot.value (.object others)).read key) =
        true := by
  simp only [Slot.read, missing, missingToo]
  split <;> exact ⟨trivial, rfl⟩

/-- A key that one of the mappings has is visited. -/
theorem mem_sortedKeys : key ∈ sortedKeys (members.map Prod.fst) (others.map Prod.fst) ↔
    ¬ (members.lookup key = none ∧ others.lookup key = none) := by
  have named : ∀ entries : List (String × Json),
      key ∈ entries.map Prod.fst ↔ entries.lookup key ≠ none := by
    intro entries
    induction entries with
    | nil => simp
    | cons entry rest ih => by_cases same : key = entry.1 <;> simp_all
  rw [sortedKeys, List.mem_insertionSort, List.mem_dedup, List.mem_append, named, named]
  tauto

theorem mem_changedKeys_inside :
    path ∈ changedKeys (.value (.object members)) (.value (.object others)) ↔
      ∃ key rest, path = key :: rest ∧ rest ∈ changedKeys
        ((Slot.value (.object members)).read key) ((Slot.value (.object others)).read key) := by
  rw [changedKeys_inside (by nofun) rfl rfl, List.mem_flatMap]
  constructor
  · rintro ⟨key, -, isReported⟩
    obtain ⟨rest, isRest, rfl⟩ := List.mem_map.mp isReported
    exact ⟨key, rest, rfl, isRest⟩
  · rintro ⟨key, rest, rfl, isRest⟩
    refine ⟨key, mem_sortedKeys.mpr ?_, List.mem_map_of_mem isRest⟩
    rintro ⟨missing, missingToo⟩
    rw [changedKeys_same (read_missing missing missingToo).2] at isRest
    cases isRest

/-- Values that are the same at once are equal scalars. -/
theorem same_of_is (same : before.is after = true) :
    Same before.own after.own ∧ ¬ Mappings before after ∧ ¬ Hidden before after := by
  unfold Slot.is at same
  split at same
  · exact ⟨.absent, nofun, nofun⟩
  · exact ⟨.absent, nofun, nofun⟩
  · exact ⟨.null, nofun, nofun⟩
  · rw [of_decide_eq_true same]
    exact ⟨.flag _, nofun, nofun⟩
  · rw [of_decide_eq_true same]
    exact ⟨.number _, nofun, nofun⟩
  · rw [of_decide_eq_true same]
    exact ⟨.text _, nofun, nofun⟩
  · cases same

theorem is_of_same (same : Same before.own after.own)
    (known : before.own = none → after.own = none → before = after) :
    before.is after = true ∨ Mappings before after ∨ Hidden before after := by
  cases before <;> cases after <;> unfold Slot.own at same <;> cases same
  all_goals first | exact .inl rfl | exact nomatch known rfl rfl | skip
  · exact .inl (decide_eq_true rfl)
  · exact .inl (decide_eq_true rfl)
  · exact .inl (decide_eq_true rfl)
  · exact .inr (.inr (.arrays (.list ‹_›)))
  · exact .inr (.inl ⟨_, _, rfl, rfl⟩)

theorem mapping_of_keys (isMapping : before.keys = some keys) :
    before = .prototype ∨ ∃ members, before = .value (.object members) := by
  unfold Slot.keys at isMapping
  split at isMapping
  · exact .inr ⟨_, rfl⟩
  · exact .inl rfl
  · cases isMapping

theorem same_at (reached : At before after path first second)
    (same : Same before.own after.own) : Same first.own second.own := by
  induction reached with
  | here => exact same
  | inside later ih =>
    cases same with
    | object each =>
      apply ih
      rw [read_own, read_own]
      exact each _

theorem same_iff (before after : Slot) :
    Same before.own after.own ↔ ∀ path, ¬ Differs before after path := by
  constructor
  · rintro same path ⟨first, second, reached, -, differ⟩
    exact differ (same_at reached same)
  · intro none
    by_cases both : Mappings before after
    · obtain ⟨members, others, rfl, rfl⟩ := both
      refine .object (fun key => ?_)
      have smaller := @size_read (.value (.object members)) _ rfl key
      rw [← @read_own members, ← @read_own others, same_iff]
      exact fun rest differs => none (key :: rest) (differs_inside.mpr ⟨key, rest, rfl, differs⟩)
    · by_contra differ
      exact none [] ((differs_apart both).mpr ⟨rfl, differ⟩)
termination_by before.size

def Told (before after : Slot) : Prop :=
  ∀ path, path ∈ changedKeys before after ↔ Differs before after path

/-- A mapping against a prototype differs at once, and only its members are reported. -/
theorem untold_of_prototype (apart : ¬ Mappings before after)
    (differ : ¬ Same before.own after.own) (isBefore : before.keys = some keys)
    (isAfter : after.keys = some otherKeys) (unlike : ¬ before.is after = true) :
    ¬ Told before after := by
  intro told
  have isTold := (told []).mpr ((differs_apart apart).mpr ⟨rfl, differ⟩)
  rw [changedKeys_inside unlike isBefore isAfter] at isTold
  simp at isTold

theorem told_iff_clear (before after : Slot)
    (known : before.own = none → after.own = none → before = after) :
    Told before after ↔ Clear before after := by
  induction before, after using slots_induct with
  | same before after same =>
    obtain ⟨equal, apart, open_⟩ := same_of_is same
    refine iff_of_true (fun path => ?_) ((clear_apart apart).mpr open_)
    rw [changedKeys_same same, differs_apart apart]
    exact iff_of_false List.not_mem_nil fun differs => differs.2 equal
  | inside before after unlike keys otherKeys isBefore isAfter ih =>
    rcases mapping_of_keys isBefore with rfl | ⟨members, rfl⟩ <;>
      rcases mapping_of_keys isAfter with rfl | ⟨others, rfl⟩
    · exact absurd rfl unlike
    · have apart : ¬ Mappings .prototype (.value (.object others)) := nofun
      exact iff_of_false (untold_of_prototype apart nofun isBefore isAfter unlike)
        fun clear => (clear_apart apart).mp clear (.missingBefore others)
    · have apart : ¬ Mappings (.value (.object members)) .prototype := nofun
      exact iff_of_false (untold_of_prototype apart nofun isBefore isAfter unlike)
        fun clear => (clear_apart apart).mp clear (.missingAfter members)
    · have below := fun key => ih key (by
        rw [read_own, read_own]
        exact fun missing missingToo => (read_missing missing missingToo).1)
      rw [clear_inside]
      constructor
      · intro told key
        refine (below key).mp fun rest => ?_
        have same := told (key :: rest)
        rw [mem_changedKeys_inside, differs_inside] at same
        simpa using same
      · intro clear path
        rw [mem_changedKeys_inside, differs_inside]
        exact exists_congr fun key => exists_congr fun rest =>
          and_congr_right fun _ => (below key).mpr (clear key) rest
  | apart before after unlike none =>
    have apart : ¬ Mappings before after := by
      rintro ⟨members, others, rfl, rfl⟩
      exact none _ _ rfl rfl
    have hidden_iff : Hidden before after ↔ Same before.own after.own := by
      constructor
      · intro hidden
        cases hidden with
        | arrays same => exact same
        | missingBefore => exact (none _ _ rfl rfl).elim
        | missingAfter => exact (none _ _ rfl rfl).elim
      · exact fun same => ((is_of_same same known).resolve_left unlike).resolve_left apart
    unfold Told
    rw [changedKeys_apart unlike none, clear_apart apart, hidden_iff]
    simp only [differs_apart apart, List.mem_singleton]
    exact ⟨fun told => ((told []).mp rfl).2, fun differ path => ⟨fun isPath => ⟨isPath, differ⟩,
      And.left⟩⟩

theorem exact_iff (before after : Json) :
    Exact before after ↔ Clear (.value before) (.value after) := by
  rw [← told_iff_clear _ _ (by nofun)]
  constructor
  · exact fun exact_ => exact_.2.2
  · intro told
    refine ⟨?_, changedKeys_nodup _ _, told⟩
    rw [collected_texts, List.map_eq_nil_iff, List.eq_nil_iff_forall_not_mem]
    exact (forall_congr' fun path => not_congr (told path)).trans
      (same_iff (.value before) (.value after)).symm

/-- What is reported are the paths of the differences, exactly where no two equal arrays,
and no mapping and a prototype, stand along the mappings of both sides. -/
theorem changed_paths_exact_iff (before after : Json) :
    collectChangedPaths before after =
        (changedKeys (.value before) (.value after)).map pathText ∧
      (Exact before after ↔ Clear (.value before) (.value after)) :=
  ⟨collected_texts before after, exact_iff before after⟩

theorem equal_arrays_reported :
    ¬ Exact (.object [("a", .list [])]) (.object [("a", .list [])]) := by
  rw [exact_iff]
  intro clear
  exact clear ["a"] _ _ (.inside (.here _ _)) (.arrays (.list fun _ => .absent))

end OpenRill.Config.ChangedPaths
