import OpenRill.Protocol.ProtocolServer

/-!
# Calls and their answers

The calls of a connection with the answers they got, when each was answered as the cache
before it said. The cache forgets by age, not by use: a key is remembered from the call that
ran, while fewer than `MAX_IDEMPOTENCY_ENTRIES` other keys are called.
-/

namespace OpenRill.Protocol.CallHistories

open Lib
open OpenRill.Protocol.Frames OpenRill.Protocol.Registry OpenRill.Protocol.ProtocolServer

/-- A call with its answer, as it was sent or was to be sent. -/
structure ServedCall where
  call : CallFrame
  origin : CallOrigin
  result : ResultFrame
  written : Bool

def ServedCall.key (served : ServedCall) : String := served.call.idempotencyKey

def servedOf : ConnectionEvent → Option ServedCall
  | .answered call origin result written => some { call, origin, result, written }
  | _ => none

def calledOf : ConnectionEvent → Option CallFrame
  | .called call => some call
  | _ => none

def invokedOf : ConnectionEvent → Option CallFrame
  | .invoked call _ => some call
  | _ => none

def deliveredOf : ConnectionEvent → Option (List Char × Nat)
  | .delivered text bytes => some (text, bytes)
  | _ => none

def handledOf : ConnectionEvent → Option (List Char × Nat)
  | .handled text bytes => some (text, bytes)
  | _ => none

def served (state : Connection) : List ServedCall := state.log.filterMap servedOf

def waiting (state : Connection) : List CallFrame :=
  (state.running.map Prod.fst).toList

/-- The two calls are one: they name the same operation and their inputs have one canonical
text. -/
def SameCall (host : Host) (first second : CallFrame) : Prop :=
  first.operation = second.operation ∧
    canonical host.numerals.stringified first.input =
      canonical host.numerals.stringified second.input

instance (host : Host) (first second : CallFrame) : Decidable (SameCall host first second) :=
  inferInstanceAs (Decidable (_ ∧ _))

def otherKeys (key : String) (calls : List ServedCall) : List String :=
  ((calls.map ServedCall.key).filter (fun other => decide (other ≠ key))).dedup

def Repeats (host : Host) (first second : ServedCall) : Prop :=
  if SameCall host first.call second.call then
    second.origin = .replay ∧
      second.result = { first.result with callId := second.call.callId, replayed := true }
  else
    second.origin = .conflict ∧
      second.result = invalidResult second.call.callId .idempotencyConflict
        "idempotency key was already used with different input"

/-- From a call that ran on, its key is remembered while fewer than 128 other keys are
called. -/
def Idempotent (host : Host) (calls : List ServedCall) : Prop :=
  ∀ before first between second after,
    calls = before ++ first :: (between ++ second :: after) → first.key = second.key →
      first.origin = .fresh → (otherKeys first.key between).length < maxIdempotencyEntries →
        Repeats host first second

variable {host : Host} {calls : List ServedCall} {one : ServedCall}

def cacheOf (host : Host) (calls : List ServedCall) : List CachedResult :=
  calls.foldl
    (fun cache one =>
      if one.origin = .fresh then cacheResult cache (entryOf host one.call one.result) else cache)
    []

def Follows (host : Host) (cache : List CachedResult) (one : ServedCall) : Prop :=
  match findCached cache one.key with
  | none => one.origin = .fresh
  | some existing =>
    if existing.operation = one.call.operation ∧
        existing.inputCanonical = canonical host.numerals.stringified one.call.input then
      one.origin = .replay ∧
        one.result = { existing.result with callId := one.call.callId, replayed := true }
    else
      one.origin = .conflict ∧
        one.result = invalidResult one.call.callId .idempotencyConflict
          "idempotency key was already used with different input"

def Serves (host : Host) (calls : List ServedCall) : Prop :=
  ∀ before one after, calls = before ++ one :: after → Follows host (cacheOf host before) one

theorem serves_nil (host : Host) : Serves host [] := by
  intro before one after split
  simp at split

theorem serves_append_one (serves : Serves host calls)
    (follows : Follows host (cacheOf host calls) one) : Serves host (calls ++ [one]) := by
  intro before other after split
  rcases List.eq_nil_or_concat after with rfl | ⟨rest, last, rfl⟩
  · have same := List.append_inj' split rfl
    rw [← same.1]
    have isOne : one = other := by simpa using same.2
    rw [← isOne]
    exact follows
  · have same : calls = before ++ other :: rest := by
      rw [List.concat_eq_append, ← List.cons_append, ← List.append_assoc] at split
      exact (List.append_inj' split rfl).1
    exact serves before other rest same

theorem cacheOf_append_one (host : Host) (calls : List ServedCall) (one : ServedCall) :
    cacheOf host (calls ++ [one]) =
      if one.origin = .fresh then
        cacheResult (cacheOf host calls) (entryOf host one.call one.result)
      else cacheOf host calls := by
  simp [cacheOf]

def keysOf (cache : List CachedResult) : List String := cache.map CachedResult.idempotencyKey

theorem fresh_iff {cache : List CachedResult} (follows : Follows host cache one) :
    one.origin = .fresh ↔ one.key ∉ keysOf cache := by
  unfold Follows at follows
  have missing := @FifoCache.find_none_iff _ _ _ CachedResult.idempotencyKey cache one.key
  cases found : findCached cache one.key with
  | none =>
    rw [found] at follows
    exact ⟨fun _ => missing.mp found, fun _ => follows⟩
  | some existing =>
    rw [found] at follows
    have cached : one.key ∈ keysOf cache := by
      by_contra absent
      have none := missing.mpr absent
      unfold findCached at found
      rw [none] at found
      contradiction
    constructor
    · intro fresh
      dsimp only at follows
      split at follows
      next =>
        rw [follows.1] at fresh
        contradiction
      next =>
        rw [follows.1] at fresh
        contradiction
    · intro absent
      exact absurd cached absent

theorem cacheOf_distinct (serves : Serves host calls) : (keysOf (cacheOf host calls)).Nodup := by
  induction calls using List.reverseRecOn with
  | nil => exact List.nodup_nil
  | append_singleton calls one ih =>
    have earlier : Serves host calls := by
      intro before other after split
      exact serves before other (after ++ [one]) (by rw [split]; simp)
    have follows := serves calls one [] rfl
    rw [cacheOf_append_one]
    split
    next fresh =>
      exact FifoCache.distinct_put maxIdempotencyEntries (ih earlier) ((fresh_iff follows).mp fresh)
    next => exact ih earlier

theorem serves_prefix {later : List ServedCall} (serves : Serves host (calls ++ later)) :
    Serves host calls := by
  intro before one after split
  exact serves before one (after ++ later) (by rw [split]; simp)

/-- While few other keys are called, the entry of a call that ran is in the cache and only
entries of these keys are newer. -/
theorem entry_remembered {host : Host} {before mid rest : List ServedCall} {first : ServedCall}
    (serves : Serves host (before ++ first :: (mid ++ rest))) (fresh : first.origin = .fresh)
    (few : (otherKeys first.key (mid ++ rest)).length < maxIdempotencyEntries) :
    ∃ older newer,
      cacheOf host (before ++ first :: mid) =
          older ++ entryOf host first.call first.result :: newer ∧
        keysOf newer ⊆ otherKeys first.key (mid ++ rest) := by
  induction mid using List.reverseRecOn generalizing rest with
  | nil =>
    have grown : cacheOf host (before ++ [first]) =
        cacheResult (cacheOf host before) (entryOf host first.call first.result) := by
      rw [cacheOf_append_one, if_pos fresh]
    obtain ⟨older, kept⟩ := @FifoCache.put_newest _ maxIdempotencyEntries
      (cacheOf host before) (entryOf host first.call first.result) (by decide)
    refine ⟨older, [], ?_, by simp [keysOf]⟩
    rw [grown]
    exact kept
  | append_singleton mid one ih =>
    rw [List.append_assoc] at few serves
    obtain ⟨older, newer, remembered, within⟩ := ih serves few
    have served : Serves host (before ++ first :: mid) := by
      have parts : before ++ first :: (mid ++ ([one] ++ rest)) =
          (before ++ first :: mid) ++ ([one] ++ rest) := by simp
      rw [parts] at serves
      exact serves_prefix serves
    have parts : before ++ first :: (mid ++ [one]) = (before ++ first :: mid) ++ [one] := by simp
    rw [parts, cacheOf_append_one]
    split
    next freshOne =>
      have follows : Follows host (cacheOf host (before ++ first :: mid)) one :=
        serves (before ++ first :: mid) one rest (by simp)
      have new := (fresh_iff follows).mp freshOne
      have distinct := cacheOf_distinct served
      rw [remembered] at new distinct
      have notFirst : one.key ≠ first.key := by
        intro same
        apply new
        rw [same]
        simp [keysOf, entryOf, ServedCall.key]
      have isOther : one.key ∈ otherKeys first.key (mid ++ ([one] ++ rest)) := by
        simp [otherKeys, notFirst]
      have newerDistinct : (keysOf newer).Nodup := by
        unfold keysOf at distinct
        rw [List.map_append, List.map_cons] at distinct
        exact (List.nodup_cons.mp (List.nodup_append.mp distinct).2.1).2
      have withOne : (one.key :: keysOf newer).Nodup := by
        refine List.nodup_cons.mpr ⟨?_, newerDistinct⟩
        intro inNewer
        apply new
        simp only [keysOf, List.map_append, List.map_cons, List.mem_append, List.mem_cons]
        exact .inr (.inr inNewer)
      have bound := FifoCache.length_le_of_distinct withOne (List.cons_subset.mpr ⟨isOther, within⟩)
      have same : (otherKeys first.key (mid ++ ([one] ++ rest))).dedup =
          otherKeys first.key (mid ++ ([one] ++ rest)) :=
        (List.nodup_dedup _).dedup
      rw [same, List.length_cons, keysOf, List.length_map] at bound
      obtain ⟨kept, isKept⟩ := @FifoCache.put_keeps _ maxIdempotencyEntries older newer
        (entryOf host first.call first.result) (entryOf host one.call one.result) (by omega)
      refine ⟨kept, newer ++ [entryOf host one.call one.result], ?_, ?_⟩
      · rw [remembered]
        exact isKept
      intro key keyIn
      have keys : keysOf (newer ++ [entryOf host one.call one.result]) =
          keysOf newer ++ [one.key] := by
        simp [keysOf, entryOf, ServedCall.key]
      rw [keys] at keyIn
      rw [List.append_assoc]
      rcases List.mem_append.mp keyIn with inNewer | isOne
      · exact within inNewer
      · rw [List.mem_singleton.mp isOne]
        exact isOther
    next =>
      rw [List.append_assoc]
      exact ⟨older, newer, remembered, within⟩

theorem serves_idempotent (serves : Serves host calls) : Idempotent host calls := by
  intro before first between second after split sameKey fresh few
  have parts : calls = before ++ first :: (between ++ (second :: after)) := split
  rw [parts] at serves
  have follows : Follows host (cacheOf host (before ++ first :: between)) second :=
    serves (before ++ first :: between) second after (by simp)
  have wide : (otherKeys first.key (between ++ [])).length < maxIdempotencyEntries := by
    rw [List.append_nil]
    exact few
  have narrow : Serves host (before ++ first :: (between ++ [])) := by
    have split : before ++ first :: (between ++ (second :: after)) =
        (before ++ first :: (between ++ [])) ++ (second :: after) := by simp
    rw [split] at serves
    exact serves_prefix serves
  obtain ⟨older, newer, remembered, -⟩ := entry_remembered narrow fresh wide
  have distinct : (keysOf (cacheOf host (before ++ first :: between))).Nodup := by
    apply cacheOf_distinct
    simpa using narrow
  rw [remembered] at distinct follows
  have found := @FifoCache.find_of_distinct _ _ _ CachedResult.idempotencyKey _ _ _ distinct
  have isKey : (entryOf host first.call first.result).idempotencyKey = second.key := sameKey
  rw [isKey] at found
  unfold Follows findCached at follows
  rw [found] at follows
  exact follows

end OpenRill.Protocol.CallHistories
