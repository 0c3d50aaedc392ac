import OpenRill.Protocol.CallLog
import OpenRill.Protocol.ClientTexts

/-!
# Idempotent calls

The texts of a connection are handled in the order of their arrival and the calls among them
answered in that order. A call whose key is in the cache runs nothing: it gets the cached
result, or a conflict when it is another call. As the cache forgets by age, a key that was
just replayed can be the one that is forgotten next.
-/

namespace OpenRill.Protocol.IdempotentCalls

open OpenRill.Lib OpenRill.Lib.Runs
open OpenRill.Protocol.Frames OpenRill.Protocol.Registry OpenRill.Protocol.WebSocketCodec
open OpenRill.Protocol.ProtocolServer OpenRill.Protocol.Sending OpenRill.Protocol.CallHistories
open OpenRill.Protocol.CallLog OpenRill.Protocol.ClientTexts

variable {host : Host} {state : Connection}

/-- The texts and the calls of a connection are all there, in their order: texts that wait
were delivered last, the call that waits was taken last, the operations were called for the
calls that were fresh, and an answer names its call and is written unless the peer is
closed. -/
structure Orderly (host : Host) (state : Connection) : Prop where
  texts : state.log.filterMap deliveredOf = state.log.filterMap handledOf ++ state.processing
  calls : (heard state.log).2 = (served state).map ServedCall.call ++ waiting state
  invoked : state.log.filterMap invokedOf =
    (freshCalls (served state)).filter (runs host) ++ waiting state
  named : ∀ one ∈ served state, one.result.callId = one.call.callId
  written : state.peer.isClosed = false → ∀ one ∈ served state, one.written = true

def WaitsForNew (state : Connection) : Prop :=
  ∀ call ∈ waiting state, ∀ before first between,
    served state = before ++ first :: between → first.key = call.idempotencyKey →
      first.origin = .fresh → maxIdempotencyEntries ≤ (otherKeys first.key between).length

theorem waitsForNew (ready : Ready host state) : WaitsForNew state := by
  intro call callIn before first between split sameKey fresh
  by_contra few
  obtain ⟨definition, isRunning⟩ : ∃ definition, state.running = some (call, definition) := by
    unfold waiting at callIn
    cases running : state.running with
    | none =>
      rw [running] at callIn
      contradiction
    | some both =>
      obtain ⟨other, definition⟩ := both
      rw [running] at callIn
      have same : call = other := by simpa using callIn
      rw [same]
      exact ⟨definition, rfl⟩
  have missing := (ready.waits call definition isRunning).1
  have serves := ready.sound.serves
  rw [ready.sound.cached, split] at missing
  rw [split] at serves
  have remembered := @entry_remembered _ _ between [] _
    (by rw [List.append_nil]; exact serves) fresh
    (by rw [List.append_nil]; exact Nat.lt_of_not_le few)
  obtain ⟨older, newer, cached, -⟩ := remembered
  have absent := FifoCache.find_none_iff.mp missing
  apply absent
  rw [cached, ← sameKey]
  simp [entryOf, ServedCall.key]

/-- On every connection, in every order of its steps: no text and no call is lost or out of
order, a call that repeats the key of a call that ran gets this call's answer or a conflict
while fewer than 128 other keys were called since, and no such call runs again. -/
theorem calls_idempotent (host : Host) (notices : NoticeWindow) (head : List UInt8)
    (ops : List ConnectionOp) :
    Orderly host (reach host notices head ops) ∧
      Idempotent host (served (reach host notices head ops)) ∧
        WaitsForNew (reach host notices head ops) := by
  have ready := reach_ready host notices head ops
  have known := reach_heard host notices head ops
  have sound := ready.sound
  refine ⟨⟨sound.texts, ?_, sound.invoked, sound.named, sound.written⟩,
    serves_idempotent sound.serves, waitsForNew ready⟩
  rw [known]
  exact sound.calls

variable {call : CallFrame} {count : Nat}

/-- Two calls with one key that are one call run once and get one answer, when fewer than 128
other keys were called between them. -/
def OncePerKey (host : Host) (calls : List ServedCall) : Prop :=
  ∀ before first between second after,
    calls = before ++ first :: (between ++ second :: after) → first.key = second.key →
      SameCall host first.call second.call →
        (otherKeys first.key between).length < maxIdempotencyEntries →
          ¬ (first.origin = .fresh ∧ second.origin = .fresh) ∧
            first.result.answer = second.result.answer

structure Steady (host : Host) (calls : List ServedCall) (state : Connection) : Prop where
  peer : state.peer = .initial
  intact : state.destroyed = false
  authenticated : state.authenticated = true
  idle : state.running = none
  quiet : state.processing = []
  served : served state = calls
  ready : Ready host state

variable {calls : List ServedCall}

def callOps (welcome : Welcome) (call : CallFrame) (outcome : Except HostError Json) :
    List ConnectionOp :=
  [.data (textWire ((callDocument call).lines 0)), .handleNext welcome [], .operationEnds outcome 0]

theorem document_unmarked (call : CallFrame) :
    ((callDocument call).lines 0).head? ≠ some Utf8.byteOrderMark := by
  unfold callDocument Json.lines
  rw [List.head?_cons]
  decide

theorem steady_handled (welcome : Welcome) (steady : Steady host calls state)
    (read : callOf ((callDocument call).lines 0) = .ok call)
    (short : (Utf8.encode ((callDocument call).lines 0)).length ≤ maxAuthenticatedPayloadBytes) :
    ∃ log, log.filterMap servedOf = calls ∧
      step host (step host state (.data (textWire ((callDocument call).lines 0))))
        (.handleNext welcome []) = handleCall host 0 { state with log := log } call := by
  obtain ⟨text, isText⟩ : ∃ text, text = (callDocument call).lines 0 := ⟨_, rfl⟩
  have unmarked : text.head? ≠ some Utf8.byteOrderMark := by
    rw [isText]
    exact document_unmarked call
  rw [← isText] at read short ⊢
  have bounded : (Utf8.encode text).length ≤ maxSafePayload := le_trans short (by decide)
  have accepted : state.peer.accept (textWire text) =
      (state.peer, [.onText text (Utf8.encode text).length]) := by
    apply accept_text bounded unmarked
    · rw [steady.peer]
      rfl
    · rw [steady.peer]
      rfl
  have delivered : step host state (.data (textWire text)) =
      { state with
          processing := [(text, (Utf8.encode text).length)]
          log := state.log ++ [.delivered text (Utf8.encode text).length] } := by
    have intact : ¬ state.destroyed = true := by
      rw [steady.intact]
      exact Bool.false_ne_true
    simp only [step]
    rw [if_neg intact, accepted]
    simp [Connection.usePeer, onPeerEvent, Connection.record, steady.quiet]
  refine ⟨state.log ++ [.delivered text (Utf8.encode text).length] ++
    [.handled text (Utf8.encode text).length], ?_, ?_⟩
  · rw [filterMap_last, filterMap_last]
    simp only [servedOf, Option.toList_none, List.append_nil]
    exact steady.served
  have authenticated : ¬ state.authenticated = false := by
    rw [steady.authenticated]
    decide
  rw [delivered]
  simp only [step, steady.idle, Connection.record]
  unfold handleText
  rw [if_neg authenticated, if_neg (by omega), read, ← steady.quiet]
  rfl


theorem answer_open {before : Connection} (call : CallFrame) (origin : CallOrigin)
    (result : ResultFrame) (isOpen : before.peer = .initial) :
    before.answer 0 call origin result = before.record (.answered call origin result true) := by
  have sent : before.send 0 = (before, true) := by
    unfold Connection.send
    rw [if_neg (by decide), isOpen]
    rfl
  unfold Connection.answer
  rw [sent]

/-- What a connection that is open and idle answers to a call. -/
def serve (host : Host) (cache : List CachedResult) (call : CallFrame)
    (outcome : Except HostError Json) : ServedCall :=
  match findCached cache call.idempotencyKey with
  | some existing =>
    if existing.operation ≠ call.operation ∨
        existing.inputCanonical ≠ canonical host.numerals.stringified call.input then
      { call, origin := .conflict, written := true
        result := invalidResult call.callId .idempotencyConflict
          "idempotency key was already used with different input" }
    else
      { call, origin := .replay, written := true
        result := { existing.result with callId := call.callId, replayed := true } }
  | none =>
    match host.registry.invoke call.callId call.operation call.input with
    | .error result => { call, origin := .fresh, result, written := true }
    | .ok (definition, _) =>
      { call, origin := .fresh, written := true
        result := settled call.callId definition.validateOutput outcome }

theorem handled_serve (call : CallFrame) (outcome : Except HostError Json)
    (isOpen : state.peer = .initial) (idle : state.running = none) :
    ∃ cache events, events.filterMap servedOf = [serve host state.cache call outcome] ∧
      step host (handleCall host 0 state call) (.operationEnds outcome 0) =
        { state with running := none, cache := cache, log := state.log ++ events } := by
  have answered := fun origin result =>
    @answer_open (state.record (.called call)) call origin result isOpen
  unfold handleCall serve
  dsimp only
  rw [show (state.record (.called call)).cache = state.cache from rfl]
  cases findCached state.cache call.idempotencyKey with
  | some existing =>
    dsimp only
    split
    next =>
      refine ⟨state.cache, [.called call, .answered call .conflict _ true], rfl, ?_⟩
      rw [answered]
      simp [step, Connection.record, idle]
    next =>
      refine ⟨state.cache, [.called call, .answered call .replay _ true], rfl, ?_⟩
      rw [answered]
      simp [step, Connection.record, idle]
  | none =>
    dsimp only
    cases host.registry.invoke call.callId call.operation call.input with
    | error result =>
      refine ⟨cacheResult state.cache (entryOf host call result),
        [.called call, .answered call .fresh result true], rfl, ?_⟩
      dsimp only [Connection.conclude]
      rw [answer_open]
      · simp [step, Connection.record, idle]
      · exact isOpen
    | ok invocation =>
      obtain ⟨definition, input⟩ := invocation
      obtain ⟨result, isResult⟩ :
          ∃ result, result = settled call.callId definition.validateOutput outcome := ⟨_, rfl⟩
      refine ⟨cacheResult state.cache (entryOf host call result),
        [.called call, .invoked call input, .answered call .fresh result true], ?_, ?_⟩
      · rw [isResult]
        rfl
      · simp only [step, Connection.record, Connection.conclude]
        rw [answer_open, isResult]
        · simp [Connection.record]
        · exact isOpen

/-- The calls and the cache after more calls. -/
def serveAll (host : Host) : List CachedResult × List ServedCall →
    List (CallFrame × Except HostError Json) → List CachedResult × List ServedCall
  | (cache, calls), [] => (cache, calls)
  | (cache, calls), (call, outcome) :: rest =>
    let one := serve host cache call outcome
    let cache :=
      if one.origin = .fresh then cacheResult cache (entryOf host one.call one.result) else cache
    serveAll host (cache, calls ++ [one]) rest

theorem steady_calls (welcome : Welcome) (steps : List (CallFrame × Except HostError Json))
    (readable : ∀ one ∈ steps, callOf ((callDocument one.1).lines 0) = .ok one.1)
    (short : ∀ one ∈ steps,
      (Utf8.encode ((callDocument one.1).lines 0)).length ≤ maxAuthenticatedPayloadBytes)
    (steady : Steady host calls state) :
    Steady host (serveAll host (cacheOf host calls, calls) steps).2
      (run (step host) state (steps.flatMap (fun one => callOps welcome one.1 one.2))) := by
  induction steps generalizing calls state with
  | nil => exact steady
  | cons one rest ih =>
    obtain ⟨call, outcome⟩ := one
    obtain ⟨isReadable, laterReadable⟩ := List.forall_mem_cons.mp readable
    obtain ⟨isShort, laterShort⟩ := List.forall_mem_cons.mp short
    obtain ⟨log, read, handled⟩ := steady_handled welcome steady isReadable isShort
    obtain ⟨cache, events, answered, ended⟩ :=
      @handled_serve host { state with log := log } call outcome steady.peer steady.idle
    have cached : state.cache = cacheOf host calls := by
      rw [steady.ready.sound.cached, steady.served]
    have ran : run (step host) state (callOps welcome call outcome) =
        { state with running := none, cache := cache, log := log ++ events } := by
      unfold callOps
      rw [run_cons, run_cons, run_cons, run_nil, handled, ended]
    have ready := run_invariant (step host) (Ready host) (fun _ op kept => step_ready op kept)
      state (callOps welcome call outcome) steady.ready
    rw [List.flatMap_cons, run_append, serveAll, ← cacheOf_append_one]
    apply ih laterReadable laterShort
    rw [ran] at ready ⊢
    refine ⟨steady.peer, steady.intact, steady.authenticated, rfl, steady.quiet, ?_, ready⟩
    unfold served
    rw [List.filterMap_append, read, answered, ← cached]

def sampleOperation : OperationDefinition where
  name := "o"
  permission := "p"
  validate := .ok
  validateOutput := fun _ => true

def sampleHost : Host where
  profileToken := "aaaaaaaaaaaaaaaaaaaaaaaa"
  numerals :=
    { integer := fun literal => if literal = "1" then some 1 else none, stringified := .number }
  registry := { operations := [sampleOperation], distinct := by decide }

def sampleWindow : NoticeWindow where
  capacity := 128
  sequence := 0
  retained := []

def sampleWelcome : Welcome where
  connectionId := "c"
  version := "1"
  profile := "p"
  instanceId := "i"
  status := .null

def sampleOpen : Json :=
  .object [
    ("type", .text "open"),
    ("minProtocol", .number "1"),
    ("maxProtocol", .number "1"),
    ("client", .object [
      ("id", .text "a"), ("version", .text "1"), ("platform", .text "x"), ("kind", .text "cli")]),
    ("credential", .object [
      ("kind", .text "profile-token"), ("token", .text "aaaaaaaaaaaaaaaaaaaaaaaa")])]

def sampleKey (index : Nat) : String := String.ofList [Char.ofNat (0x100 + index)]

def sampleCall (index : Nat) : CallFrame where
  callId := "c"
  idempotencyKey := sampleKey index
  operation := "o"
  input := .null

def sampleRun : List ConnectionOp :=
  [.data (textWire (sampleOpen.lines 0)), .handleNext sampleWelcome []] ++
    ((List.range 128).flatMap
      (fun index => callOps sampleWelcome (sampleCall index) (.ok (.flag false))) ++
    (callOps sampleWelcome (sampleCall 0) (.ok .null) ++
      (callOps sampleWelcome (sampleCall 128) (.ok .null) ++
        callOps sampleWelcome (sampleCall 0) (.ok (.flag true)))))

/-- The first call of the run is called, so the connection was authenticated. -/
theorem sampleCall_permitted :
    ConnectionEvent.authenticated ∈ (reach sampleHost sampleWindow [] (sampleRun.take 4)).log :=
  (invoked_calls_permitted sampleHost sampleWindow [] (sampleRun.take 4) (sampleCall 0)
    (by decide +kernel)).2.2

theorem sampleCall_readable : ∀ index < 129,
    callOf ((callDocument (sampleCall index)).lines 0) = .ok (sampleCall index) := by
  decide +kernel

theorem sampleCall_short : ∀ index < 129,
    (Utf8.encode ((callDocument (sampleCall index)).lines 0)).length ≤
      maxAuthenticatedPayloadBytes := by
  decide +kernel

theorem steady_opened :
    Steady sampleHost [] (reach sampleHost sampleWindow []
      [.data (textWire (sampleOpen.lines 0)), .handleNext sampleWelcome []]) := by
  obtain ⟨state, isState⟩ : ∃ state, state = reach sampleHost sampleWindow []
    [.data (textWire (sampleOpen.lines 0)), .handleNext sampleWelcome []] := ⟨_, rfl⟩
  have opened : state.peer = .initial ∧ state.destroyed = false ∧ state.authenticated = true ∧
      state.running.isNone ∧ state.processing = [] ∧ (served state).length = 0 := by
    rw [isState]
    decide +kernel
  obtain ⟨peer, intact, authenticated, idle, quiet, unserved⟩ := opened
  rw [← isState]
  refine ⟨peer, intact, authenticated, Option.isNone_iff_eq_none.mp idle, quiet,
    List.length_eq_zero_iff.mp unserved, ?_⟩
  rw [isState]
  exact reach_ready sampleHost sampleWindow [] _

def sampleCalls : List (CallFrame × Except HostError Json) :=
  (List.range 128).map (fun index => (sampleCall index, .ok (.flag false))) ++
    [(sampleCall 0, .ok .null), (sampleCall 128, .ok .null), (sampleCall 0, .ok (.flag true))]

def isFlag (value : Bool) (one : ServedCall) : Bool :=
  match one.result.answer with
  | .ok (.flag other) => value = other
  | _ => false

theorem sampleRun_served :
    served (reach sampleHost sampleWindow [] sampleRun) =
      (serveAll sampleHost ([], []) sampleCalls).2 := by
  have indices : ∀ one ∈ sampleCalls, ∃ index < 129, one.1 = sampleCall index := by
    intro one oneIn
    rcases List.mem_append.mp oneIn with isMany | isLast
    · obtain ⟨index, inRange, rfl⟩ := List.mem_map.mp isMany
      exact ⟨index, (List.mem_range.mp inRange).trans (by decide), rfl⟩
    · simp only [List.mem_cons, List.not_mem_nil, or_false] at isLast
      rcases isLast with rfl | rfl | rfl
      · exact ⟨0, by decide, rfl⟩
      · exact ⟨128, by decide, rfl⟩
      · exact ⟨0, by decide, rfl⟩
  have steady := steady_calls sampleWelcome sampleCalls
    (fun one oneIn => by
      obtain ⟨index, small, same⟩ := indices one oneIn
      rw [same]
      exact sampleCall_readable index small)
    (fun one oneIn => by
      obtain ⟨index, small, same⟩ := indices one oneIn
      rw [same]
      exact sampleCall_short index small) steady_opened
  have split : sampleRun = [.data (textWire (sampleOpen.lines 0)), .handleNext sampleWelcome []] ++
      sampleCalls.flatMap (fun one => callOps sampleWelcome one.1 one.2) := by
    simp [sampleRun, sampleCalls, List.flatMap_map]
  rw [split]
  unfold reach
  rw [run_append]
  exact steady.served

/-- The second and the third call of the first key are one call and stand one other key
apart, but their answers differ: the third ran, as the first was forgotten. -/
theorem replayed_key_forgotten :
    ¬ OncePerKey sampleHost (served (reach sampleHost sampleWindow [] sampleRun)) := by
  rw [sampleRun_served]
  obtain ⟨calls, isCalls⟩ : ∃ calls, calls = (serveAll sampleHost ([], []) sampleCalls).2 :=
    ⟨_, rfl⟩
  have length : (calls.drop 128).length = 3 := by
    rw [isCalls]
    decide +kernel
  have read : (calls.drop 128).map (fun one => (one.key, one.call.operation,
      canonical sampleHost.numerals.stringified one.call.input, isFlag true one)) =
        [(sampleKey 0, "o", [.null], false), (sampleKey 128, "o", [.null], false),
          (sampleKey 0, "o", [.null], true)] := by
    rw [isCalls]
    decide +kernel
  obtain ⟨second, between, third, last⟩ := List.length_eq_three.mp length
  rw [last] at read
  simp only [List.map_cons, List.map_nil, List.cons.injEq, Prod.mk.injEq, and_true] at read
  obtain ⟨⟨secondKey, secondName, secondInput, secondFlag⟩, -,
    thirdKey, thirdName, thirdInput, thirdFlag⟩ := read
  intro once
  have few : (otherKeys second.key [between]).length < maxIdempotencyEntries := by
    have distinct := (List.dedup_sublist (([between].map ServedCall.key).filter
      fun other => decide (other ≠ second.key))).length_le
    have one := List.length_filter_le (fun other => decide (other ≠ second.key))
      ([between].map ServedCall.key)
    exact Nat.lt_of_le_of_lt (distinct.trans one) (show 1 < maxIdempotencyEntries by decide)
  have answers := once (calls.take 128) second [between] third []
    (by rw [← isCalls, List.singleton_append, ← last, List.take_append_drop])
    (secondKey.trans thirdKey.symm)
    ⟨secondName.trans thirdName.symm, secondInput.trans thirdInput.symm⟩ few
  have same : isFlag true second = isFlag true third := by
    unfold isFlag
    rw [answers.2]
  rw [secondFlag, thirdFlag] at same
  contradiction

end OpenRill.Protocol.IdempotentCalls
