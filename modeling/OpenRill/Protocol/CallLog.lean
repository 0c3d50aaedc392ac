import OpenRill.Protocol.CallHistories
import OpenRill.Protocol.Sending

/-!
# The calls in the log of a connection

Every step of a connection keeps what its log says of the texts and of the calls: a text that
was delivered is handled or waits, a call that was taken is answered or waits for its
operation, and the calls that were taken are those that the handled texts say.
-/

namespace OpenRill.Protocol.CallLog

open OpenRill.Lib OpenRill.Lib.Runs
open OpenRill.Protocol.Frames OpenRill.Protocol.Registry OpenRill.Protocol.WebSocketCodec
open OpenRill.Protocol.ProtocolServer OpenRill.Protocol.Sending OpenRill.Protocol.CallHistories

variable {host : Host} {pending opened : List CallFrame} {pressure closeCode : Nat}
variable {middle : Connection} {Value : Type} {events : List ConnectionEvent}
variable {frame : RejectedFrame}

def runs (host : Host) (call : CallFrame) : Bool :=
  (host.registry.invoke call.callId call.operation call.input).isOk

def freshCalls (calls : List ServedCall) : List CallFrame :=
  (calls.filter (fun one => decide (one.origin = .fresh))).map ServedCall.call

/-- The log of a connection with the calls that are taken but not answered, and those of them
whose operation is called. -/
structure Sound (host : Host) (pending opened : List CallFrame) (state : Connection) : Prop where
  texts : state.log.filterMap deliveredOf = state.log.filterMap handledOf ++ state.processing
  calls : state.log.filterMap calledOf = (served state).map ServedCall.call ++ pending
  invoked : state.log.filterMap invokedOf = (freshCalls (served state)).filter (runs host) ++ opened
  named : ∀ one ∈ served state, one.result.callId = one.call.callId
  written : state.peer.isClosed = false → ∀ one ∈ served state, one.written = true
  serves : Serves host (served state)
  cached : state.cache = cacheOf host (served state)

def aside (event : ConnectionEvent) : Bool :=
  (servedOf event).isNone && (calledOf event).isNone && (invokedOf event).isNone &&
    (deliveredOf event).isNone && (handledOf event).isNone

structure Aside (state next : Connection) : Prop where
  log : ∃ events, next.log = state.log ++ events ∧ ∀ event ∈ events, aside event = true
  processing : next.processing = state.processing
  running : next.running = state.running
  cache : next.cache = state.cache
  closed : next.peer.isClosed = false → state.peer.isClosed = false

variable {state next : Connection}

theorem aside_trans (first : Aside state middle) (rest : Aside middle next) : Aside state next where
  log := Lib.EventLog.grows_trans first.log rest.log
  processing := rest.processing.trans first.processing
  running := rest.running.trans first.running
  cache := rest.cache.trans first.cache
  closed isOpen := first.closed (rest.closed isOpen)

theorem aside_record (state : Connection) {event : ConnectionEvent}
    (quiet : aside event = true) : Aside state (state.record event) :=
  ⟨⟨[event], rfl, by simpa using quiet⟩, rfl, rfl, rfl, id⟩

theorem filterMap_aside {read : ConnectionEvent → Option Value} {log : List ConnectionEvent}
    (ignored : ∀ event, aside event = true → read event = none)
    (quiet : ∀ event ∈ events, aside event = true) :
    (log ++ events).filterMap read = log.filterMap read := by
  have nothing : events.filterMap read = [] :=
    List.filterMap_eq_nil_iff.mpr fun event eventIn => ignored event (quiet event eventIn)
  rw [List.filterMap_append, nothing, List.append_nil]

theorem sound_aside (sound : Sound host pending opened state) (moved : Aside state next) :
    Sound host pending opened next := by
  obtain ⟨events, grown, quiet⟩ := moved.log
  have ignored : ∀ event, aside event = true →
      servedOf event = none ∧ calledOf event = none ∧ invokedOf event = none ∧
        deliveredOf event = none ∧ handledOf event = none := by
    intro event
    cases event <;> simp [aside, servedOf, calledOf, invokedOf, deliveredOf, handledOf]
  have servedSame : served next = served state := by
    unfold served
    rw [grown, filterMap_aside (fun event isAside => (ignored event isAside).1) quiet]
  constructor
  · rw [grown, filterMap_aside (fun event isAside => (ignored event isAside).2.2.2.1) quiet,
      filterMap_aside (fun event isAside => (ignored event isAside).2.2.2.2) quiet,
      moved.processing]
    exact sound.texts
  · rw [grown, filterMap_aside (fun event isAside => (ignored event isAside).2.1) quiet, servedSame]
    exact sound.calls
  · rw [grown, filterMap_aside (fun event isAside => (ignored event isAside).2.2.1) quiet,
      servedSame]
    exact sound.invoked
  · rw [servedSame]
    exact sound.named
  · intro isOpen
    rw [servedSame]
    exact sound.written (moved.closed isOpen)
  · rw [servedSame]
    exact sound.serves
  · rw [moved.cache, servedSame]
    exact sound.cached

theorem aside_of_sends (sends : Sends sending state next) : Aside state next := by
  obtain ⟨events, grown, sent⟩ := sends.log
  refine ⟨⟨events, grown, ?_⟩, sends.processing, sends.running, sends.cache, sends.closed⟩
  intro event eventIn
  have isSent := sent event eventIn
  cases event <;> first | rfl | contradiction

theorem handleOpen_aside (host : Host) (welcome : Welcome) (pressures : List Nat)
    (state : Connection) (text : List Char) (bytes : Nat) :
    Aside state (handleOpen host welcome pressures state text bytes) := by
  rcases @handleOpen_cases sending _ host welcome pressures state text bytes with
    ⟨-, sends⟩ | opened
  · exact aside_of_sends sends
  · obtain ⟨-, protocol, opened, admitted, -, opening, isWelcomed⟩ := opened
    have sends := sendWelcome_sends host welcome pressures admitted protocol opened.cursor
    rw [← isWelcomed] at sends
    refine aside_trans ⟨⟨_, opening.log, ?_⟩, opening.processing, opening.running,
      opening.cache, ?_⟩ (aside_of_sends sends)
    · intro event eventIn
      rw [List.mem_singleton.mp eventIn]
      rfl
    · rw [opening.peer]
      exact id

variable {call : CallFrame} {origin : CallOrigin} {result : ResultFrame}

theorem filterMap_last (read : ConnectionEvent → Option Value) (log : List ConnectionEvent)
    (event : ConnectionEvent) :
    (log ++ [event]).filterMap read = log.filterMap read ++ (read event).toList := by
  cases found : read event with
  | none => simp [found]
  | some value => simp [found]

theorem filterMap_record (read : ConnectionEvent → Option Value) (state : Connection)
    (event : ConnectionEvent) :
    (state.record event).log.filterMap read = state.log.filterMap read ++ (read event).toList :=
  filterMap_last read state.log event

/-- An event that answers no call opens what it calls or invokes. -/
theorem sound_unanswered (event : ConnectionEvent) (unserved : servedOf event = none)
    (sound : Sound host pending opened state) (log : next.log = state.log ++ [event])
    (cache : next.cache = state.cache) (peer : next.peer = state.peer)
    (texts : next.log.filterMap deliveredOf =
      next.log.filterMap handledOf ++ next.processing) :
    Sound host (pending ++ (calledOf event).toList) (opened ++ (invokedOf event).toList) next := by
  have same : served next = served state := by
    unfold served
    rw [log, filterMap_last, unserved]
    exact List.append_nil _
  constructor
  · exact texts
  · rw [log, filterMap_last, same, sound.calls, List.append_assoc]
  · rw [log, filterMap_last, same, sound.invoked, List.append_assoc]
  · rw [same]
    exact sound.named
  · rw [same, peer]
    exact sound.written
  · rw [same]
    exact sound.serves
  · rw [same, cache]
    exact sound.cached

theorem sound_called (call : CallFrame) (sound : Sound host [] [] state) :
    Sound host [call] [] (state.record (.called call)) := by
  refine sound_unanswered (.called call) rfl sound rfl rfl rfl ?_
  rw [filterMap_record, filterMap_record]
  simpa [deliveredOf, handledOf, Connection.record] using sound.texts

theorem sound_invoked (call : CallFrame) (input : Json) (sound : Sound host [call] [] state) :
    Sound host [call] [call] (state.record (.invoked call input)) := by
  refine sound_unanswered (.invoked call input) rfl sound rfl rfl rfl ?_
  rw [filterMap_record, filterMap_record]
  simpa [deliveredOf, handledOf, Connection.record] using sound.texts

theorem sound_answered {written : Bool} (sound : Sound host [call] opened state)
    (follows : Follows host (cacheOf host (served state)) ⟨call, origin, result, written⟩)
    (named : result.callId = call.callId) (isWritten : state.peer.isClosed = false → written = true)
    (opening : opened = if origin = .fresh ∧ runs host call = true then [call] else [])
    (log : next.log = state.log ++ [.answered call origin result written]) (cache : next.cache =
      if origin = .fresh then cacheResult state.cache (entryOf host call result) else state.cache)
    (processing : next.processing = state.processing) (peer : next.peer = state.peer) :
    Sound host [] [] next := by
  have servedNext : served next = served state ++ [⟨call, origin, result, written⟩] := by
    unfold served
    rw [log]
    exact filterMap_last servedOf state.log _
  constructor
  · rw [log, filterMap_last, filterMap_last, processing]
    simpa [deliveredOf, handledOf] using sound.texts
  · rw [log, servedNext, filterMap_last]
    simpa [calledOf] using sound.calls
  · have invoked := sound.invoked
    rw [opening] at invoked
    have last : ((freshCalls [⟨call, origin, result, written⟩]).filter (runs host)) =
        if origin = .fresh ∧ runs host call = true then [call] else [] := by
      by_cases fresh : origin = .fresh
      · by_cases run : runs host call = true
        · simp [freshCalls, fresh, run]
        · simp [freshCalls, fresh, run]
      · simp [freshCalls, fresh]
    have whole : freshCalls (served state ++ [⟨call, origin, result, written⟩]) =
        freshCalls (served state) ++ freshCalls [⟨call, origin, result, written⟩] := by
      simp [freshCalls]
    rw [log, servedNext, filterMap_last, whole, List.filter_append, last, List.append_nil]
    simpa [invokedOf] using invoked
  · rw [servedNext]
    intro one oneIn
    rcases List.mem_append.mp oneIn with before | isLast
    · exact sound.named one before
    · rw [List.mem_singleton.mp isLast]
      exact named
  · rw [servedNext, peer]
    intro isOpen one oneIn
    rcases List.mem_append.mp oneIn with before | isLast
    · exact sound.written isOpen one before
    · rw [List.mem_singleton.mp isLast]
      exact isWritten isOpen
  · rw [servedNext]
    exact serves_append_one sound.serves follows
  · rw [servedNext, cacheOf_append_one, cache, ← sound.cached]

/-- Between two steps the calls without an answer are the one that waits for its operation,
whose key is not in the cache. -/
structure Ready (host : Host) (state : Connection) : Prop where
  sound : Sound host (waiting state) (waiting state) state
  waits : ∀ call definition, state.running = some (call, definition) →
    findCached state.cache call.idempotencyKey = none ∧ runs host call = true

theorem ready_of_idle (sound : Sound host [] [] state) (idle : state.running = none) :
    Ready host state := by
  have none_waits : waiting state = [] := by
    unfold waiting
    rw [idle]
    rfl
  refine ⟨by rw [none_waits]; exact sound, ?_⟩
  intro call definition isRunning
  rw [idle] at isRunning
  contradiction

theorem sound_of_ready (ready : Ready host state) (idle : state.running = none) :
    Sound host [] [] state := by
  have sound := ready.sound
  unfold waiting at sound
  rw [idle] at sound
  exact sound

theorem ready_aside (ready : Ready host state) (moved : Aside state next) : Ready host next := by
  have same : waiting next = waiting state := by
    unfold waiting
    rw [moved.running]
  refine ⟨by rw [same]; exact sound_aside ready.sound moved, ?_⟩
  rw [moved.running, moved.cache]
  exact ready.waits

theorem answer_sound (pressure : Nat) (sound : Sound host [call] [] state)
    (cached : origin ≠ .fresh) (follows : ∀ written, Follows host (cacheOf host (served state))
      ⟨call, origin, result, written⟩) (named : result.callId = call.callId) :
    Sound host [] [] (state.answer pressure call origin result) := by
  have moved := aside_of_sends (send_sends state pressure)
  have sent := sound_aside sound moved
  have same : cacheOf host (served (state.send pressure).1) = cacheOf host (served state) := by
    rw [← sent.cached, ← sound.cached, moved.cache]
  refine sound_answered sent ?_ named (send_written state pressure) ?_ rfl ?_ rfl rfl
  · rw [same]
    exact follows (state.send pressure).2
  · rw [if_neg fun both => cached both.1]
  · rw [if_neg cached]
    rfl

theorem conclude_sound (pressure : Nat) (sound : Sound host [call] opened state)
    (new : findCached state.cache call.idempotencyKey = none)
    (opening : opened = if runs host call = true then [call] else [])
    (named : result.callId = call.callId) :
    Sound host [] [] (state.conclude host pressure call result) := by
  have moved := aside_of_sends (send_sends state pressure)
  have sent := sound_aside sound moved
  have follows : Follows host (cacheOf host (served (state.send pressure).1))
      ⟨call, .fresh, result, (state.send pressure).2⟩ := by
    rw [← sent.cached, moved.cache]
    unfold Follows
    have missing : findCached state.cache (ServedCall.key
        ⟨call, .fresh, result, (state.send pressure).2⟩) = none := new
    rw [missing]
  obtain ⟨cache, isCache⟩ :
      ∃ cache, cache = cacheResult state.cache (entryOf host call result) := ⟨_, rfl⟩
  unfold Connection.conclude Connection.answer
  rw [← isCache, send_cache]
  refine sound_answered sent follows named (send_written state pressure) ?_ rfl ?_ rfl rfl
  · simpa using opening
  · rw [if_pos rfl, moved.cache, ← isCache]
    rfl

theorem conclude_running (host : Host) {state : Connection} (pressure : Nat) (call : CallFrame)
    (result : ResultFrame) :
    (state.conclude host pressure call result).running = state.running := by
  obtain ⟨cache, isCache⟩ :
      ∃ cache, cache = cacheResult state.cache (entryOf host call result) := ⟨_, rfl⟩
  unfold Connection.conclude Connection.answer
  rw [← isCache, send_cache]
  exact (@send_sends sending _ state pressure).running

theorem handleCall_ready (call : CallFrame) (sound : Sound host [] [] state)
    (idle : state.running = none) : Ready host (handleCall host pressure state call) := by
  have called := sound_called call sound
  have kept : served (state.record (.called call)) = served state := by
    unfold served
    rw [filterMap_record]
    exact List.append_nil _
  have answerRunning : ∀ origin result, ((state.record (.called call)).answer pressure call origin
      result).running = none := by
    intro origin result
    exact (@send_sends sending _ (state.record (.called call)) pressure).running.trans idle
  unfold handleCall
  dsimp only
  split
  next existing found =>
    have inCache : findCached (cacheOf host (served state)) call.idempotencyKey =
        some existing := by
      rw [← sound.cached]
      exact found
    split
    next other =>
      refine ready_of_idle (answer_sound pressure called (by simp) ?_ rfl) (answerRunning _ _)
      intro written
      rw [kept]
      unfold Follows
      have isFound : findCached (cacheOf host (served state))
          (ServedCall.key ⟨call, .conflict, invalidResult call.callId .idempotencyConflict
            "idempotency key was already used with different input", written⟩) =
          some existing := inCache
      rw [isFound]
      dsimp only
      rw [if_neg (by tauto)]
      exact ⟨rfl, rfl⟩
    next same =>
      refine ready_of_idle (answer_sound pressure called (by simp) ?_ rfl) (answerRunning _ _)
      intro written
      rw [kept]
      unfold Follows
      have isFound : findCached (cacheOf host (served state))
          (ServedCall.key ⟨call, .replay,
            { existing.result with callId := call.callId, replayed := true }, written⟩) =
          some existing := inCache
      rw [isFound]
      dsimp only
      rw [if_pos (by tauto)]
      exact ⟨rfl, rfl⟩
  next missing =>
    split
    next result refused =>
      have notRuns : runs host call = false := by
        unfold runs
        rw [refused]
        rfl
      refine ready_of_idle (conclude_sound pressure called missing ?_ (invoke_callId refused)) ?_
      · rw [notRuns]
        rfl
      · exact (conclude_running host pressure call result).trans idle
    next definition input invoked =>
      have isRun : runs host call = true := by
        unfold runs
        rw [invoked]
        rfl
      have opened := sound_invoked call input called
      refine ⟨?_, ?_⟩
      · have waits : waiting ({ state.record (.called call) with
            running := some (call, definition) }.record (.invoked call input)) = [call] := rfl
        exact ⟨opened.texts, opened.calls, opened.invoked, opened.named, opened.written,
          opened.serves, opened.cached⟩
      · intro other otherDefinition isRunning
        have isCall : (call, definition) = (other, otherDefinition) := Option.some.inj isRunning
        cases isCall
        exact ⟨missing, isRun⟩

theorem handleText_ready (welcome : Welcome) (pressures : List Nat) (text : List Char)
    (bytes : Nat) (sound : Sound host [] [] state) (idle : state.running = none) :
    Ready host (handleText host welcome pressures state text bytes) := by
  have ready := ready_of_idle sound idle
  unfold handleText
  split
  next => exact ready_aside ready (handleOpen_aside host welcome pressures state text bytes)
  next =>
    split
    next => exact ready_aside ready (aside_of_sends (closePeer_sends state _ _))
    next =>
      split
      next => exact ready_aside ready (aside_of_sends (sendFrame_sends state _ fun _ => rfl))
      next call _ => exact handleCall_ready call sound idle

theorem onPeerEvent_ready (event : PeerEvent) (ready : Ready host state) :
    Ready host (onPeerEvent state event) := by
  cases event with
  | onText text bytes =>
    have moved := @sound_unanswered _ _ _ _ (onPeerEvent state (.onText text bytes))
      (.delivered text bytes) rfl ready.sound rfl rfl rfl
    simp only [calledOf, invokedOf, Option.toList_none, List.append_nil] at moved
    refine ⟨moved ?_, ready.waits⟩
    simp only [onPeerEvent]
    rw [filterMap_record, filterMap_record]
    simp only [deliveredOf, handledOf, Connection.record, Option.toList_some,
      Option.toList_none, List.append_nil]
    rw [ready.sound.texts, List.append_assoc]
  | onProtocolError message =>
    have moved := @aside_record { state with
      handshakeTimer := false, inPeers := false, inAllPeers := false } (.protocolError message) rfl
    exact ready_aside ready ⟨moved.log, moved.processing, moved.running, moved.cache, moved.closed⟩
  | onClose =>
    have moved := @aside_record { state with
      handshakeTimer := false, inPeers := false, inAllPeers := false } .socketClosed rfl
    exact ready_aside ready ⟨moved.log, moved.processing, moved.running, moved.cache, moved.closed⟩
  | closeReceived => exact ready_aside ready (aside_record state rfl)
  | pong payload => exact ready_aside ready (aside_record state rfl)
  | closeSent code reason => exact ready_aside ready (aside_record state rfl)

theorem onPeerEvents_ready (events : List PeerEvent) (ready : Ready host state) :
    Ready host (events.foldl onPeerEvent state) := by
  induction events generalizing state with
  | nil => exact ready
  | cons event events ih => exact ih (onPeerEvent_ready event ready)

theorem usePeer_ready (used : ServerWebSocketPeer × List PeerEvent) (ready : Ready host state)
    (closes : used.1.isClosed = false → state.peer.isClosed = false) :
    Ready host (state.usePeer used) := by
  have moved : Ready host { state with peer := used.1 } :=
    ready_aside ready ⟨⟨[], by simp, by simp⟩, rfl, rfl, rfl, closes⟩
  exact onPeerEvents_ready used.2 moved

theorem step_ready (op : ConnectionOp) (ready : Ready host state) :
    Ready host (step host state op) := by
  cases op with
  | data chunk =>
    simp only [step]
    split
    next => exact ready
    next => exact usePeer_ready _ ready fun isOpen => (accept_listed state.peer chunk isOpen).1
  | socketEnds =>
    refine usePeer_ready _ ready ?_
    unfold ServerWebSocketPeer.finish
    split
    next => exact id
    next =>
      intro isOpen
      simp [ServerWebSocketPeer.isClosed] at isOpen
  | handleNext welcome pressures =>
    simp only [step]
    split
    next text bytes rest idle queued =>
      have sound := sound_of_ready ready idle
      refine handleText_ready welcome pressures text bytes
        (sound_unanswered (.handled text bytes) rfl sound rfl rfl rfl ?_) idle
      have texts := sound.texts
      rw [queued] at texts
      rw [filterMap_record, filterMap_record]
      simp only [deliveredOf, handledOf, Connection.record, Option.toList_some,
        Option.toList_none, List.append_nil]
      rw [texts, List.append_assoc]
      rfl
    next => exact ready
  | operationEnds outcome pressure =>
    simp only [step]
    split
    next call definition isRunning =>
      obtain ⟨new, isRun⟩ := ready.waits call definition isRunning
      have sound := ready.sound
      have waits : waiting state = [call] := by
        unfold waiting
        rw [isRunning]
        rfl
      rw [waits] at sound
      have idle : Sound host [call] [call] { state with running := none } :=
        ⟨sound.texts, sound.calls, sound.invoked, sound.named, sound.written, sound.serves,
          sound.cached⟩
      refine ready_of_idle (conclude_sound pressure idle new ?_ ?_) ?_
      · rw [isRun]
        rfl
      · exact settled_callId _ _ _
      · exact conclude_running host pressure call _
    next => exact ready
  | publishNotice topic emittedAt data pressure =>
    have noticed : Ready host
        { state with notices := (state.notices.publish topic emittedAt data).1 } :=
      ready_aside ready ⟨⟨[], by simp, by simp⟩, rfl, rfl, rfl, id⟩
    exact ready_aside noticed (aside_of_sends (broadcast_sends _ _ _))
  | _ => exact ready_aside ready (aside_of_sends (step_sends host state _ rfl))

theorem reach_ready (host : Host) (notices : NoticeWindow) (head : List UInt8)
    (ops : List ConnectionOp) : Ready host (reach host notices head ops) := by
  have initial : Ready host (Connection.initial notices) := by
    refine ready_of_idle ⟨rfl, rfl, rfl, ?_, ?_, serves_nil host, rfl⟩ rfl
    · intro one oneIn
      contradiction
    · intro _ one oneIn
      contradiction
  have started : Ready host (start notices head) := by
    have used := usePeer_ready ((Connection.initial notices).peer.accept head) initial
      fun isOpen => (accept_listed _ head isOpen).1
    exact ready_aside used ⟨⟨[], by simp [start], by simp⟩, rfl, rfl, rfl, id⟩
  exact run_invariant (step host) (Ready host) (fun _ op kept => step_ready op kept) _ ops started

variable {event : ConnectionEvent}

def hear (heard : Bool × List CallFrame) : ConnectionEvent → Bool × List CallFrame
  | .authenticated => (true, heard.2)
  | .handled text bytes =>
    if heard.1 = true ∧ bytes ≤ maxAuthenticatedPayloadBytes then
      (heard.1, heard.2 ++ (callOf text).toOption.toList)
    else heard
  | _ => heard

def heard (log : List ConnectionEvent) : Bool × List CallFrame := log.foldl hear (false, [])

def Heard (state : Connection) : Prop :=
  heard state.log = (state.authenticated, state.log.filterMap calledOf)

def calm : ConnectionEvent → Bool
  | .authenticated => false
  | .handled _ _ => false
  | .called _ => false
  | _ => true

/-- The log has grown by such events, and the connection is as authenticated as before. -/
structure Calmly (state next : Connection) : Prop where
  log : ∃ events, next.log = state.log ++ events ∧ ∀ event ∈ events, calm event = true
  authenticated : next.authenticated = state.authenticated

theorem heard_append (log events : List ConnectionEvent) :
    heard (log ++ events) = events.foldl hear (heard log) := by
  unfold heard
  rw [List.foldl_append]

theorem hear_calm (isCalm : calm event = true) (before : Bool × List CallFrame) :
    hear before event = before ∧ calledOf event = none := by
  cases event <;> first | exact ⟨rfl, rfl⟩ | contradiction

theorem hear_calm_events (allCalm : ∀ event ∈ events, calm event = true)
    (before : Bool × List CallFrame) :
    events.foldl hear before = before ∧ events.filterMap calledOf = [] := by
  induction events with
  | nil => exact ⟨rfl, rfl⟩
  | cons event events ih =>
    have first := hear_calm (allCalm event List.mem_cons_self) before
    have rest := ih fun one oneIn => allCalm one (List.mem_cons_of_mem event oneIn)
    refine ⟨?_, ?_⟩
    · rw [List.foldl_cons, first.1, rest.1]
    · rw [List.filterMap_cons_none first.2, rest.2]

theorem heard_calmly (known : Heard state) (calmly : Calmly state next) : Heard next := by
  obtain ⟨events, grown, allCalm⟩ := calmly.log
  have same := hear_calm_events allCalm (heard state.log)
  unfold Heard at *
  rw [grown, heard_append, same.1, known, List.filterMap_append, same.2, List.append_nil,
    calmly.authenticated]

theorem calmly_trans (first : Calmly state middle) (rest : Calmly middle next) :
    Calmly state next where
  log := Lib.EventLog.grows_trans first.log rest.log
  authenticated := rest.authenticated.trans first.authenticated

theorem calmly_record (state : Connection) (isCalm : calm event = true) :
    Calmly state (state.record event) :=
  ⟨⟨[event], rfl, by simpa using isCalm⟩, rfl⟩

theorem calmly_of_same (log : next.log = state.log)
    (authenticated : next.authenticated = state.authenticated) : Calmly state next :=
  ⟨⟨[], by rw [log, List.append_nil], by simp⟩, authenticated⟩

theorem calmly_of_sends (sends : Sends sending state next) : Calmly state next := by
  obtain ⟨events, grown, sent⟩ := sends.log
  refine ⟨⟨events, grown, ?_⟩, sends.authenticated⟩
  intro event eventIn
  have isSent := sent event eventIn
  cases event <;> first | rfl | contradiction

theorem usePeer_calmly (state : Connection) (used : ServerWebSocketPeer × List PeerEvent) :
    Calmly state (state.usePeer used) := by
  refine ⟨⟨_, usePeer_log state used, ?_⟩, usePeer_authenticated state used⟩
  intro event eventIn
  obtain ⟨peerEvent, -, rfl⟩ := List.mem_map.mp eventIn
  cases peerEvent <;> rfl

theorem answer_calmly (state : Connection) (pressure : Nat) (call : CallFrame)
    (origin : CallOrigin) (result : ResultFrame) :
    Calmly state (state.answer pressure call origin result) :=
  calmly_trans (calmly_of_sends (send_sends state pressure)) (calmly_record _ rfl)

theorem conclude_calmly (host : Host) (state : Connection) (pressure : Nat) (call : CallFrame)
    (result : ResultFrame) : Calmly state (state.conclude host pressure call result) := by
  obtain ⟨cache, isCache⟩ :
      ∃ cache, cache = cacheResult state.cache (entryOf host call result) := ⟨_, rfl⟩
  have answered := answer_calmly { state with cache := cache } pressure call .fresh result
  unfold Connection.conclude
  rw [← isCache]
  exact ⟨answered.log, answered.authenticated⟩

theorem heard_record_handled (known : Heard state) (text : List Char) (bytes : Nat) :
    heard (state.record (.handled text bytes)).log =
      hear (state.authenticated, state.log.filterMap calledOf) (.handled text bytes) := by
  rw [Connection.record, heard_append, known]
  rfl

theorem handleOpen_heard (welcome : Welcome) (pressures : List Nat) (text : List Char)
    (bytes : Nat) (known : Heard state) :
    Heard (handleOpen host welcome pressures state text bytes) := by
  rcases @handleOpen_cases sending _ host welcome pressures state text bytes with
    ⟨-, sends⟩ | opened
  · exact heard_calmly known (calmly_of_sends sends)
  · obtain ⟨-, protocol, opened, admitted, -, opening, isWelcomed⟩ := opened
    have sends := sendWelcome_sends host welcome pressures admitted protocol opened.cursor
    rw [← isWelcomed] at sends
    refine heard_calmly ?_ (calmly_of_sends sends)
    unfold Heard at *
    rw [opening.log, opening.authenticated, heard_append, known]
    simp [hear, calledOf]

theorem handleCall_heard (pressure : Nat) (call : CallFrame)
    (known : Heard (state.record (.called call))) :
    Heard (handleCall host pressure state call) := by
  unfold handleCall
  dsimp only
  split
  next =>
    split
    next => exact heard_calmly known (answer_calmly _ _ _ _ _)
    next => exact heard_calmly known (answer_calmly _ _ _ _ _)
  next =>
    split
    next => exact heard_calmly known (conclude_calmly host _ _ _ _)
    next definition input _ =>
      refine heard_calmly known (calmly_trans (calmly_of_same ?_ ?_) (calmly_record _ rfl))
      · rfl
      · rfl

theorem handleNext_heard (welcome : Welcome) (pressures : List Nat) (text : List Char)
    (bytes : Nat) (known : Heard state) :
    Heard (handleText host welcome pressures (state.record (.handled text bytes)) text bytes) := by
  have read := heard_record_handled known text bytes
  have called : (state.record (.handled text bytes)).log.filterMap calledOf =
      state.log.filterMap calledOf := by
    rw [filterMap_record]
    exact List.append_nil _
  have unread (ignored : ¬ (state.authenticated = true ∧ bytes ≤ maxAuthenticatedPayloadBytes)
      ∨ (callOf text).toOption = none) : Heard (state.record (.handled text bytes)) := by
    unfold Heard
    rw [read, called]
    unfold hear
    dsimp only
    split
    next taken =>
      rcases ignored with notTaken | none
      · exact absurd taken notTaken
      · rw [none]
        simp [Connection.record]
    next => rfl
  unfold handleText
  split
  next unauthenticated =>
    refine handleOpen_heard welcome pressures text bytes (unread (.inl ?_))
    rintro ⟨authenticated, -⟩
    change state.authenticated = false at unauthenticated
    rw [unauthenticated] at authenticated
    contradiction
  next authenticated =>
    split
    next large =>
      refine heard_calmly (unread (.inl ?_)) (calmly_of_sends (closePeer_sends _ _ _))
      rintro ⟨-, bounded⟩
      omega
    next bounded =>
      split
      next message refused =>
        refine heard_calmly (unread (.inr ?_)) (calmly_of_sends (sendFrame_sends _ _ fun _ => rfl))
        rw [refused]
        rfl
      next call isCall =>
        apply handleCall_heard
        have isAuthenticated : state.authenticated = true := Bool.not_eq_false _ ▸ authenticated
        unfold Heard
        rw [filterMap_record, called]
        simp only [Connection.record] at read ⊢
        rw [heard_append, read]
        unfold hear
        dsimp only
        rw [if_pos ⟨isAuthenticated, by omega⟩, isCall]
        rfl

theorem step_heard (op : ConnectionOp) (known : Heard state) : Heard (step host state op) := by
  cases op with
  | data chunk =>
    simp only [step]
    split
    next => exact known
    next => exact heard_calmly known (usePeer_calmly state _)
  | socketEnds => exact heard_calmly known (usePeer_calmly state _)
  | handleNext welcome pressures =>
    simp only [step]
    split
    next text bytes rest _ _ =>
      exact @handleNext_heard _ { state with processing := rest } welcome pressures text bytes known
    next => exact known
  | operationEnds outcome pressure =>
    simp only [step]
    split
    next =>
      exact @heard_calmly { state with running := none } _ known (conclude_calmly host _ _ _ _)
    next => exact known
  | publishNotice topic emittedAt data pressure =>
    exact @heard_calmly
      { state with notices := (state.notices.publish topic emittedAt data).1 } _ known
      (calmly_of_sends (broadcast_sends _ _ _))
  | _ => exact heard_calmly known (calmly_of_sends (step_sends host state _ rfl))

theorem reach_heard (host : Host) (notices : NoticeWindow) (head : List UInt8)
    (ops : List ConnectionOp) : Heard (reach host notices head ops) := by
  have initial : Heard (Connection.initial notices) := rfl
  have used := usePeer_calmly (Connection.initial notices)
    ((Connection.initial notices).peer.accept head)
  have started : Heard (start notices head) :=
    heard_calmly initial ⟨used.log, used.authenticated⟩
  exact run_invariant (step host) Heard (fun _ op kept => step_heard op kept) _ ops started

/-- The calls that a log has heard came after its connection was authenticated. -/
theorem heard_authenticated (log : List ConnectionEvent) :
    (heard log).1 = true ∨ (heard log).2 ≠ [] → ConnectionEvent.authenticated ∈ log := by
  induction log using List.reverseRecOn with
  | nil => simp [heard]
  | append_singleton log event ih =>
    rw [heard_append, List.foldl_cons, List.foldl_nil, List.mem_append]
    intro isHeard
    cases event with
    | authenticated => exact Or.inr (List.mem_singleton_self _)
    | handled text bytes =>
      by_cases known : (heard log).1 = true
      · exact Or.inl (ih (Or.inl known))
      · simp only [hear, known] at isHeard
        exact Or.inl (ih (isHeard.imp_left (absurd · known)))
    | _ => exact Or.inl (ih isHeard)

/-- An operation is called only for a call that the registry took, that a text of this
connection said, and after the connection was authenticated. -/
theorem invoked_calls_permitted (host : Host) (notices : NoticeWindow) (head : List UInt8)
    (ops : List ConnectionOp) :
    ∀ call ∈ (reach host notices head ops).log.filterMap invokedOf,
      (host.registry.invoke call.callId call.operation call.input).isOk = true ∧
        call ∈ (heard (reach host notices head ops).log).2 ∧
          ConnectionEvent.authenticated ∈ (reach host notices head ops).log := by
  intro call isInvoked
  have ready := reach_ready host notices head ops
  have known := reach_heard host notices head ops
  generalize reach host notices head ops = state at isInvoked ready known ⊢
  have taken : runs host call = true ∧ call ∈ state.log.filterMap calledOf := by
    rw [ready.sound.invoked] at isInvoked
    rw [ready.sound.calls]
    rcases List.mem_append.mp isInvoked with answered | waits
    · obtain ⟨fresh, isOk⟩ := List.mem_filter.mp answered
      obtain ⟨one, oneIn, rfl⟩ := List.mem_map.mp fresh
      exact ⟨isOk, List.mem_append_left _ (List.mem_map_of_mem (List.mem_of_mem_filter oneIn))⟩
    · refine ⟨?_, List.mem_append_right _ waits⟩
      obtain ⟨running, isRunning, rfl⟩ :=
        Option.map_eq_some_iff.mp (Option.mem_toList.mp waits)
      exact (ready.waits _ _ isRunning).2
  have isHeard : call ∈ (heard state.log).2 := by
    rw [known]
    exact taken.2
  exact ⟨taken.1, isHeard, heard_authenticated _ (Or.inr (List.ne_nil_of_mem isHeard))⟩

end OpenRill.Protocol.CallLog
