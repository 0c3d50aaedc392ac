import OpenRill.Lib.EventLog
import OpenRill.Protocol.Sending

/-!
# Closed connections

A connection ends when the client's Close frame is read, when a protocol error is reported,
when the handshake is rejected or times out, and when the server closes the peer. What it
accepts are texts that reach the handler, the authentication and the operations that it
calls. The reader looks at one of the two closing flags, the handler of a text at neither:
what is accepted after the end is exactly what was still to be read or handled then.
-/

namespace OpenRill.Protocol.ClosedConnections

open OpenRill.Lib OpenRill.Lib.Runs OpenRill.Lib.EventLog
open OpenRill.Protocol.Frames OpenRill.Protocol.Registry OpenRill.Protocol.WebSocketCodec
open OpenRill.Protocol.ProtocolServer OpenRill.Protocol.Sending

variable {host : Host} {state next : Connection}
variable {event : ConnectionEvent} {events : List ConnectionEvent}

def ends : ConnectionEvent → Bool
  | .closeReceived => true
  | .protocolError _ => true
  | .handshakeRejected _ => true
  | .handshakeTimedOut => true
  | .closed _ _ => true
  | _ => false

def accepts : ConnectionEvent → Bool
  | .delivered _ _ => true
  | .authenticated => true
  | .invoked _ _ => true
  | _ => false

/-- Nothing is accepted after an end. -/
def Law (earlier later : ConnectionEvent) : Prop :=
  ends earlier = true → accepts later = false

instance : DecidableRel Law := fun earlier later =>
  inferInstanceAs (Decidable (ends earlier = true → accepts later = false))

/-- The connection accepted nothing after it had ended. -/
def NothingAfterEnd (state : Connection) : Prop := state.log.Pairwise Law

instance (state : Connection) : Decidable (NothingAfterEnd state) :=
  inferInstanceAs (Decidable (state.log.Pairwise Law))

def Ended (state : Connection) : Prop := ∃ event ∈ state.log, ends event = true

def Admits (host : Host) (state : Connection) (text : List Char) (bytes : Nat) : Prop :=
  state.authenticated = false ∧ state.preauthFrames = 0 ∧
    state.preauthBytes + bytes ≤ maxPreauthPayloadBytes ∧
      ∃ admitted, admission host text = .ok admitted

/-- The text is a call of an authenticated connection that is not in the cache, of an
operation that the registry has and that accepts the input. -/
def Invokes (host : Host) (state : Connection) (text : List Char) (bytes : Nat) : Prop :=
  state.authenticated = true ∧ bytes ≤ maxAuthenticatedPayloadBytes ∧
    ∃ call, callOf text = .ok call ∧ findCached state.cache call.idempotencyKey = none ∧
      ∃ invocation, host.registry.invoke call.callId call.operation call.input = .ok invocation

/-- There is something in the step that a connection accepts: a text in the bytes that an
open socket gives, or an opening or a call in the text that is next to be handled. -/
def Offers (host : Host) (state : Connection) : ConnectionOp → Prop
  | .data chunk =>
    state.destroyed = false ∧ state.peer.closed = false ∧
      BeginsWithText (state.peer.buffer ++ chunk)
  | .handleNext _ _ =>
    state.running = none ∧ ∃ text bytes rest, state.processing = (text, bytes) :: rest ∧
      (Admits host state text bytes ∨ Invokes host state text bytes)
  | _ => False

/-- A connection that has ended is offered nothing. -/
def Harmless (host : Host) (state : Connection) (op : ConnectionOp) : Prop :=
  Ended state → ¬ Offers host state op

def Quiet (events : List ConnectionEvent) : Prop := ∀ event ∈ events, accepts event = false

def Quietly (state next : Connection) : Prop :=
  ∃ events, next.log = state.log ++ events ∧ Quiet events

theorem quietly_refl (state : Connection) : Quietly state state :=
  ⟨[], by simp, by simp [Quiet]⟩

theorem quietly_of_log {other : Connection} (same : other.log = state.log)
    (quietly : Quietly other next) : Quietly state next := by
  obtain ⟨events, grown, quiet⟩ := quietly
  exact ⟨events, by rw [grown, same], quiet⟩

theorem quietly_trans {middle : Connection} (first : Quietly state middle)
    (rest : Quietly middle next) : Quietly state next :=
  grows_trans first rest

theorem quietly_record (state : Connection) (quiet : accepts event = false) :
    Quietly state (state.record event) :=
  ⟨[event], rfl, by simpa [Quiet] using quiet⟩

theorem quiet_lawful (quiet : Quiet events) : events.Pairwise Law := by
  induction events with
  | nil => exact List.Pairwise.nil
  | cons event events ih =>
    have rest := ih fun one oneIn => quiet one (List.mem_cons_of_mem event oneIn)
    refine List.Pairwise.cons ?_ rest
    intro later laterIn _
    exact quiet later (List.mem_cons_of_mem event laterIn)

theorem quietly_of_sends (sends : Sends sending state next) : Quietly state next := by
  obtain ⟨events, grown, sent⟩ := sends.log
  refine ⟨events, grown, ?_⟩
  intro event eventIn
  have isSent := sent event eventIn
  cases event <;> first | rfl | contradiction

theorem close_quiet (peer : ServerWebSocketPeer) (code : Nat) (reason : List Char) :
    Quiet ((peer.close code reason).2.map recordOf) := by
  unfold ServerWebSocketPeer.close
  split
  next => simp [Quiet]
  next => simp [Quiet, recordOf, accepts]

theorem answer_quietly (state : Connection) (pressure : Nat) (call : CallFrame)
    (origin : CallOrigin) (result : ResultFrame) :
    Quietly state (state.answer pressure call origin result) :=
  quietly_trans (quietly_of_sends (send_sends state pressure)) (quietly_record _ rfl)

theorem conclude_quietly (state : Connection) (pressure : Nat) (call : CallFrame)
    (result : ResultFrame) : Quietly state (state.conclude host pressure call result) := by
  refine quietly_of_log ?_ (answer_quietly _ pressure call .fresh result)
  rfl

variable {offered : Prop}

/-- The log has grown by events that keep the law and accept something exactly when the step
offers it. -/
def Takes (state next : Connection) (offered : Prop) : Prop :=
  ∃ events, next.log = state.log ++ events ∧ events.Pairwise Law ∧
    ((∃ event ∈ events, accepts event = true) ↔ offered)

theorem takes_of_quietly (quietly : Quietly state next) (none : ¬ offered) :
    Takes state next offered := by
  obtain ⟨events, grown, quiet⟩ := quietly
  refine ⟨events, grown, quiet_lawful quiet, ?_⟩
  constructor
  · rintro ⟨event, eventIn, accepted⟩
    rw [quiet event eventIn] at accepted
    contradiction
  · intro offer
    exact absurd offer none

theorem takes_first {middle : Connection} {offered : Prop} {event : ConnectionEvent}
    (first : middle.log = state.log ++ [event]) (open_ : ends event = false)
    (accepted : accepts event = true) (rest : Quietly middle next) (offer : offered) :
    Takes state next offered := by
  obtain ⟨events, grown, quiet⟩ := rest
  refine ⟨event :: events, by rw [grown, first, List.append_assoc]; rfl, ?_, ?_⟩
  · refine List.Pairwise.cons ?_ (quiet_lawful quiet)
    intro later _ ended
    rw [open_] at ended
    contradiction
  · exact ⟨fun _ => offer, fun _ => ⟨event, List.mem_cons_self, accepted⟩⟩

theorem lawful_cons (open_ : ends event = false) (rest : events.Pairwise Law) :
    (event :: events).Pairwise Law := by
  refine List.Pairwise.cons ?_ rest
  intro later _ ended
  rw [open_] at ended
  contradiction

theorem fail_lawful (peer : ServerWebSocketPeer) (message : String) (code : Nat) :
    ((peer.fail message code).2.map recordOf).Pairwise Law := by
  apply quiet_lawful
  have quiet := close_quiet peer code message.toList
  intro event eventIn
  rcases List.mem_cons.mp eventIn with isError | inClose
  · rw [isError]
    rfl
  · exact quiet event inClose

theorem closed_lawful (peer : ServerWebSocketPeer) (code : Nat) (reason : List Char) :
    (((PeerEvent.closeReceived :: (peer.close code reason).2)).map recordOf).Pairwise Law := by
  apply quiet_lawful
  have quiet := close_quiet peer code reason
  intro event eventIn
  rcases List.mem_cons.mp eventIn with isReceived | inClose
  · rw [isReceived]
    rfl
  · exact quiet event inClose

theorem accept_lawful (peer : ServerWebSocketPeer) (chunk : List UInt8) :
    ((peer.accept chunk).2.map recordOf).Pairwise Law := by
  refine @accept_rule (fun _ used => (used.2.map recordOf).Pairwise Law) ?_ ?_ ?_ ?_ ?_ ?_
    peer chunk
  · exact fun peer => List.Pairwise.nil
  · exact fail_lawful
  · exact closed_lawful
  · exact fun peer buffer used => id
  · exact fun peer payload used => lawful_cons rfl
  · exact fun peer text bytes used => lawful_cons rfl

theorem delivers_iff (events : List PeerEvent) :
    (∃ event ∈ events.map recordOf, accepts event = true) ↔ Delivers events := by
  constructor
  · rintro ⟨event, eventIn, accepted⟩
    obtain ⟨made, madeIn, rfl⟩ := List.mem_map.mp eventIn
    cases made with
    | onText text bytes => exact ⟨text, bytes, madeIn⟩
    | _ => contradiction
  · rintro ⟨text, bytes, delivered⟩
    exact ⟨.delivered text bytes, List.mem_map.mpr ⟨_, delivered, rfl⟩, rfl⟩

theorem accept_takes (state : Connection) (chunk : List UInt8) :
    Takes state (state.usePeer (state.peer.accept chunk))
      (state.peer.closed = false ∧ BeginsWithText (state.peer.buffer ++ chunk)) := by
  refine ⟨_, usePeer_log state _, accept_lawful state.peer chunk, ?_⟩
  rw [delivers_iff, accept_delivers_iff]

theorem handleOpen_takes (host : Host) (welcome : Welcome) (pressures : List Nat)
    (state : Connection) (text : List Char) (bytes : Nat)
    (unauthenticated : state.authenticated = false) :
    Takes state (handleOpen host welcome pressures state text bytes)
      (Admits host state text bytes) := by
  rcases @handleOpen_cases sending _ host welcome pressures state text bytes with
    ⟨closed, sends⟩ | opened
  · exact takes_of_quietly (quietly_of_sends sends) fun admits => closed admits.2
  · obtain ⟨opens, protocol, opened, admitted, -, opening, isWelcomed⟩ := opened
    have sends := sendWelcome_sends host welcome pressures admitted protocol opened.cursor
    rw [← isWelcomed] at sends
    exact takes_first opening.log rfl rfl (quietly_of_sends sends) ⟨unauthenticated, opens⟩

theorem handleCall_takes (host : Host) (pressure : Nat) (state : Connection) (call : CallFrame) :
    Takes state (handleCall host pressure state call)
      (findCached state.cache call.idempotencyKey = none ∧
        ∃ invocation, host.registry.invoke call.callId call.operation call.input =
          .ok invocation) := by
  unfold handleCall
  dsimp only [Connection.record]
  split
  next existing found =>
    have cached : ¬ (findCached state.cache call.idempotencyKey = none ∧
        ∃ invocation, host.registry.invoke call.callId call.operation call.input =
          .ok invocation) := by
      rintro ⟨missing, -⟩
      rw [found] at missing
      contradiction
    split
    next =>
      exact takes_of_quietly
        (quietly_trans (quietly_record state rfl) (answer_quietly _ _ _ _ _)) cached
    next =>
      exact takes_of_quietly
        (quietly_trans (quietly_record state rfl) (answer_quietly _ _ _ _ _)) cached
  next missing =>
    split
    next result refused =>
      refine takes_of_quietly
        (quietly_trans (quietly_record state rfl) (conclude_quietly _ _ _ _)) ?_
      rintro ⟨-, invocation, invoked⟩
      rw [refused] at invoked
      contradiction
    next definition input invoked =>
      refine ⟨[.called call, .invoked call input], ?_, ?_, ?_⟩
      · simp
      · exact lawful_cons rfl (lawful_cons rfl List.Pairwise.nil)
      · constructor
        · intro _
          exact ⟨missing, (definition, input), invoked⟩
        · intro _
          exact ⟨.invoked call input, by simp, rfl⟩

theorem takes_iff {other : Prop} (same : offered ↔ other) (takes : Takes state next offered) :
    Takes state next other := by
  obtain ⟨events, grown, lawful, accepted⟩ := takes
  exact ⟨events, grown, lawful, accepted.trans same⟩

theorem takes_recorded (open_ : ends event = false) (quiet : accepts event = false)
    (takes : Takes (state.record event) next offered) : Takes state next offered := by
  obtain ⟨events, grown, lawful, accepted⟩ := takes
  refine ⟨event :: events, ?_, lawful_cons open_ lawful, ?_⟩
  · rw [grown, Connection.record, List.append_assoc]
    rfl
  · rw [← accepted]
    simp [quiet]

theorem takes_of_log {before : Connection} {offered : Prop} (same : before.log = state.log)
    (takes : Takes before next offered) : Takes state next offered := by
  obtain ⟨events, grown, lawful, accepted⟩ := takes
  exact ⟨events, by rw [grown, same], lawful, accepted⟩

theorem handleText_takes (host : Host) (welcome : Welcome) (pressures : List Nat)
    (state : Connection) (text : List Char) (bytes : Nat) :
    Takes state (handleText host welcome pressures state text bytes)
      (Admits host state text bytes ∨ Invokes host state text bytes) := by
  unfold handleText
  split
  next unauthenticated =>
    refine takes_iff ?_ (handleOpen_takes host welcome pressures state text bytes unauthenticated)
    constructor
    · exact .inl
    · rintro (admits | ⟨authenticated, -⟩)
      · exact admits
      · rw [unauthenticated] at authenticated
        contradiction
  next authenticated =>
    have noOpening : ¬ Admits host state text bytes := fun admits => authenticated admits.1
    have isAuthenticated : state.authenticated = true := Bool.not_eq_false _ ▸ authenticated
    split
    next large =>
      refine takes_of_quietly (quietly_of_sends (closePeer_sends state _ _)) ?_
      rintro (admits | ⟨-, bounded, -⟩)
      · exact noOpening admits
      · omega
    next bounded =>
      split
      next message refused =>
        refine takes_of_quietly (quietly_of_sends (sendFrame_sends state _ fun _ => rfl)) ?_
        rintro (admits | ⟨-, -, call, isCall, -⟩)
        · exact noOpening admits
        · rw [refused] at isCall
          contradiction
      next call isCall =>
        refine takes_iff ?_ (handleCall_takes host (pressures.headD 0) state call)
        constructor
        · rintro ⟨missing, invocation, invoked⟩
          exact .inr ⟨isAuthenticated, by omega, call, isCall, missing, invocation, invoked⟩
        · rintro (admits | ⟨-, -, found, isFound, missing, invocation, invoked⟩)
          · exact absurd admits noOpening
          · rw [isCall] at isFound
            cases isFound
            exact ⟨missing, invocation, invoked⟩

theorem step_takes (host : Host) (state : Connection) (op : ConnectionOp) :
    Takes state (step host state op) (Offers host state op) := by
  cases op with
  | data chunk =>
    simp only [step, Offers]
    split
    next destroyed =>
      refine takes_of_quietly (quietly_refl state) ?_
      rintro ⟨intact, -⟩
      rw [destroyed] at intact
      contradiction
    next intact =>
      refine takes_iff ?_ (accept_takes state chunk)
      exact ⟨fun offer => ⟨Bool.eq_false_iff.mpr intact, offer⟩, fun offer => offer.2⟩
  | socketEnds =>
    refine takes_of_quietly ⟨_, usePeer_log state _, ?_⟩ fun offer => offer
    unfold ServerWebSocketPeer.finish
    split
    next => simp [Quiet]
    next => simp [Quiet, recordOf, accepts]
  | handleNext welcome pressures =>
    simp only [step, Offers]
    split
    next text bytes rest idle queued =>
      have handled := handleText_takes host welcome pressures
        ({ state with processing := rest }.record (.handled text bytes)) text bytes
      refine takes_iff ?_ (@takes_of_log _ _ { state with processing := rest } _ rfl
        (takes_recorded rfl rfl handled))
      constructor
      · intro offer
        exact ⟨idle, text, bytes, rest, queued, offer⟩
      · rintro ⟨-, otherText, otherBytes, otherRest, isQueued, offer⟩
        rw [queued] at isQueued
        cases isQueued
        exact offer
    next busy =>
      refine takes_of_quietly (quietly_refl state) ?_
      rintro ⟨idle, text, bytes, rest, queued, -⟩
      exact busy text bytes rest idle queued
  | operationEnds outcome pressure =>
    refine takes_of_quietly ?_ fun offer => offer
    simp only [step]
    split
    next =>
      refine quietly_of_log ?_ (conclude_quietly _ _ _ _)
      rfl
    next => exact quietly_refl state
  | publishNotice topic emittedAt data pressure =>
    refine takes_of_quietly (quietly_of_log ?_ (quietly_of_sends (broadcast_sends
      { state with notices := (state.notices.publish topic emittedAt data).1 } pressure _))) id
    rfl
  | _ =>
    exact takes_of_quietly (quietly_of_sends (step_sends host state _ rfl)) fun offer => offer

theorem start_lawful (notices : NoticeWindow) (head : List UInt8) :
    NothingAfterEnd (start notices head) := by
  have log : (start notices head).log =
      ((Connection.initial notices).peer.accept head).2.map recordOf :=
    usePeer_log (Connection.initial notices) _
  unfold NothingAfterEnd
  rw [log]
  exact accept_lawful _ head

theorem agrees_iff (host : Host) (state : Connection) (op : ConnectionOp) :
    Agrees (step host) Connection.log Law state op ↔ Harmless host state op := by
  obtain ⟨events, grown, lawful, accepted⟩ := step_takes host state op
  constructor
  · rintro agrees ⟨ending, endingIn, isEnd⟩ offer
    obtain ⟨event, eventIn, isAccepted⟩ := accepted.mpr offer
    have refused := agrees events grown ending endingIn event eventIn isEnd
    rw [isAccepted] at refused
    contradiction
  · intro harmless recorded isRecorded ending endingIn event eventIn isEnd
    have same : recorded = events := by
      rw [grown] at isRecorded
      exact (List.append_cancel_left isRecorded).symm
    rw [same] at eventIn
    cases isAccepted : accepts event with
    | false => rfl
    | true =>
      have offer := accepted.mp ⟨event, eventIn, isAccepted⟩
      exact absurd offer (harmless ⟨ending, endingIn, isEnd⟩)

/-- A connection accepts nothing after it has ended exactly when, from then on, no bytes that
arrive complete a text, and no text that is handled is the opening or a call. -/
theorem nothing_after_end_iff (host : Host) (notices : NoticeWindow) (head : List UInt8)
    (ops : List ConnectionOp) :
    NothingAfterEnd (reach host notices head ops) ↔
      EveryStep (step host) (Harmless host) (start notices head) ops := by
  unfold NothingAfterEnd reach
  rw [pairwise_run_iff (step host) Connection.log Law]
  · constructor
    · rintro ⟨-, agree⟩
      exact everyStep_mono (fun state op => (agrees_iff host state op).mp) agree
    · intro harmless
      exact ⟨start_lawful notices head,
        everyStep_mono (fun state op => (agrees_iff host state op).mpr) harmless⟩
  · intro state op
    obtain ⟨events, grown, lawful, -⟩ := step_takes host state op
    exact ⟨events, grown, lawful⟩

def sampleHost : Host where
  profileToken := "token"
  numerals := { integer := String.toNat?, stringified := .number }
  registry := { operations := [], distinct := List.nodup_nil }

def sampleWindow : NoticeWindow where
  capacity := 128
  sequence := 0
  retained := []

def sampleClose : List UInt8 := [0x88, 0x80, 0, 0, 0, 0]

def sampleText : List UInt8 := [0x81, 0x81, 0, 0, 0, 0, 0x78]

/-- A text that arrives after the Close frame was read is handed to the handler. -/
theorem closed_connection_delivers :
    ¬ NothingAfterEnd (reach sampleHost sampleWindow [] [.data sampleClose, .data sampleText]) := by
  decide

end OpenRill.Protocol.ClosedConnections
