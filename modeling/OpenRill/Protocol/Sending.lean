import OpenRill.Lib.EventLog
import OpenRill.Protocol.ProtocolServer

/-!
# Sending on a connection

What a connection does when it sends a frame or closes its peer: the log tells what was sent,
a peer that is closed stays closed, and nothing else of the connection changes.
-/

namespace OpenRill.Protocol.Sending

open Lib
open OpenRill.Protocol.Frames OpenRill.Protocol.WebSocketCodec OpenRill.Protocol.ProtocolServer

variable {next state : Connection} {may : ConnectionEvent → Bool}

def sending : ConnectionEvent → Bool
  | .closed _ _ => true
  | .sent _ _ => true
  | .handshakeRejected _ => true
  | .handshakeTimedOut => true
  | _ => false

/-- The log may show what is sent, except for notices. -/
class Covers (may : ConnectionEvent → Bool) : Prop where
  closed : ∀ code reason, may (.closed code reason) = true
  sent : ∀ frame written, (∀ notice, frame ≠ .notice notice) → may (.sent frame written) = true
  rejected : ∀ frame, may (.handshakeRejected frame) = true
  timedOut : may .handshakeTimedOut = true

instance : Covers sending := ⟨fun _ _ => rfl, fun _ _ _ => rfl, fun _ => rfl, rfl⟩

/-- What is recorded is allowed, nothing is published, and a peer that is open was open and is
listed as before. -/
structure Stays (may : ConnectionEvent → Bool) (state next : Connection) : Prop where
  log : ∃ events, next.log = state.log ++ events ∧ ∀ event ∈ events, may event = true
  notices : next.notices = state.notices
  authenticated : next.authenticated = state.authenticated
  closed : next.peer.isClosed = false → state.peer.isClosed = false
  listed : next.peer.isClosed = false → next.inPeers = state.inPeers
  unlisted : next.inPeers = true → state.inPeers = true

structure Sends (may : ConnectionEvent → Bool) (state next : Connection) : Prop
    extends Stays may state next where
  processing : next.processing = state.processing
  running : next.running = state.running
  cache : next.cache = state.cache

theorem stays_refl (state : Connection) : Stays may state state :=
  ⟨⟨[], by simp, by simp⟩, rfl, rfl, id, fun _ => rfl, id⟩

theorem stays_trans {middle : Connection} (first : Stays may state middle)
    (rest : Stays may middle next) : Stays may state next where
  log := Lib.EventLog.grows_trans first.log rest.log
  notices := rest.notices.trans first.notices
  authenticated := rest.authenticated.trans first.authenticated
  closed isOpen := first.closed (rest.closed isOpen)
  listed isOpen := (rest.listed isOpen).trans (first.listed (rest.closed isOpen))
  unlisted isListed := first.unlisted (rest.unlisted isListed)

theorem stays_record {event : ConnectionEvent} (allowed : may event = true) :
    Stays may state (state.record event) :=
  ⟨⟨[event], rfl, by simpa using allowed⟩, rfl, rfl, id, fun _ => rfl, id⟩

theorem stays_of_log (log : next.log = state.log) (notices : next.notices = state.notices)
    (authenticated : next.authenticated = state.authenticated) (peer : next.peer = state.peer)
    (listed : next.inPeers = state.inPeers) : Stays may state next := by
  refine ⟨⟨[], by simp [log], by simp⟩, notices, authenticated, ?_, fun _ => listed, ?_⟩
  · rw [peer]
    exact id
  · rw [listed]
    exact id

theorem stays_of_closed (log : ∃ events, next.log = state.log ++ events ∧
      ∀ event ∈ events, may event = true) (notices : next.notices = state.notices)
    (authenticated : next.authenticated = state.authenticated)
    (unlisted : next.inPeers = true → state.inPeers = true)
    (isClosed : next.peer.isClosed = true) : Stays may state next := by
  have absurd_ : ¬ next.peer.isClosed = false := by simp [isClosed]
  exact ⟨log, notices, authenticated, fun isOpen => (absurd_ isOpen).elim,
    fun isOpen => (absurd_ isOpen).elim, unlisted⟩

theorem sends_refl (state : Connection) : Sends may state state :=
  ⟨stays_refl state, rfl, rfl, rfl⟩

theorem sends_trans {middle : Connection} (first : Sends may state middle)
    (rest : Sends may middle next) : Sends may state next where
  toStays := stays_trans first.toStays rest.toStays
  processing := rest.processing.trans first.processing
  running := rest.running.trans first.running
  cache := rest.cache.trans first.cache

theorem sends_record {event : ConnectionEvent} (isSent : may event = true) :
    Sends may state (state.record event) :=
  ⟨stays_record isSent, rfl, rfl, rfl⟩

def recordOf : PeerEvent → ConnectionEvent
  | .onText text bytes => .delivered text bytes
  | .onProtocolError message => .protocolError message
  | .onClose => .socketClosed
  | .closeReceived => .closeReceived
  | .pong payload => .pong payload
  | .closeSent code reason => .closed code reason

theorem onPeerEvent_log (state : Connection) (event : PeerEvent) :
    (onPeerEvent state event).log = state.log ++ [recordOf event] := by
  cases event <;> rfl

theorem usePeer_log (state : Connection) (used : ServerWebSocketPeer × List PeerEvent) :
    (state.usePeer used).log = state.log ++ used.2.map recordOf := by
  obtain ⟨peer, events⟩ := used
  have folded : ∀ (from_ : Connection), (events.foldl onPeerEvent from_).log =
      from_.log ++ events.map recordOf := by
    induction events with
    | nil => simp
    | cons event events ih =>
      intro before
      rw [List.foldl_cons, ih, onPeerEvent_log, List.map_cons, List.append_assoc]
      rfl
  exact folded { state with peer := peer }

/-- What no handler of the events changes is as the peer left it. -/
theorem usePeer_keeps {Value : Type} (read : Connection → Value) (state : Connection)
    (used : ServerWebSocketPeer × List PeerEvent)
    (kept : ∀ event ∈ used.2, ∀ from_, read (onPeerEvent from_ event) = read from_) :
    read (state.usePeer used) = read { state with peer := used.1 } := by
  obtain ⟨peer, events⟩ := used
  have folded : ∀ (from_ : Connection), read (events.foldl onPeerEvent from_) = read from_ := by
    induction events with
    | nil => simp
    | cons event events ih =>
      intro before
      obtain ⟨first, later⟩ := List.forall_mem_cons.mp kept
      rw [List.foldl_cons, ih later, first]
  exact folded { state with peer := peer }

theorem usePeer_authenticated (state : Connection)
    (used : ServerWebSocketPeer × List PeerEvent) :
    (state.usePeer used).authenticated = state.authenticated :=
  usePeer_keeps Connection.authenticated state used fun event _ _ => by cases event <;> rfl

theorem close_isClosed (peer : ServerWebSocketPeer) (code : Nat) (reason : List Char) :
    (peer.close code reason).1.isClosed = true := by
  unfold ServerWebSocketPeer.close
  split
  next closed => exact closed
  next => simp [ServerWebSocketPeer.isClosed]

theorem closePeer_peer (state : Connection) (code : Nat) (reason : List Char) :
    (state.closePeer code reason).peer = (state.peer.close code reason).1 := by
  unfold Connection.closePeer Connection.usePeer ServerWebSocketPeer.close
  split
  next => rfl
  next => rfl

theorem closePeer_isClosed (state : Connection) (code : Nat) (reason : List Char) :
    (state.closePeer code reason).peer.isClosed = true := by
  rw [closePeer_peer]
  exact close_isClosed state.peer code reason

theorem closePeer_sends [Covers may] (state : Connection) (code : Nat)
    (reason : List Char) : Sends may state (state.closePeer code reason) := by
  have closed := closePeer_isClosed state code reason
  unfold Connection.closePeer Connection.usePeer ServerWebSocketPeer.close at *
  split
  next => exact sends_refl state
  next isOpen =>
    rw [if_neg isOpen] at closed
    refine ⟨stays_of_closed ⟨[.closed code ((Utf8.encode reason).take 123)], rfl, ?_⟩ rfl rfl id
      closed, rfl, rfl, rfl⟩
    simp [Covers.closed]

/-- The peer is closed and not listed any more. -/
theorem closeUnlisted_sends [Covers may] (state : Connection) (code : Nat)
    (reason : List Char) :
    Sends may state { state.closePeer code reason with inPeers := false } := by
  have closed : Sends may state (state.closePeer code reason) := closePeer_sends state code reason
  exact ⟨stays_of_closed closed.log closed.notices closed.authenticated nofun
    (closePeer_isClosed state code reason), closed.processing, closed.running, closed.cache⟩

theorem send_sends [Covers may] (state : Connection) (pressure : Nat) :
    Sends may state (state.send pressure).1 := by
  unfold Connection.send
  split
  next => exact closeUnlisted_sends state _ _
  next => exact sends_refl state

theorem send_written (state : Connection) (pressure : Nat)
    (isOpen : (state.send pressure).1.peer.isClosed = false) :
    (state.send pressure).2 = true := by
  unfold Connection.send at *
  split at isOpen
  next slow =>
    have closed := closePeer_isClosed state 1013 "slow consumer".toList
    rw [closed] at isOpen
    contradiction
  next quick =>
    rw [if_neg quick]
    simp [isOpen]

theorem send_cache (state : Connection) (cache : List CachedResult) (pressure : Nat) :
    { state with cache := cache }.send pressure =
      ({ (state.send pressure).1 with cache := cache }, (state.send pressure).2) := by
  unfold Connection.send Connection.closePeer Connection.usePeer ServerWebSocketPeer.close
  split
  next =>
    split
    next => rfl
    next => rfl
  next => rfl

theorem sendFrame_sends [Covers may] (state : Connection) (pressure : Nat)
    {frame : ServerProtocolFrame} (allowed : ∀ written, may (.sent frame written) = true) :
    Sends may state (state.sendFrame pressure frame) :=
  sends_trans (send_sends state pressure) (sends_record (allowed _))

theorem sendNotices_sends (state : Connection) (pressures : List Nat)
    (notices : List NoticeFrame) : Sends sending state (state.sendNotices pressures notices) := by
  induction notices generalizing state pressures with
  | nil => exact sends_refl state
  | cons notice notices ih =>
    exact sends_trans (sendFrame_sends state _ fun _ => rfl) (ih _ _)

theorem failHandshake_sends [Covers may] (state : Connection) (pressure : Nat)
    (frame : RejectedFrame) (closeCode : Nat) :
    Sends may state (state.failHandshake pressure frame closeCode) := by
  have untimed : Sends may state { state with handshakeTimer := false } :=
    ⟨stays_of_log rfl rfl rfl rfl rfl, rfl, rfl, rfl⟩
  have rejected := sends_trans untimed (sends_record (Covers.rejected frame))
  have sent := sends_trans rejected (sendFrame_sends _ pressure fun written =>
    Covers.sent (.rejected frame) written fun _ => nofun)
  exact sends_trans sent ⟨stays_of_log rfl rfl rfl rfl rfl, rfl, rfl, rfl⟩

/-- A step of the host or of a timer, which reads no bytes, handles no text, ends no operation
and publishes no notice. -/
def apart : ConnectionOp → Bool
  | .data _ => false
  | .socketEnds => false
  | .handleNext _ _ => false
  | .operationEnds _ _ => false
  | .publishNotice _ _ _ _ => false
  | _ => true

theorem step_sends [Covers may] (host : Host) (state : Connection) (op : ConnectionOp)
    (isApart : apart op = true) : Sends may state (step host state op) := by
  cases op with
  | handshakeTimeout =>
    simp only [step]
    split
    next =>
      have untimed : Sends may state { state with handshakeTimer := false } :=
        ⟨stays_of_log rfl rfl rfl rfl rfl, rfl, rfl, rfl⟩
      split
      next => exact untimed
      next =>
        refine sends_trans untimed (sends_trans (sends_record Covers.timedOut) ?_)
        exact sends_trans (sends_record (Covers.sent (.rejected _) _ fun _ => nofun))
          (closePeer_sends _ _ _)
    next => exact sends_refl state
  | queuedClose =>
    simp only [step]
    split
    next code reason rest _ =>
      have shorter : Sends may state { state with queuedCloses := rest } :=
        ⟨stays_of_log rfl rfl rfl rfl rfl, rfl, rfl, rfl⟩
      exact sends_trans shorter (closePeer_sends _ _ _)
    next => exact sends_refl state
  | forceClose =>
    simp only [step]
    split
    next => exact ⟨stays_of_log rfl rfl rfl rfl rfl, rfl, rfl, rfl⟩
    next => exact sends_refl state
  | closeAll =>
    simp only [step]
    split
    next =>
      exact sends_trans (closeUnlisted_sends state 1001 "host stopping".toList)
        ⟨stays_of_log rfl rfl rfl rfl rfl, rfl, rfl, rfl⟩
    next => exact sends_refl state
  | _ => contradiction

theorem broadcast_sends (state : Connection) (pressure : Nat) (notice : NoticeFrame) :
    Sends sending state (state.broadcast pressure notice) := by
  unfold Connection.broadcast
  split
  next => exact sendFrame_sends _ _ fun _ => rfl
  next => exact sends_refl state

/-- The text opens the connection: it is the first one, it is short enough, and the frame in
it is admitted. -/
def Opens (host : Host) (state : Connection) (text : List Char) (bytes : Nat) : Prop :=
  state.preauthFrames = 0 ∧ state.preauthBytes + bytes ≤ maxPreauthPayloadBytes ∧
    ∃ admitted, admission host text = .ok admitted

structure Authenticates (state next : Connection) : Prop where
  log : next.log = state.log ++ [.authenticated]
  processing : next.processing = state.processing
  running : next.running = state.running
  cache : next.cache = state.cache
  authenticated : next.authenticated = true
  peer : next.peer = state.peer
  notices : next.notices = state.notices
  listed : next.inPeers = true

/-- What is sent after a text was admitted. -/
def sendWelcome (host : Host) (welcome : Welcome) (pressures : List Nat) (state : Connection)
    (protocol : Nat) (cursor : Option Nat) : Connection :=
  let replay := state.notices.replayAfter cursor
  let state := state.sendFrame (pressures.headD 0) (.accepted {
    protocol, welcome, operations := host.registry.capabilities
    cursor := replay.cursor, resyncRequired := replay.resyncRequired })
  if replay.resyncRequired then state else state.sendNotices pressures.tail replay.notices

theorem sendWelcome_sends (host : Host) (welcome : Welcome) (pressures : List Nat)
    (state : Connection) (protocol : Nat) (cursor : Option Nat) :
    Sends sending state (sendWelcome host welcome pressures state protocol cursor) := by
  unfold sendWelcome
  dsimp only
  split
  next => exact sendFrame_sends _ _ fun _ => rfl
  next =>
    exact sends_trans (sendFrame_sends _ _ fun _ => rfl) (sendNotices_sends _ _ _)

/-- A text of a connection that is not authenticated is refused, or it authenticates the
connection and what is sent follows. -/
theorem handleOpen_cases [Covers may] (host : Host) (welcome : Welcome)
    (pressures : List Nat) (state : Connection) (text : List Char) (bytes : Nat) :
    (¬ Opens host state text bytes ∧
        Sends may state (handleOpen host welcome pressures state text bytes)) ∨
      Opens host state text bytes ∧ ∃ protocol opened admitted,
        admission host text = .ok (protocol, opened) ∧ Authenticates state admitted ∧
          handleOpen host welcome pressures state text bytes =
            sendWelcome host welcome pressures admitted protocol opened.cursor := by
  have counted : Sends may state { state with
      preauthFrames := state.preauthFrames + 1
      preauthBytes := state.preauthBytes + bytes } :=
    ⟨stays_of_log rfl rfl rfl rfl rfl, rfl, rfl, rfl⟩
  have refused := fun frame closeCode =>
    sends_trans counted (failHandshake_sends _ (pressures.headD 0) frame closeCode)
  unfold handleOpen
  dsimp only
  split
  next later =>
    exact .inl ⟨fun opens => by have := opens.1; omega, refused _ _⟩
  next first =>
    split
    next large => exact .inl ⟨fun opens => by have := opens.2.1; omega, refused _ _⟩
    next bounded =>
      split
      next frame closeCode isRefused =>
        refine .inl ⟨?_, refused _ _⟩
        rintro ⟨-, -, admitted, isAdmitted⟩
        rw [isRefused] at isAdmitted
        contradiction
      next protocol opened isAdmitted =>
        refine .inr ⟨⟨by omega, by omega, (protocol, opened), isAdmitted⟩, protocol, opened, _,
          isAdmitted, ?_, rfl⟩
        exact ⟨rfl, rfl, rfl, rfl, rfl, rfl, rfl, rfl⟩

/-- A property of what a frame does to a peer is one of what a chunk does. -/
theorem accept_rule {kept : ServerWebSocketPeer → ServerWebSocketPeer × List PeerEvent → Prop}
    (waits : ∀ peer, kept peer (peer, []))
    (fails : ∀ peer message code, kept peer (peer.fail message code))
    (ends : ∀ peer code reason, kept peer
      ((peer.close code reason).1, .closeReceived :: (peer.close code reason).2))
    (continues : ∀ peer buffer used, kept { peer with buffer := buffer } used → kept peer used)
    (ponged : ∀ peer payload used, kept peer used →
      kept peer (used.1, .pong payload :: used.2))
    (delivers : ∀ peer text bytes used, kept peer used →
      kept peer (used.1, .onText text bytes :: used.2))
    (peer : ServerWebSocketPeer) (chunk : List UInt8) : kept peer (peer.accept chunk) := by
  have frames : ∀ turns peer, kept peer (ServerWebSocketPeer.acceptFrames turns peer) := by
    intro turns
    induction turns with
    | zero => exact waits
    | succ turns ih =>
      intro peer
      unfold ServerWebSocketPeer.acceptFrames
      split
      next => exact waits peer
      next => exact fails peer _ _
      next opcode payload rest _ =>
        apply continues peer rest
        split
        next =>
          split
          next => exact fails _ _ _
          next => exact ends _ _ _
        next =>
          split
          next => exact ponged _ _ _ (ih _)
          next =>
            split
            next => exact ih _
            next =>
              split
              next => exact fails _ _ _
              next =>
                split
                next => exact fails _ _ _
                next => exact delivers _ _ _ _ (ih _)
  unfold ServerWebSocketPeer.accept
  split
  next => exact waits peer
  next => exact continues peer _ _ (frames _ _)

/-- A handler that takes the peer off the lists. -/
def unlists : PeerEvent → Bool
  | .onProtocolError _ => true
  | .onClose => true
  | _ => false

theorem accept_listed (peer : ServerWebSocketPeer) (chunk : List UInt8) :
    (peer.accept chunk).1.isClosed = false →
      peer.isClosed = false ∧ ∀ event ∈ (peer.accept chunk).2, unlists event = false := by
  have closes := fun (peer : ServerWebSocketPeer) code reason
    (isOpen : (peer.close code reason).1.isClosed = false) =>
      Bool.false_ne_true (isOpen.symm.trans (close_isClosed peer code reason))
  refine @accept_rule (fun peer used => used.1.isClosed = false →
    peer.isClosed = false ∧ ∀ event ∈ used.2, unlists event = false) ?_ ?_ ?_ ?_ ?_ ?_ peer chunk
  · exact fun peer isOpen => ⟨isOpen, by simp⟩
  · exact fun peer message code isOpen => (closes peer _ _ isOpen).elim
  · exact fun peer code reason isOpen => (closes peer _ _ isOpen).elim
  · exact fun peer buffer used => id
  · exact fun peer payload used later isOpen =>
      ⟨(later isOpen).1, List.forall_mem_cons.mpr ⟨rfl, (later isOpen).2⟩⟩
  · exact fun peer text bytes used later isOpen =>
      ⟨(later isOpen).1, List.forall_mem_cons.mpr ⟨rfl, (later isOpen).2⟩⟩

end OpenRill.Protocol.Sending
