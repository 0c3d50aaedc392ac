import OpenRill.Lib.FifoCache
import OpenRill.Lib.Runs
import OpenRill.Protocol.Registry
import OpenRill.Protocol.WebSocketCodec

/-!
# A connection of the local protocol server

What `attachLocalProtocolServer` keeps for one accepted upgrade, and its callbacks: bytes of
the socket, the handshake timer, the queued texts, the operation that a call waits for, the
notices of the host and its shutdown. Texts are handled one after the other, so that at most
one operation of a connection is under way. The log records what a connection did; no
callback reads it.
-/

namespace OpenRill.Protocol.ProtocolServer

open OpenRill.Lib OpenRill.Lib.Runs
open OpenRill.Protocol.Frames OpenRill.Protocol.Registry OpenRill.Protocol.WebSocketCodec

def maxPreauthPayloadBytes : Nat := 16 * 1024

def maxAuthenticatedPayloadBytes : Nat := 64 * 1024

def maxOutboundBufferBytes : Nat := 256 * 1024

def maxIdempotencyEntries : Nat := 128

structure NoticeWindow where
  capacity : Nat
  sequence : Nat
  retained : List NoticeFrame

def NoticeWindow.publish (window : NoticeWindow) (topic emittedAt : String) (data : Json) :
    NoticeWindow × NoticeFrame :=
  let notice := { topic, sequence := window.sequence + 1, emittedAt, data }
  let retained := window.retained ++ [notice]
  ({ window with
      sequence := window.sequence + 1
      retained := retained.drop (retained.length - window.capacity) }, notice)

structure NoticeReplay where
  resyncRequired : Bool
  cursor : Nat
  notices : List NoticeFrame

def NoticeWindow.replayAfter (window : NoticeWindow) (cursor : Option Nat) : NoticeReplay :=
  match cursor with
  | none => { resyncRequired := false, cursor := window.sequence, notices := [] }
  | some cursor =>
    let oldest := (window.retained.head?.map NoticeFrame.sequence).getD (window.sequence + 1)
    if window.sequence < cursor ∨ cursor < oldest - 1 then
      { resyncRequired := true, cursor := window.sequence, notices := [] }
    else
      { resyncRequired := false, cursor := cursor,
        notices := window.retained.filter (fun notice => cursor < notice.sequence) }

structure Host where
  profileToken : String
  numerals : Numerals
  registry : OperationRegistry

structure CachedResult where
  idempotencyKey : String
  operation : String
  inputCanonical : List Token
  result : ResultFrame

/-- How a call was taken: its operation goes to the registry, or its key is in the cache and
names the same call or another one. -/
inductive CallOrigin where
  | fresh
  | replay
  | conflict
  deriving DecidableEq

inductive ConnectionEvent where
  | delivered (text : List Char) (bytes : Nat)
  | closeReceived
  | protocolError (message : String)
  | handshakeRejected (frame : RejectedFrame)
  | handshakeTimedOut
  | closed (code : Nat) (reason : List UInt8)
  | pong (payload : List UInt8)
  | socketClosed
  | authenticated
  | handled (text : List Char) (bytes : Nat)
  | called (call : CallFrame)
  | invoked (call : CallFrame) (input : Json)
  | answered (call : CallFrame) (origin : CallOrigin) (result : ResultFrame) (written : Bool)
  | sent (frame : ServerProtocolFrame) (written : Bool)

structure Connection where
  peer : ServerWebSocketPeer
  destroyed : Bool
  authenticated : Bool
  preauthFrames : Nat
  preauthBytes : Nat
  handshakeTimer : Bool
  processing : List (List Char × Nat)
  running : Option (CallFrame × OperationDefinition)
  cache : List CachedResult
  inPeers : Bool
  inAllPeers : Bool
  queuedCloses : List (Nat × List Char)
  notices : NoticeWindow
  log : List ConnectionEvent

def Connection.record (state : Connection) (event : ConnectionEvent) : Connection :=
  { state with log := state.log ++ [event] }

/-- The handlers that the upgrade passed to the peer, and what the log keeps of the rest. -/
def onPeerEvent (state : Connection) : PeerEvent → Connection
  | .onText text bytes =>
    { state with processing := state.processing ++ [(text, bytes)] }.record (.delivered text bytes)
  | .onProtocolError message =>
    { state with handshakeTimer := false, inPeers := false, inAllPeers := false }.record
      (.protocolError message)
  | .onClose =>
    { state with handshakeTimer := false, inPeers := false, inAllPeers := false }.record
      .socketClosed
  | .closeReceived => state.record .closeReceived
  | .pong payload => state.record (.pong payload)
  | .closeSent code reason => state.record (.closed code reason)

def Connection.usePeer (state : Connection) (used : ServerWebSocketPeer × List PeerEvent) :
    Connection :=
  used.2.foldl onPeerEvent { state with peer := used.1 }

def Connection.closePeer (state : Connection) (code : Nat) (reason : List Char) : Connection :=
  state.usePeer (state.peer.close code reason)

def Connection.send (state : Connection) (pressure : Nat) : Connection × Bool :=
  if maxOutboundBufferBytes < pressure then
    ({ state.closePeer 1013 "slow consumer".toList with inPeers := false }, false)
  else (state, !state.peer.isClosed)

def Connection.sendFrame (state : Connection) (pressure : Nat) (frame : ServerProtocolFrame) :
    Connection :=
  (state.send pressure).1.record (.sent frame (state.send pressure).2)

def Connection.answer (state : Connection) (pressure : Nat) (call : CallFrame)
    (origin : CallOrigin) (result : ResultFrame) : Connection :=
  (state.send pressure).1.record (.answered call origin result (state.send pressure).2)

def Connection.sendNotices (state : Connection) : List Nat → List NoticeFrame → Connection
  | _, [] => state
  | pressures, notice :: rest =>
    (state.sendFrame (pressures.headD 0) (.notice notice)).sendNotices pressures.tail rest

def rejected (code : ProtocolRejectCode) (message : String) : RejectedFrame where
  code := code
  message := message
  retryable := false

def ProtocolRejectCode.reason : ProtocolRejectCode → String
  | .invalidHandshake => "invalid_handshake"
  | .protocolMismatch => "protocol_mismatch"
  | .authFailed => "auth_failed"

/-- `failHandshake`: the peer is closed in a microtask. -/
def Connection.failHandshake (state : Connection) (pressure : Nat) (frame : RejectedFrame)
    (closeCode : Nat) : Connection :=
  let state := ({ state with handshakeTimer := false }.record (.handshakeRejected frame)).sendFrame
    pressure (.rejected frame)
  { state with queuedCloses := state.queuedCloses ++
      [(closeCode, (ProtocolRejectCode.reason frame.code).toList)] }

/-- The token comparison, on the bytes of both. -/
def tokenMatches (actual expected : String) : Bool :=
  decide (Utf8.encode actual.toList = Utf8.encode expected.toList)

/-- The checks on the text of the first frame, in their order: the protocol and the frame, or
the rejection and its close code. -/
def admission (host : Host) (text : List Char) : Except (RejectedFrame × Nat) (Nat × OpenFrame) :=
  match parseJsonFrame text with
  | .error message => .error (rejected .invalidHandshake message, 1008)
  | .ok value =>
    match validateOpenFrame host.numerals value with
    | .error message => .error (rejected .invalidHandshake message, 1008)
    | .ok opened =>
      match negotiateProtocol opened.minProtocol opened.maxProtocol openrillProtocolMin
          openrillProtocolMax with
      | none => .error (rejected .protocolMismatch "no compatible protocol version", 1002)
      | some protocol =>
        if tokenMatches opened.token host.profileToken then .ok (protocol, opened)
        else .error (rejected .authFailed "profile authentication failed", 1008)

/-- A text of a connection that is not authenticated. -/
def handleOpen (host : Host) (welcome : Welcome) (pressures : List Nat) (state : Connection)
    (text : List Char) (bytes : Nat) : Connection :=
  let state := { state with
    preauthFrames := state.preauthFrames + 1
    preauthBytes := state.preauthBytes + bytes }
  if 1 < state.preauthFrames then
    state.failHandshake (pressures.headD 0)
      (rejected .invalidHandshake "only one pre-auth frame is allowed") 1008
  else if maxPreauthPayloadBytes < state.preauthBytes then
    state.failHandshake (pressures.headD 0)
      (rejected .invalidHandshake "pre-auth payload is too large") 1009
  else
    match admission host text with
    | .error (frame, closeCode) => state.failHandshake (pressures.headD 0) frame closeCode
    | .ok (protocol, opened) =>
      let state := { state with
        authenticated := true, handshakeTimer := false, inPeers := true }.record .authenticated
      let replay := state.notices.replayAfter opened.cursor
      let state := state.sendFrame (pressures.headD 0) (.accepted {
        protocol, welcome, operations := host.registry.capabilities
        cursor := replay.cursor, resyncRequired := replay.resyncRequired })
      if replay.resyncRequired then state
      else state.sendNotices pressures.tail replay.notices

def invalidResult (callId : String) (code : ProtocolOperationErrorCode) (message : String) :
    ResultFrame :=
  failure callId code message false

def findCached (cache : List CachedResult) (key : String) : Option CachedResult :=
  FifoCache.find CachedResult.idempotencyKey cache key

/-- `cache.set` of a key that is not in the cache, and the eviction of the oldest entries. -/
def cacheResult (cache : List CachedResult) (entry : CachedResult) : List CachedResult :=
  FifoCache.put maxIdempotencyEntries cache entry

def entryOf (host : Host) (call : CallFrame) (result : ResultFrame) : CachedResult where
  idempotencyKey := call.idempotencyKey
  operation := call.operation
  inputCanonical := canonical host.numerals.stringified call.input
  result := result

/-- The end of `handleCall`, when the registry has answered. -/
def Connection.conclude (state : Connection) (host : Host) (pressure : Nat) (call : CallFrame)
    (result : ResultFrame) : Connection :=
  { state with cache := cacheResult state.cache (entryOf host call result) }.answer pressure call
    .fresh result

def handleCall (host : Host) (pressure : Nat) (state : Connection) (call : CallFrame) :
    Connection :=
  let state := state.record (.called call)
  match findCached state.cache call.idempotencyKey with
  | some existing =>
    if existing.operation ≠ call.operation ∨
        existing.inputCanonical ≠ canonical host.numerals.stringified call.input then
      state.answer pressure call .conflict
        (invalidResult call.callId .idempotencyConflict
          "idempotency key was already used with different input")
    else
      state.answer pressure call .replay
        { existing.result with callId := call.callId, replayed := true }
  | none =>
    match host.registry.invoke call.callId call.operation call.input with
    | .error result => state.conclude host pressure call result
    | .ok (definition, input) =>
      { state with running := some (call, definition) }.record (.invoked call input)

def callOf (text : List Char) : Except String CallFrame := do
  let value ← parseJsonFrame text
  validateCallFrame value

def handleText (host : Host) (welcome : Welcome) (pressures : List Nat) (state : Connection)
    (text : List Char) (bytes : Nat) : Connection :=
  if state.authenticated = false then handleOpen host welcome pressures state text bytes
  else if maxAuthenticatedPayloadBytes < bytes then
    state.closePeer 1009 "payload too large".toList
  else
    match callOf text with
    | .error message =>
      state.sendFrame (pressures.headD 0) (.result (invalidResult "unknown" .invalidFrame message))
    | .ok call => handleCall host (pressures.headD 0) state call

/-- What can happen to a connection. The bytes that wait in its socket are given where a
frame is sent. -/
inductive ConnectionOp where
  | data (chunk : List UInt8)
  | socketEnds
  | handshakeTimeout
  | handleNext (welcome : Welcome) (pressures : List Nat)
  | operationEnds (outcome : Except HostError Json) (pressure : Nat)
  | queuedClose
  | forceClose
  | publishNotice (topic emittedAt : String) (data : Json) (pressure : Nat)
  | closeAll

def Connection.broadcast (state : Connection) (pressure : Nat) (notice : NoticeFrame) :
    Connection :=
  if state.inPeers then state.sendFrame pressure (.notice notice) else state

def step (host : Host) (state : Connection) : ConnectionOp → Connection
  | .data chunk => if state.destroyed then state else state.usePeer (state.peer.accept chunk)
  | .socketEnds => state.usePeer state.peer.finish
  | .handshakeTimeout =>
    if state.handshakeTimer then
      let state := { state with handshakeTimer := false }
      if state.authenticated then state
      else
        ((state.record .handshakeTimedOut).record
          (.sent (.rejected (rejected .invalidHandshake "handshake timeout"))
            (!state.peer.isClosed))).closePeer 1008 "handshake timeout".toList
    else state
  | .handleNext welcome pressures =>
    match state.running, state.processing with
    | none, (text, bytes) :: rest =>
      handleText host welcome pressures
        ({ state with processing := rest }.record (.handled text bytes)) text bytes
    | _, _ => state
  | .operationEnds outcome pressure =>
    match state.running with
    | some (call, definition) =>
      { state with running := none }.conclude host pressure call
        (settled call.callId definition.validateOutput outcome)
    | none => state
  | .queuedClose =>
    match state.queuedCloses with
    | (code, reason) :: rest => { state with queuedCloses := rest }.closePeer code reason
    | [] => state
  | .forceClose =>
    if state.peer.isClosed then { state with destroyed := true } else state
  | .publishNotice topic emittedAt data pressure =>
    let published := state.notices.publish topic emittedAt data
    { state with notices := published.1 }.broadcast pressure published.2
  | .closeAll =>
    if state.inAllPeers then
      { state.closePeer 1001 "host stopping".toList with
          destroyed := true, inPeers := false, inAllPeers := false }
    else state

def Connection.initial (notices : NoticeWindow) : Connection where
  peer := .initial
  destroyed := false
  authenticated := false
  preauthFrames := 0
  preauthBytes := 0
  handshakeTimer := true
  processing := []
  running := none
  cache := []
  inPeers := false
  inAllPeers := false
  queuedCloses := []
  notices := notices
  log := []

/-- An accepted upgrade: the peer takes the bytes that came with the request, then the
connection is listed. -/
def start (notices : NoticeWindow) (head : List UInt8) : Connection :=
  let state := Connection.initial notices
  { state.usePeer (state.peer.accept head) with inAllPeers := true }

def reach (host : Host) (notices : NoticeWindow) (head : List UInt8)
    (ops : List ConnectionOp) : Connection :=
  run (step host) (start notices head) ops

end OpenRill.Protocol.ProtocolServer
