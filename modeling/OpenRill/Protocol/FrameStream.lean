import OpenRill.Protocol.WebSocketCodec

/-!
# Frames in any chunks

What a peer makes of whole frames does not depend on how their bytes are cut into
chunks. The decoder takes a byte order mark away from the beginning of a text, and a
frame that the server writes says its length in four bytes at most.
-/

namespace OpenRill.Protocol.FrameStream

open Lib.Utf8 WebSocketCodec

variable {buffer more : List UInt8} {message : String} {code : Nat}

def encodeFrame (opcode : Nat) (payload : List UInt8) : List UInt8 :=
  let length := payload.length
  let byte (shift : Nat) : UInt8 := UInt8.ofNat (length / 2 ^ shift)
  let header :=
    if length < 126 then [UInt8.ofNat length]
    else if length ≤ 0xffff then [126, byte 8, byte 0]
    else [127, 0, 0, 0, 0, byte 24, byte 16, byte 8, byte 0]
  UInt8.ofNat (0x80 ||| opcode) :: header ++ payload

def headerLength (frame : List UInt8) : Nat :=
  match frame.drop 1 with
  | [] => 0
  | field :: rest =>
    if field &&& 0x7f = 126 then bigEndian (rest.take 2)
    else if field &&& 0x7f = 127 then bigEndian (rest.take 8)
    else (field &&& 0x7f).toNat

theorem headerLength_encodeFrame (opcode : Nat) (payload : List UInt8) :
    headerLength (encodeFrame opcode payload) = payload.length % 2 ^ 32 := by
  have byte {shift : Nat} : (UInt8.ofNat (payload.length / 2 ^ shift)).toNat
      = payload.length / 2 ^ shift % 256 := UInt8.toNat_ofNat'
  unfold encodeFrame
  dsimp only
  split
  · next short =>
    have field : UInt8.ofNat payload.length &&& 0x7f = UInt8.ofNat payload.length ∧
        UInt8.ofNat payload.length ≠ 126 ∧ UInt8.ofNat payload.length ≠ 127 := by
      revert short
      generalize payload.length = length
      revert length
      decide
    unfold headerLength
    simp only [List.cons_append, List.drop_succ_cons, List.drop_zero, field.1, if_neg field.2.1,
      if_neg field.2.2, UInt8.toNat_ofNat']
    omega
  · split
    · unfold headerLength
      simp only [List.cons_append, List.drop_succ_cons, List.drop_zero]
      rw [if_pos (by decide)]
      simp only [List.take_succ_cons, List.nil_append, List.take_zero, bigEndian, List.foldl_cons,
        List.foldl_nil, byte]
      omega
    · unfold headerLength
      simp only [List.cons_append, List.drop_succ_cons, List.drop_zero]
      rw [if_neg (by decide), if_pos (by decide)]
      simp only [List.take_succ_cons, List.nil_append, List.take_zero, bigEndian, List.foldl_cons,
        List.foldl_nil, byte]
      simp
      omega

inductive Message where
  | text (chars : List Char)
  | ping (payload : List UInt8)
  | pong (payload : List UInt8)

def Carries (frame : ClientFrame) : Message → Prop
  | .text chars => frame.opcode = 0x1 ∧ frame.payload = encode chars
  | .ping payload => frame.opcode = 0x9 ∧ frame.payload = payload
  | .pong payload => frame.opcode = 0xA ∧ frame.payload = payload

def Message.answer : Message → List PeerEvent
  | .text chars => [.onText chars (encode chars).length]
  | .ping payload => [.pong payload]
  | .pong _ => []

def Message.handled : Message → List PeerEvent
  | .text chars =>
    [.onText (if chars.head? = some byteOrderMark then chars.tail else chars)
      (encode chars).length]
  | .ping payload => [.pong payload]
  | .pong _ => []

def acceptAll (peer : ServerWebSocketPeer) :
    List (List UInt8) → ServerWebSocketPeer × List PeerEvent
  | [] => (peer, [])
  | chunk :: chunks =>
    let (reached, events) := peer.accept chunk
    let (last, later) := acceptAll reached chunks
    (last, events ++ later)

theorem decodeText_encode (chars : List Char) :
    decodeText (encode chars) =
      some (if chars.head? = some byteOrderMark then chars.tail else chars) := by
  unfold decodeText
  split
  · next marked =>
    cases chars with
    | nil => cases marked
    | cons char rest =>
      rw [List.head?_cons, Option.some.injEq] at marked
      rw [marked, decode_marked]
      rfl
  · next unmarked =>
    obtain ⟨decoder, left, decoded⟩ := decode_initial unmarked
    rw [decoded]
    simp [Decoder.finish, left]

theorem readBody_refused {opcode length offset : Nat}
    (refused : readBody buffer opcode length offset = .refused message code) :
    readBody (buffer ++ more) opcode length offset = .refused message code := by
  unfold readBody at refused ⊢
  split at refused
  · next large => rw [if_pos large, refused]
  · split at refused <;> cases refused

/-- What is refused stays refused when more bytes arrive. -/
theorem readFrame_refused (refused : readFrame buffer = .refused message code) :
    readFrame (buffer ++ more) = .refused message code := by
  unfold readFrame at refused ⊢
  split at refused
  next first second rest =>
    dsimp only [List.cons_append] at refused ⊢
    split at refused
    · next broken => rw [if_pos broken, refused]
    next whole =>
    rw [if_neg whole]
    split at refused
    · next large => rw [if_pos large, refused]
    next small =>
    rw [if_neg small]
    split at refused
    · next plain => rw [if_pos plain, refused]
    next masked =>
    rw [if_neg masked]
    unfold readLength at refused ⊢
    have longer : ((first :: second :: rest) ++ more).length
        = (first :: second :: rest).length + more.length := List.length_append
    rw [← List.cons_append, ← List.cons_append]
    split at refused
    · next medium =>
      rw [if_pos medium]
      split at refused
      · cases refused
      next enough =>
      rw [if_neg (by omega), List.drop_append_of_le_length (by omega),
        List.take_append_of_le_length (by rw [List.length_drop]; omega)]
      exact readBody_refused refused
    next notMedium =>
    rw [if_neg notMedium]
    split at refused
    · next long =>
      rw [if_pos long]
      split at refused
      · cases refused
      next enough =>
      rw [if_neg (by omega), List.drop_append_of_le_length (by omega),
        List.take_append_of_le_length (by rw [List.length_drop]; omega),
        List.drop_append_of_le_length (by omega),
        List.take_append_of_le_length (by rw [List.length_drop]; omega)]
      split at refused
      · next high => rw [if_pos high, refused]
      · next low =>
        rw [if_neg low]
        exact readBody_refused refused
    next short =>
    rw [if_neg short]
    exact readBody_refused refused
  next => cases refused

theorem readFrame_beginning (frame : ClientFrame) (cut : frame.wire = buffer ++ more)
    (missing : more ≠ []) : readFrame buffer = .incomplete := by
  have whole := readFrame_wire frame []
  rw [List.append_nil, cut] at whole
  cases read : readFrame buffer with
  | incomplete => rfl
  | refused message code =>
    rw [readFrame_refused read] at whole
    cases whole
  | frame opcode payload rest =>
    obtain ⟨other, rfl, rfl, written⟩ := readFrame_frame read
    rw [written, List.append_assoc, readFrame_wire] at whole
    simp only [FrameRead.frame.injEq, List.append_eq_nil_iff] at whole
    exact absurd whole.2.2.2 missing

variable {frames : List ClientFrame} {messages : List Message}

def Settles (peer : ServerWebSocketPeer) (messages : List Message) (later : List UInt8)
    (result : ServerWebSocketPeer × List PeerEvent) : Prop :=
  result.1.closed = peer.closed ∧ readFrame result.1.buffer = .incomplete ∧
    ∃ frames unsaid, List.Forall₂ Carries frames unsaid ∧
      result.1.buffer ++ later = frames.flatMap ClientFrame.wire ∧
      messages.flatMap Message.handled = result.2 ++ unsaid.flatMap Message.handled

theorem acceptFrames_wire {turns : Nat} {peer : ServerWebSocketPeer} {frame : ClientFrame}
    {message : Message} {rest : List UInt8} (carries : Carries frame message)
    (isBuffer : peer.buffer = frame.wire ++ rest) :
    peer.acceptFrames (turns + 1) =
      ((ServerWebSocketPeer.acceptFrames turns { peer with buffer := rest }).1, message.handled
        ++ (ServerWebSocketPeer.acceptFrames turns { peer with buffer := rest }).2) := by
  rw [ServerWebSocketPeer.acceptFrames, isBuffer, readFrame_wire]
  cases message with
  | text chars =>
    obtain ⟨isText, isPayload⟩ := carries
    simp [isText, isPayload, decodeText_encode, Message.handled]
  | ping payload =>
    obtain ⟨isPing, isPayload⟩ := carries
    simp [isPing, isPayload, Message.handled]
  | pong payload =>
    obtain ⟨isPong, isPayload⟩ := carries
    simp [isPong, Message.handled]

theorem acceptFrames_settles (carries : List.Forall₂ Carries frames messages) (turns : Nat)
    (peer : ServerWebSocketPeer) (later : List UInt8)
    (spelled : peer.buffer ++ later = frames.flatMap ClientFrame.wire)
    (enough : peer.buffer.length < turns) :
    Settles peer messages later (peer.acceptFrames turns) := by
  induction turns generalizing peer frames messages with
  | zero => omega
  | succ turns ih =>
    have unread (incomplete : readFrame peer.buffer = .incomplete) :
        Settles peer messages later (peer.acceptFrames (turns + 1)) := by
      rw [ServerWebSocketPeer.acceptFrames, incomplete]
      exact ⟨rfl, incomplete, frames, messages, carries, spelled, rfl⟩
    cases carries with
    | nil =>
      apply unread
      rw [(List.append_eq_nil_iff.mp spelled).1]
      rfl
    | @cons frame message frames messages carried others =>
      by_cases whole : ∃ rest, peer.buffer = frame.wire ++ rest
      · obtain ⟨rest, isBuffer⟩ := whole
        rw [isBuffer, List.append_assoc] at spelled
        have longer := congrArg List.length isBuffer
        rw [List.length_append, ClientFrame.wire, List.length_cons] at longer
        obtain ⟨isOpen, incomplete, left, unsaid, carriesLeft, isTail, same⟩ :=
          ih others { peer with buffer := rest } (List.append_cancel_left spelled)
            (by change rest.length < turns; omega)
        rw [acceptFrames_wire carried isBuffer]
        refine ⟨isOpen, incomplete, left, unsaid, carriesLeft, isTail, ?_⟩
        rw [List.flatMap_cons, same, List.append_assoc]
      · rcases List.append_eq_append_iff.mp spelled with ⟨more, isWire, -⟩ | ⟨rest, isBuffer, -⟩
        · apply unread
          refine readFrame_beginning frame isWire fun nothing => whole ⟨[], ?_⟩
          rw [isWire, nothing, List.append_nil, List.append_nil]
        · exact absurd ⟨rest, isBuffer⟩ whole

/-- An open peer handles the frames of the bytes it has and gets, in any chunks. -/
theorem acceptAll_handles (chunks : List (List UInt8)) (peer : ServerWebSocketPeer)
    (carries : List.Forall₂ Carries frames messages) (isOpen : peer.closed = false)
    (unread : readFrame peer.buffer = .incomplete)
    (spelled : peer.buffer ++ chunks.flatten = frames.flatMap ClientFrame.wire) :
    (acceptAll peer chunks).2 = messages.flatMap Message.handled := by
  induction chunks generalizing peer frames messages with
  | nil =>
    cases carries with
    | nil => rfl
    | @cons frame message frames messages carried others =>
      rw [List.flatten_nil, List.append_nil, List.flatMap_cons] at spelled
      rw [spelled, readFrame_wire] at unread
      cases unread
  | cons chunk chunks ih =>
    rw [List.flatten_cons, ← List.append_assoc] at spelled
    have taken : peer.accept chunk = ServerWebSocketPeer.acceptFrames
        ((peer.buffer ++ chunk).length + 1) { peer with buffer := peer.buffer ++ chunk } := by
      rw [ServerWebSocketPeer.accept, if_neg (by rw [isOpen]; exact Bool.false_ne_true)]
    obtain ⟨stillOpen, incomplete, left, unsaid, carriesLeft, isTail, same⟩ :=
      acceptFrames_settles carries ((peer.buffer ++ chunk).length + 1)
        { peer with buffer := peer.buffer ++ chunk } chunks.flatten spelled (Nat.lt_succ_self _)
    rw [← taken] at stillOpen incomplete isTail same
    rw [acceptAll, same, ← ih (peer.accept chunk).1 carriesLeft (stillOpen.trans isOpen) incomplete
      isTail]

theorem handled_answer_iff (message : Message) : message.handled = message.answer ↔
    ∀ chars, message = .text chars → chars.head? ≠ some byteOrderMark := by
  cases message with
  | text chars =>
    simp only [Message.handled, Message.answer]
    constructor
    · rintro same _ ⟨⟩ marked
      rw [if_pos marked, List.cons.injEq, PeerEvent.onText.injEq] at same
      have shorter := congrArg List.length same.1.1
      rw [List.length_tail] at shorter
      cases chars with
      | nil => cases marked
      | cons char rest =>
        rw [List.length_cons] at shorter
        omega
    · intro unmarked
      rw [if_neg (unmarked chars rfl)]
  | ping payload => simp [Message.handled, Message.answer]
  | pong payload => simp [Message.handled, Message.answer]

theorem all_handled_iff (messages : List Message) :
    messages.flatMap Message.handled = messages.flatMap Message.answer ↔
      ∀ chars, .text chars ∈ messages → chars.head? ≠ some byteOrderMark := by
  induction messages with
  | nil => simp
  | cons message messages ih =>
    have length : message.handled.length = message.answer.length := by
      cases message <;> rfl
    rw [List.flatMap_cons, List.flatMap_cons]
    constructor
    · intro same chars textIn
      obtain ⟨first, others⟩ := List.append_inj same length
      rcases List.mem_cons.mp textIn with isFirst | textIn
      · exact (handled_answer_iff message).mp first chars isFirst.symm
      · exact ih.mp others chars textIn
    · intro unmarked
      rw [(handled_answer_iff message).mpr fun chars isText =>
          unmarked chars (isText ▸ List.mem_cons_self),
        ih.mpr fun chars textIn => unmarked chars (List.mem_cons_of_mem _ textIn)]

/-- The peer hands every text over as it was sent, answers every ping and reports nothing
else, however the bytes are cut, exactly when no text begins with a byte order mark; and a
frame of the server says the length of its payload exactly when four bytes hold it. -/
theorem frames_decoded_iff (carries : List.Forall₂ Carries frames messages)
    (chunks : List (List UInt8))
    (spelled : chunks.flatten = frames.flatMap ClientFrame.wire) :
    ((acceptAll .initial chunks).2 = messages.flatMap Message.answer ↔
      ∀ chars, .text chars ∈ messages → chars.head? ≠ some byteOrderMark) ∧
      ∀ opcode payload, headerLength (encodeFrame opcode payload) = payload.length ↔
        payload.length < 2 ^ 32 := by
  constructor
  · rw [acceptAll_handles chunks .initial carries rfl rfl spelled]
    exact all_handled_iff messages
  · intro opcode payload
    rw [headerLength_encodeFrame]
    exact ⟨fun same => same ▸ Nat.mod_lt _ (by decide), Nat.mod_eq_of_lt⟩

def textFrame (payload : List UInt8) (small : payload.length < 126) : ClientFrame where
  opcode := 0x1
  form := .short
  mask := [1, 2, 3, 4]
  payload := payload
  opcode_small := by decide
  mask_length := rfl
  fits := fun _ => small
  medium_fits := fun isMedium => nomatch isMedium
  payload_bounded := by unfold maxSafePayload; omega
  control_short := by decide

theorem split_frame_decoded :
    ((acceptAll .initial [(textFrame [104] (by decide)).wire.take 3,
        (textFrame [104] (by decide)).wire.drop 3]).2 =
      [Message.text ['h']].flatMap Message.answer ↔
      ∀ chars, .text chars ∈ [Message.text ['h']] → chars.head? ≠ some byteOrderMark) ∧
      ∀ opcode payload, headerLength (encodeFrame opcode payload) = payload.length ↔
        payload.length < 2 ^ 32 :=
  frames_decoded_iff (.cons (show Carries (textFrame [104] (by decide)) (.text ['h']) from
    ⟨rfl, by decide⟩) .nil) _ (by decide)

/-- The mark at the beginning of the text `U+FEFF h` is lost. -/
theorem marked_text_not_handed_over :
    (acceptAll .initial [(textFrame [0xef, 0xbb, 0xbf, 104] (by decide)).wire]).2 ≠
      [Message.text [byteOrderMark, 'h']].flatMap Message.answer := by
  decide

end OpenRill.Protocol.FrameStream
