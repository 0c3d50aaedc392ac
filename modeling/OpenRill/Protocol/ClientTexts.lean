import OpenRill.Protocol.ProtocolServer

/-!
# What a client writes

The call of a client as a document, and a text as a masked frame. A peer between two frames
delivers the text of the frame.
-/

namespace OpenRill.Protocol.ClientTexts

open OpenRill.Lib
open OpenRill.Protocol.Frames OpenRill.Protocol.ProtocolServer OpenRill.Protocol.WebSocketCodec

def callDocument (call : CallFrame) : Json :=
  .object [
    ("type", .text "call"),
    ("callId", .text call.callId),
    ("idempotencyKey", .text call.idempotencyKey),
    ("operation", .text call.operation),
    ("input", call.input)]

variable {text : List Char} {peer : ServerWebSocketPeer}

theorem text_opcode : 0x1 < 16 := by
  decide

def textFrame (text : List Char) (bounded : (Utf8.encode text).length ≤ maxSafePayload) :
    ClientFrame where
  opcode := 0x1
  form := .long
  mask := [0, 0, 0, 0]
  payload := Utf8.encode text
  opcode_small := text_opcode
  mask_length := rfl
  fits := by
    intro short
    contradiction
  medium_fits := by
    intro medium
    contradiction
  payload_bounded := bounded
  control_short := by
    intro control
    omega

def textWire (text : List Char) : List UInt8 :=
  0x81 :: 0xFF :: (numberBytes 8 (Utf8.encode text).length ++ [0, 0, 0, 0] ++
    unmask [0, 0, 0, 0] (Utf8.encode text))

theorem textFrame_wire (text : List Char)
    (bounded : (Utf8.encode text).length ≤ maxSafePayload) :
    (textFrame text bounded).wire = textWire text := rfl

theorem decodeText_encode (unmarked : text.head? ≠ some Utf8.byteOrderMark) :
    decodeText (Utf8.encode text) = some text := by
  obtain ⟨decoder, finished, decoded⟩ := Utf8.decode_initial unmarked
  have finish : decoder.finish = true := decide_eq_true finished
  unfold decodeText
  rw [decoded, Option.bind_some, if_pos finish]

theorem acceptFrames_empty (turns : Nat) (empty : peer.buffer = []) :
    peer.acceptFrames turns = (peer, []) := by
  cases turns with
  | zero => rfl
  | succ turns =>
    unfold ServerWebSocketPeer.acceptFrames
    rw [empty]
    rfl

theorem accept_text (bounded : (Utf8.encode text).length ≤ maxSafePayload)
    (unmarked : text.head? ≠ some Utf8.byteOrderMark) (empty : peer.buffer = [])
    (unclosed : peer.closed = false) :
    peer.accept (textWire text) = (peer, [.onText text (Utf8.encode text).length]) := by
  have read := readFrame_wire (textFrame text bounded) []
  rw [List.append_nil, textFrame_wire] at read
  have decoded := decodeText_encode unmarked
  rcases peer with ⟨buffer, closing, closed⟩
  cases empty
  cases unclosed
  have later (turns : Nat) : ServerWebSocketPeer.acceptFrames turns
      { buffer := [], closing := closing, closed := false } =
        ({ buffer := [], closing := closing, closed := false }, []) :=
    acceptFrames_empty turns rfl
  unfold ServerWebSocketPeer.accept
  rw [if_neg Bool.false_ne_true, List.nil_append]
  rw [ServerWebSocketPeer.acceptFrames]
  rw [read]
  simp [textFrame, decoded, later]

end OpenRill.Protocol.ClientTexts
