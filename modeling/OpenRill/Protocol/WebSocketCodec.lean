import Mathlib
import OpenRill.Lib.Utf8

/-!
# The server's end of a local protocol socket

`ServerWebSocketPeer` cuts the bytes of a socket into frames, as they arrive, and hands the
text frames to its handlers. Beside the reader stands the frame a client writes: the reader
returns what was written, and a frame that it returns was written so.
-/

namespace OpenRill.Protocol.WebSocketCodec

open Lib.Utf8

variable {buffer payload rest : List UInt8} {opcode : Nat}

def maxSafePayload : Nat := 1024 * 1024

inductive FrameRead where
  | incomplete
  | refused (message : String) (code : Nat)
  | frame (opcode : Nat) (payload rest : List UInt8)
  deriving DecidableEq

def bigEndian (bytes : List UInt8) : Nat :=
  bytes.foldl (fun value byte => value * 256 + byte.toNat) 0

def unmask (mask payload : List UInt8) : List UInt8 :=
  payload.mapIdx (fun index byte => byte ^^^ mask.getD (index % 4) 0)

def readBody (buffer : List UInt8) (opcode length offset : Nat) : FrameRead :=
  if maxSafePayload < length then .refused "frame payload is too large" 1009
  else if buffer.length < offset + 4 + length then .incomplete
  else
    .frame opcode
      (unmask ((buffer.drop offset).take 4) ((buffer.drop (offset + 4)).take length))
      (buffer.drop (offset + 4 + length))

def readLength (buffer : List UInt8) (opcode length : Nat) : FrameRead :=
  if length = 126 then
    if buffer.length < 4 then .incomplete
    else readBody buffer opcode (bigEndian ((buffer.drop 2).take 2)) 4
  else if length = 127 then
    if buffer.length < 10 then .incomplete
    else if bigEndian ((buffer.drop 2).take 4) ≠ 0 then
      .refused "frame payload is too large" 1009
    else readBody buffer opcode (bigEndian ((buffer.drop 6).take 4)) 10
  else readBody buffer opcode length 2

def readFrame (buffer : List UInt8) : FrameRead :=
  match buffer with
  | first :: second :: _ =>
    let opcode := (first &&& 0x0f).toNat
    let length := (second &&& 0x7f).toNat
    if first &&& 0x80 = 0 ∨ first &&& 0x70 ≠ 0 then
      .refused "fragmented or extended frames are not supported" 1003
    else if 8 ≤ opcode ∧ 125 < length then .refused "control frame payload is too large" 1002
    else if second &&& 0x80 = 0 then .refused "client frames must be masked" 1002
    else readLength buffer opcode length
  | _ => .incomplete

/-- `decoder.decode(payload)` of the fatal decoder. -/
def decodeText (payload : List UInt8) : Option (List Char) :=
  (Decoder.initial.decode payload).bind
    (fun decoded => if decoded.1.finish then some decoded.2 else none)

structure ServerWebSocketPeer where
  buffer : List UInt8
  closing : Bool
  closed : Bool
  deriving DecidableEq

/-- What a peer does when it is used: it calls its handlers, sends control frames and reads
the client's Close frame. -/
inductive PeerEvent where
  | onText (text : List Char) (bytes : Nat)
  | onProtocolError (message : String)
  | onClose
  | closeReceived
  | pong (payload : List UInt8)
  | closeSent (code : Nat) (reason : List UInt8)
  deriving DecidableEq

def ServerWebSocketPeer.initial : ServerWebSocketPeer where
  buffer := []
  closing := false
  closed := false

def ServerWebSocketPeer.isClosed (peer : ServerWebSocketPeer) : Bool := peer.closed || peer.closing

def ServerWebSocketPeer.close (peer : ServerWebSocketPeer) (code : Nat) (reason : List Char) :
    ServerWebSocketPeer × List PeerEvent :=
  if peer.isClosed then (peer, [])
  else ({ peer with closing := true }, [.closeSent code ((encode reason).take 123)])

def ServerWebSocketPeer.finish (peer : ServerWebSocketPeer) :
    ServerWebSocketPeer × List PeerEvent :=
  if peer.closed then (peer, [])
  else ({ peer with closed := true, closing := false }, [.onClose])

def ServerWebSocketPeer.fail (peer : ServerWebSocketPeer) (message : String) (code : Nat) :
    ServerWebSocketPeer × List PeerEvent :=
  let (closing, events) := peer.close code message.toList
  (closing, .onProtocolError message :: events)

def closeReason (payload : List UInt8) : List Char :=
  if 2 < payload.length then
    (decodeText (payload.drop 2)).getD "invalid close reason".toList
  else []

def closeCode (payload : List UInt8) : Nat :=
  if 2 ≤ payload.length then bigEndian (payload.take 2) else 1000

/-- The loop of `accept`. Every frame is longer than one byte, so that the length of the
buffer bounds the turns. -/
def ServerWebSocketPeer.acceptFrames :
    Nat → ServerWebSocketPeer → ServerWebSocketPeer × List PeerEvent
  | 0, peer => (peer, [])
  | turns + 1, peer =>
    match readFrame peer.buffer with
    | .incomplete => (peer, [])
    | .refused message code => peer.fail message code
    | .frame opcode payload rest =>
      let peer := { peer with buffer := rest }
      if opcode = 0x8 then
        if payload.length = 1 then peer.fail "invalid close frame payload" 1002
        else
          let (closing, events) := peer.close (closeCode payload) (closeReason payload)
          (closing, .closeReceived :: events)
      else if opcode = 0x9 then
        let (later, events) := acceptFrames turns peer
        (later, .pong payload :: events)
      else if opcode = 0xA then acceptFrames turns peer
      else if opcode ≠ 0x1 then peer.fail "only UTF-8 text frames are supported" 1003
      else
        match decodeText payload with
        | none => peer.fail "text frame is not valid UTF-8" 1007
        | some text =>
          let (later, events) := acceptFrames turns peer
          (later, .onText text payload.length :: events)

def ServerWebSocketPeer.accept (peer : ServerWebSocketPeer) (chunk : List UInt8) :
    ServerWebSocketPeer × List PeerEvent :=
  if peer.closed then (peer, [])
  else
    let buffer := peer.buffer ++ chunk
    ServerWebSocketPeer.acceptFrames (buffer.length + 1) { peer with buffer := buffer }

/-- How a client writes the length of a payload. -/
inductive LengthForm where
  | short
  | medium
  | long
  deriving DecidableEq

def LengthForm.field (length : Nat) : LengthForm → Nat
  | .short => length
  | .medium => 126
  | .long => 127

def numberBytes : Nat → Nat → List UInt8
  | 0, _ => []
  | count + 1, number => numberBytes count (number / 256) ++ [UInt8.ofNat number]

def LengthForm.extension (length : Nat) : LengthForm → List UInt8
  | .short => []
  | .medium => numberBytes 2 length
  | .long => numberBytes 8 length

structure ClientFrame where
  opcode : Nat
  form : LengthForm
  mask : List UInt8
  payload : List UInt8
  opcode_small : opcode < 16
  mask_length : mask.length = 4
  fits : form = .short → payload.length < 126
  medium_fits : form = .medium → payload.length < 65536
  payload_bounded : payload.length ≤ maxSafePayload
  control_short : 8 ≤ opcode → form = .short

def ClientFrame.wire (frame : ClientFrame) : List UInt8 :=
  UInt8.ofNat (128 + frame.opcode) ::
    UInt8.ofNat (128 + frame.form.field frame.payload.length) ::
      (frame.form.extension frame.payload.length ++ frame.mask ++ unmask frame.mask frame.payload)

theorem bigEndian_append_one (bytes : List UInt8) (byte : UInt8) :
    bigEndian (bytes ++ [byte]) = bigEndian bytes * 256 + byte.toNat := by
  simp [bigEndian]

@[simp] theorem length_numberBytes (count number : Nat) :
    (numberBytes count number).length = count := by
  induction count generalizing number with
  | zero => rfl
  | succ count ih => rw [numberBytes, List.length_append, ih, List.length_singleton]

theorem bigEndian_numberBytes (count number : Nat) :
    bigEndian (numberBytes count number) = number % 256 ^ count := by
  induction count generalizing number with
  | zero =>
    rw [Nat.pow_zero, Nat.mod_one]
    rfl
  | succ count ih =>
    have parts : number % (256 * 256 ^ count) =
        number % 256 + 256 * (number / 256 % 256 ^ count) := Nat.mod_mul
    have low : (UInt8.ofNat number).toNat = number % 256 := UInt8.toNat_ofNat'
    rw [numberBytes, bigEndian_append_one, ih, low, Nat.pow_succ', parts]
    omega

theorem numberBytes_bigEndian (bytes : List UInt8) :
    numberBytes bytes.length (bigEndian bytes) = bytes := by
  induction bytes using List.reverseRecOn with
  | nil => rfl
  | append_singleton bytes byte ih =>
    have small : byte.toNat < 256 := byte.toNat_lt
    have quotient : (bigEndian bytes * 256 + byte.toNat) / 256 = bigEndian bytes := by omega
    have low : UInt8.ofNat (bigEndian bytes * 256 + byte.toNat) = byte := by
      apply UInt8.toNat_inj.mp
      rw [UInt8.toNat_ofNat']
      omega
    rw [List.length_append, List.length_singleton, bigEndian_append_one, numberBytes,
      quotient, ih, low]

theorem numberBytes_of_length {bytes : List UInt8} {count : Nat} (size : bytes.length = count) :
    numberBytes count (bigEndian bytes) = bytes := by
  rw [← size]
  exact numberBytes_bigEndian bytes

theorem numberBytes_append (high low number : Nat) :
    numberBytes (high + low) number =
      numberBytes high (number / 256 ^ low) ++ numberBytes low number := by
  induction low generalizing number with
  | zero => simp [numberBytes]
  | succ low ih =>
    rw [← Nat.add_assoc, numberBytes, ih, numberBytes, List.append_assoc,
      Nat.div_div_eq_div_mul, ← Nat.pow_succ']

@[simp] theorem length_unmask (mask payload : List UInt8) :
    (unmask mask payload).length = payload.length := by
  simp [unmask]

theorem unmask_unmask (mask payload : List UInt8) :
    unmask mask (unmask mask payload) = payload := by
  apply List.ext_getElem
  · simp
  · intro index _ _
    simp [unmask, UInt8.xor_assoc]

variable {found field : Nat} {first second : UInt8}

theorem readBody_wire {opcode offset : Nat} {head mask payload rest : List UInt8}
    (isOffset : head.length = offset) (maskLength : mask.length = 4)
    (bounded : payload.length ≤ maxSafePayload) :
    readBody (head ++ (mask ++ (unmask mask payload ++ rest))) opcode payload.length offset =
      .frame opcode payload rest := by
  have enough : ¬ (head ++ (mask ++ (unmask mask payload ++ rest))).length <
      offset + 4 + payload.length := by
    simp only [List.length_append, length_unmask]
    omega
  have dropHead : (head ++ (mask ++ (unmask mask payload ++ rest))).drop offset =
      mask ++ (unmask mask payload ++ rest) := by
    rw [← isOffset, List.drop_left]
  have dropMask : (head ++ (mask ++ (unmask mask payload ++ rest))).drop (offset + 4) =
      unmask mask payload ++ rest := by
    rw [← List.drop_drop, dropHead, ← maskLength, List.drop_left]
  have dropPayload :
      (head ++ (mask ++ (unmask mask payload ++ rest))).drop (offset + 4 + payload.length) =
        rest := by
    rw [← List.drop_drop, dropMask, ← length_unmask mask payload, List.drop_left]
  have takeMask : (mask ++ (unmask mask payload ++ rest)).take 4 = mask := by
    rw [← maskLength, List.take_left]
  have takePayload : (unmask mask payload ++ rest).take payload.length = unmask mask payload := by
    rw [← length_unmask mask payload, List.take_left]
  unfold readBody
  rw [if_neg (Nat.not_lt.mpr bounded), if_neg enough, dropHead, dropMask, dropPayload, takeMask,
    takePayload, unmask_unmask]

theorem readBody_frame {length offset : Nat}
    (read : readBody buffer opcode length offset = .frame found payload rest) :
    found = opcode ∧ payload.length = length ∧ length ≤ maxSafePayload ∧
      ∃ mask, mask.length = 4 ∧
        buffer = buffer.take offset ++ (mask ++ (unmask mask payload ++ rest)) := by
  unfold readBody at read
  split at read
  next => contradiction
  next bounded =>
    split at read
    next => contradiction
    next enough =>
      simp only [FrameRead.frame.injEq] at read
      obtain ⟨isFound, isPayload, isRest⟩ := read
      have size : ((buffer.drop (offset + 4)).take length).length = length := by
        rw [List.length_take, List.length_drop]
        omega
      refine ⟨isFound.symm, ?_, Nat.not_lt.mp bounded, (buffer.drop offset).take 4, ?_, ?_⟩
      · rw [← isPayload, length_unmask, size]
      · rw [List.length_take, List.length_drop]
        omega
      have tail : (buffer.drop (offset + 4)).take length ++ rest = buffer.drop (offset + 4) := by
        have later : buffer.drop (offset + 4 + length) =
            (buffer.drop (offset + 4)).drop length := List.drop_drop.symm
        rw [← isRest, later, List.take_append_drop]
      rw [← isPayload, unmask_unmask, tail, ← List.drop_drop, List.take_append_drop,
        List.take_append_drop]

theorem first_bits (small : opcode < 16) :
    (UInt8.ofNat (128 + opcode) &&& 0x80 ≠ 0 ∧ UInt8.ofNat (128 + opcode) &&& 0x70 = 0) ∧
      (UInt8.ofNat (128 + opcode) &&& 0x0f).toNat = opcode := by
  revert opcode
  decide

theorem second_bits (small : field < 128) :
    UInt8.ofNat (128 + field) &&& 0x80 ≠ 0 ∧
      (UInt8.ofNat (128 + field) &&& 0x7f).toNat = field := by
  revert field
  decide

set_option maxRecDepth 4000 in
theorem first_of_bits (fin : first &&& 0x80 ≠ 0) (plain : first &&& 0x70 = 0) :
    (first &&& 0x0f).toNat < 16 ∧ first = UInt8.ofNat (128 + (first &&& 0x0f).toNat) := by
  have all : ∀ number < 256,
      UInt8.ofNat number &&& 0x80 ≠ 0 → UInt8.ofNat number &&& 0x70 = 0 →
      (UInt8.ofNat number &&& 0x0f).toNat < 16 ∧
        UInt8.ofNat number = UInt8.ofNat (128 + (UInt8.ofNat number &&& 0x0f).toNat) := by
    decide
  have known := all first.toNat first.toNat_lt
  rw [UInt8.ofNat_toNat] at known
  exact known fin plain

set_option maxRecDepth 4000 in
theorem second_of_bits (masked : second &&& 0x80 ≠ 0) :
    (second &&& 0x7f).toNat < 128 ∧ second = UInt8.ofNat (128 + (second &&& 0x7f).toNat) := by
  have all : ∀ number < 256, UInt8.ofNat number &&& 0x80 ≠ 0 →
      (UInt8.ofNat number &&& 0x7f).toNat < 128 ∧
        UInt8.ofNat number = UInt8.ofNat (128 + (UInt8.ofNat number &&& 0x7f).toNat) := by
    decide
  have known := all second.toNat second.toNat_lt
  rw [UInt8.ofNat_toNat] at known
  exact known masked

@[simp] theorem field_short (length : Nat) : LengthForm.short.field length = length := rfl

@[simp] theorem field_medium (length : Nat) : LengthForm.medium.field length = 126 := rfl

@[simp] theorem field_long (length : Nat) : LengthForm.long.field length = 127 := rfl

theorem readLength_wire {first second : UInt8} {opcode : Nat} {mask payload rest : List UInt8}
    (form : LengthForm) (maskLength : mask.length = 4)
    (fits : form = .short → payload.length < 126)
    (mediumFits : form = .medium → payload.length < 65536)
    (bounded : payload.length ≤ maxSafePayload) :
    readLength (first :: second :: (form.extension payload.length ++
        (mask ++ (unmask mask payload ++ rest)))) opcode (form.field payload.length) =
      .frame opcode payload rest := by
  unfold readLength
  cases form with
  | short =>
    have small := fits rfl
    have notMedium : payload.length ≠ 126 := by omega
    have notLong : payload.length ≠ 127 := by omega
    rw [field_short]
    rw [if_neg notMedium, if_neg notLong]
    exact @readBody_wire _ _ [first, second] _ _ _ rfl maskLength bounded
  | medium =>
    have isMedium := field_medium payload.length
    have enough : ¬ (first :: second :: (LengthForm.medium.extension payload.length ++
        (mask ++ (unmask mask payload ++ rest)))).length < 4 := by
      simp only [LengthForm.extension, List.length_cons, List.length_append, length_numberBytes]
      omega
    have field : ((first :: second :: (LengthForm.medium.extension payload.length ++
        (mask ++ (unmask mask payload ++ rest)))).drop 2).take 2 = numberBytes 2 payload.length :=
      List.take_left' (length_numberBytes 2 _)
    have length : bigEndian (numberBytes 2 payload.length) = payload.length := by
      rw [bigEndian_numberBytes]
      exact Nat.mod_eq_of_lt (mediumFits rfl)
    rw [if_pos isMedium, if_neg enough, field, length]
    exact @readBody_wire _ _ (first :: second :: numberBytes 2 payload.length) _ _ _ (by simp)
      maskLength bounded
  | long =>
    have notMedium : LengthForm.long.field payload.length ≠ 126 := by
      rw [field_long]
      decide
    have isLong := field_long payload.length
    have enough : ¬ (first :: second :: (LengthForm.long.extension payload.length ++
        (mask ++ (unmask mask payload ++ rest)))).length < 10 := by
      simp only [LengthForm.extension, List.length_cons, List.length_append, length_numberBytes]
      omega
    have small : payload.length < 256 ^ 4 := by
      unfold maxSafePayload at bounded
      omega
    have parts : numberBytes 8 payload.length =
        numberBytes 4 0 ++ numberBytes 4 payload.length := by
      rw [numberBytes_append 4 4, Nat.div_eq_of_lt small]
    have high : ((first :: second :: (LengthForm.long.extension payload.length ++
        (mask ++ (unmask mask payload ++ rest)))).drop 2).take 4 = numberBytes 4 0 := by
      simp only [LengthForm.extension, parts, List.append_assoc, List.drop_succ_cons,
        List.drop_zero]
      exact List.take_left' (length_numberBytes 4 0)
    have low : ((first :: second :: (LengthForm.long.extension payload.length ++
        (mask ++ (unmask mask payload ++ rest)))).drop 6).take 4 =
          numberBytes 4 payload.length := by
      have behind : (first :: second :: (LengthForm.long.extension payload.length ++
          (mask ++ (unmask mask payload ++ rest)))).drop 6 =
            numberBytes 4 payload.length ++ (mask ++ (unmask mask payload ++ rest)) := by
        exact List.drop_left' (length_numberBytes 4 0)
      exact List.take_left' (length_numberBytes 4 _)
    have zero : ¬ bigEndian (numberBytes 4 0) ≠ 0 := by decide
    have length : bigEndian (numberBytes 4 payload.length) = payload.length := by
      rw [bigEndian_numberBytes]
      exact Nat.mod_eq_of_lt small
    rw [if_neg notMedium, if_pos isLong, if_neg enough, high, if_neg zero, low, length]
    exact @readBody_wire _ _ (first :: second :: numberBytes 8 payload.length) _ _ _ (by simp)
      maskLength bounded

theorem field_small (frame : ClientFrame) : frame.form.field frame.payload.length < 128 := by
  cases form : frame.form with
  | short =>
    have fits := frame.fits form
    rw [field_short]
    omega
  | medium => simp
  | long => simp

theorem readFrame_wire (frame : ClientFrame) (rest : List UInt8) :
    readFrame (frame.wire ++ rest) = .frame frame.opcode frame.payload rest := by
  obtain ⟨⟨fin, plain⟩, isOpcode⟩ := first_bits frame.opcode_small
  obtain ⟨masked, isField⟩ := second_bits (field_small frame)
  have whole : ¬ (UInt8.ofNat (128 + frame.opcode) &&& 0x80 = 0 ∨
      UInt8.ofNat (128 + frame.opcode) &&& 0x70 ≠ 0) := by
    rintro (unfinished | extended)
    · exact fin unfinished
    · exact extended plain
  have notLarge : ¬ (8 ≤ frame.opcode ∧ 125 < frame.form.field frame.payload.length) := by
    rintro ⟨control, large⟩
    have form := frame.control_short control
    have fits := frame.fits form
    rw [form, field_short] at large
    omega
  have read := @readLength_wire (UInt8.ofNat (128 + frame.opcode))
    (UInt8.ofNat (128 + frame.form.field frame.payload.length)) frame.opcode _ _ rest frame.form frame.mask_length frame.fits
    frame.medium_fits frame.payload_bounded
  unfold readFrame ClientFrame.wire
  simp only [List.cons_append, List.append_assoc, isOpcode, isField]
  rw [if_neg whole, if_neg notLarge, if_neg masked, read]

theorem readLength_frame {tail : List UInt8}
    (read : readLength (first :: second :: tail) opcode field = .frame found payload rest) :
    found = opcode ∧ payload.length ≤ maxSafePayload ∧
      ∃ (form : LengthForm) (mask : List UInt8),
        form.field payload.length = field ∧ mask.length = 4 ∧
          (form = .short → field ≠ 126 ∧ field ≠ 127) ∧
          (form = .medium → payload.length < 65536) ∧
          tail = form.extension payload.length ++ (mask ++ (unmask mask payload ++ rest)) := by
  unfold readLength at read
  split at read
  next medium =>
    split at read
    next => contradiction
    next enough =>
      obtain ⟨isFound, length, bounded, mask, maskLength, written⟩ := readBody_frame read
      simp only [List.length_cons] at enough
      have two : (tail.take 2).length = 2 := by
        rw [List.length_take]
        omega
      have bytes : numberBytes 2 payload.length = tail.take 2 := by
        rw [length]
        exact numberBytes_of_length two
      refine ⟨isFound, length ▸ bounded, .medium, mask, medium.symm, maskLength, ?_, ?_, ?_⟩
      · intro short
        contradiction
      · intro _
        have small := bigEndian_numberBytes 2 payload.length
        have value : bigEndian (numberBytes 2 payload.length) = payload.length := by
          rw [bytes, length]
          rfl
        omega
      · have tails : tail = tail.take 2 ++ (mask ++ (unmask mask payload ++ rest)) := by
          simpa using written
        rw [LengthForm.extension, bytes]
        exact tails
  next notMedium =>
    split at read
    next long =>
      split at read
      next => contradiction
      next enough =>
        split at read
        next => contradiction
        next zero =>
          obtain ⟨isFound, length, bounded, mask, maskLength, written⟩ := readBody_frame read
          simp only [List.length_cons] at enough
          have four : (tail.take 4).length = 4 := by
            rw [List.length_take]
            omega
          have nextFour : ((tail.drop 4).take 4).length = 4 := by
            rw [List.length_take, List.length_drop]
            omega
          have high : numberBytes 4 0 = tail.take 4 := by
            have value : bigEndian (tail.take 4) = 0 := not_ne_iff.mp zero
            rw [← value]
            exact numberBytes_of_length four
          have low : numberBytes 4 payload.length = (tail.drop 4).take 4 := by
            rw [length]
            exact numberBytes_of_length nextFour
          have small : payload.length < 256 ^ 4 := by
            unfold maxSafePayload at bounded
            omega
          have bytes : numberBytes 8 payload.length = tail.take 8 := by
            rw [numberBytes_append 4 4, Nat.div_eq_of_lt small, high, low, ← List.take_add]
          refine ⟨isFound, length ▸ bounded, .long, mask, long.symm, maskLength, ?_, ?_, ?_⟩
          · intro short
            contradiction
          · intro medium
            contradiction
          · have tails : tail = tail.take 8 ++ (mask ++ (unmask mask payload ++ rest)) := by
              simpa using written
            rw [LengthForm.extension, bytes]
            exact tails
    next notLong =>
      obtain ⟨isFound, length, bounded, mask, maskLength, written⟩ := readBody_frame read
      refine ⟨isFound, length ▸ bounded, .short, mask, length, maskLength, ?_, ?_, ?_⟩
      · intro _
        exact ⟨notMedium, notLong⟩
      · intro medium
        contradiction
      · have tails : tail = mask ++ (unmask mask payload ++ rest) := by
          simpa using written
        exact tails

theorem readFrame_frame (read : readFrame buffer = .frame opcode payload rest) :
    ∃ frame : ClientFrame, frame.opcode = opcode ∧ frame.payload = payload ∧
      buffer = frame.wire ++ rest := by
  unfold readFrame at read
  split at read
  next first second tail =>
    dsimp only at read
    split at read
    next => contradiction
    next whole =>
      split at read
      next => contradiction
      next notLarge =>
        split at read
        next => contradiction
        next masked =>
          obtain ⟨fin, plain⟩ := not_or.mp whole
          obtain ⟨opcodeSmall, isFirst⟩ := first_of_bits fin (not_ne_iff.mp plain)
          obtain ⟨fieldSmall, isSecond⟩ := second_of_bits masked
          obtain ⟨isFound, bounded, form, mask, isField, maskLength, short, medium, written⟩ :=
            readLength_frame read
          subst isFound
          refine ⟨⟨(first &&& 0x0f).toNat, form, mask, payload, opcodeSmall, maskLength, ?_,
            medium, bounded, ?_⟩, rfl, rfl, ?_⟩
          · intro isShort
            obtain ⟨notMedium, notLong⟩ := short isShort
            rw [isShort, field_short] at isField
            omega
          · intro control
            cases form with
            | short => rfl
            | medium =>
              rw [field_medium] at isField
              exact absurd ⟨control, by omega⟩ notLarge
            | long =>
              rw [field_long] at isField
              exact absurd ⟨control, by omega⟩ notLarge
          · unfold ClientFrame.wire
            dsimp only
            rw [isField, ← isFirst, ← isSecond, written]
            simp
  next => contradiction

theorem readFrame_shrinks (read : readFrame buffer = .frame opcode payload rest) :
    rest.length < buffer.length := by
  obtain ⟨frame, -, -, written⟩ := readFrame_frame read
  rw [written, List.length_append, ClientFrame.wire, List.length_cons]
  omega

def BeginsWithText (buffer : List UInt8) : Prop :=
  ∃ (controls : List ClientFrame) (message : ClientFrame) (rest : List UInt8),
    (∀ control ∈ controls, control.opcode = 0x9 ∨ control.opcode = 0xA) ∧
      message.opcode = 0x1 ∧ (decodeText message.payload).isSome = true ∧
        buffer = controls.flatMap ClientFrame.wire ++ (message.wire ++ rest)

def Delivers (events : List PeerEvent) : Prop :=
  ∃ text bytes, PeerEvent.onText text bytes ∈ events

theorem beginsWithText_control (control : ClientFrame) (rest : List UInt8)
    (isControl : control.opcode = 0x9 ∨ control.opcode = 0xA) :
    BeginsWithText (control.wire ++ rest) ↔ BeginsWithText rest := by
  constructor
  · rintro ⟨controls, message, later, areControls, isText, decodes, written⟩
    have first := readFrame_wire control rest
    rw [written] at first
    cases controls with
    | nil =>
      rw [List.flatMap_nil, List.nil_append, readFrame_wire] at first
      simp only [FrameRead.frame.injEq] at first
      rcases isControl with isPing | isPong
      · omega
      · omega
    | cons other controls =>
      rw [List.flatMap_cons, List.append_assoc, readFrame_wire] at first
      simp only [FrameRead.frame.injEq] at first
      exact ⟨controls, message, later,
        fun one oneIn => areControls one (List.mem_cons_of_mem other oneIn), isText, decodes,
        first.2.2.symm⟩
  · rintro ⟨controls, message, later, areControls, isText, decodes, written⟩
    refine ⟨control :: controls, message, later, ?_, isText, decodes, ?_⟩
    · intro one oneIn
      rcases List.mem_cons.mp oneIn with rfl | inControls
      · exact isControl
      · exact areControls one inControls
    · rw [written, List.flatMap_cons, List.append_assoc]

theorem beginsWithText_frame (begins : BeginsWithText buffer) :
    ∃ opcode payload rest, readFrame buffer = .frame opcode payload rest ∧
      (opcode = 0x9 ∨ opcode = 0xA ∨ opcode = 0x1 ∧ (decodeText payload).isSome = true) := by
  obtain ⟨controls, message, later, areControls, isText, decodes, written⟩ := begins
  cases controls with
  | nil =>
    refine ⟨message.opcode, message.payload, later, ?_, .inr (.inr ⟨isText, decodes⟩)⟩
    rw [written, List.flatMap_nil, List.nil_append, readFrame_wire]
  | cons control controls =>
    refine ⟨control.opcode, control.payload,
      controls.flatMap ClientFrame.wire ++ (message.wire ++ later), ?_, ?_⟩
    · rw [written, List.flatMap_cons, List.append_assoc, readFrame_wire]
    · rcases areControls control List.mem_cons_self with isPing | isPong
      · exact .inl isPing
      · exact .inr (.inl isPong)

theorem close_delivers_nothing (peer : ServerWebSocketPeer) (code : Nat) (reason : List Char) :
    ¬ Delivers (peer.close code reason).2 := by
  rintro ⟨text, bytes, delivered⟩
  unfold ServerWebSocketPeer.close at delivered
  split at delivered
  next => contradiction
  next => simp at delivered

theorem fail_delivers_nothing (peer : ServerWebSocketPeer) (message : String) (code : Nat) :
    ¬ Delivers (peer.fail message code).2 := by
  rintro ⟨text, bytes, delivered⟩
  apply close_delivers_nothing peer code message.toList
  refine ⟨text, bytes, ?_⟩
  simpa [ServerWebSocketPeer.fail] using delivered

theorem delivers_cons {event : PeerEvent} {events : List PeerEvent}
    (noText : ∀ text bytes, event ≠ .onText text bytes) :
    Delivers (event :: events) ↔ Delivers events := by
  constructor
  · rintro ⟨text, bytes, delivered⟩
    rcases List.mem_cons.mp delivered with isEvent | later
    · exact absurd isEvent.symm (noText text bytes)
    · exact ⟨text, bytes, later⟩
  · rintro ⟨text, bytes, delivered⟩
    exact ⟨text, bytes, List.mem_cons_of_mem event delivered⟩

theorem acceptFrames_delivers_iff (turns : Nat) (peer : ServerWebSocketPeer)
    (enough : peer.buffer.length < turns) :
    Delivers (peer.acceptFrames turns).2 ↔ BeginsWithText peer.buffer := by
  induction turns generalizing peer with
  | zero => omega
  | succ turns ih =>
    unfold ServerWebSocketPeer.acceptFrames
    cases read : readFrame peer.buffer with
    | incomplete =>
      constructor
      · rintro ⟨text, bytes, delivered⟩
        contradiction
      · intro begins
        obtain ⟨opcode, payload, rest, isFrame, -⟩ := beginsWithText_frame begins
        rw [read] at isFrame
        contradiction
    | refused message code =>
      constructor
      · intro delivered
        exact absurd delivered (fail_delivers_nothing peer message code)
      · intro begins
        obtain ⟨opcode, payload, rest, isFrame, -⟩ := beginsWithText_frame begins
        rw [read] at isFrame
        contradiction
    | frame opcode payload rest =>
      have shorter := readFrame_shrinks read
      have later := ih { peer with buffer := rest } (by
        change rest.length < turns
        omega)
      obtain ⟨frame, isOpcode, isPayload, written⟩ := readFrame_frame read
      have kinds : BeginsWithText peer.buffer → opcode = 0x9 ∨ opcode = 0xA ∨
          opcode = 0x1 ∧ (decodeText payload).isSome = true := by
        intro begins
        obtain ⟨found, body, after, isFrame, kind⟩ := beginsWithText_frame begins
        rw [read] at isFrame
        obtain ⟨rfl, rfl, rfl⟩ := isFrame
        exact kind
      dsimp only
      split
      next isClose =>
        have noText : ¬ BeginsWithText peer.buffer := by
          intro begins
          have kind := kinds begins
          omega
        split
        next =>
          constructor
          · intro delivered
            exact absurd delivered (fail_delivers_nothing _ _ _)
          · intro begins
            exact absurd begins noText
        next =>
          rw [delivers_cons (by simp)]
          constructor
          · intro delivered
            exact absurd delivered (close_delivers_nothing _ _ _)
          · intro begins
            exact absurd begins noText
      next =>
        split
        next isPing =>
          rw [delivers_cons (by simp), later, written,
            beginsWithText_control frame rest (.inl (isOpcode.trans isPing))]
        next =>
          split
          next isPong =>
            rw [later, written, beginsWithText_control frame rest (.inr (isOpcode.trans isPong))]
          next =>
            split
            next noTextFrame =>
              constructor
              · intro delivered
                exact absurd delivered (fail_delivers_nothing _ _ _)
              · intro begins
                have kind := kinds begins
                omega
            next isText =>
              cases decodes : decodeText payload with
              | none =>
                constructor
                · intro delivered
                  exact absurd delivered (fail_delivers_nothing _ _ _)
                intro begins
                rcases kinds begins with isPing | isPong | ⟨-, decoded⟩
                · contradiction
                · contradiction
                · rw [decodes] at decoded
                  contradiction
              | some text =>
                constructor
                · intro _
                  refine ⟨[], frame, rest, by simp, ?_, ?_, written⟩
                  · rw [isOpcode]
                    exact not_ne_iff.mp isText
                  · rw [isPayload, decodes]
                    rfl
                · intro _
                  exact ⟨text, payload.length, List.mem_cons_self⟩

theorem accept_delivers_iff (peer : ServerWebSocketPeer) (chunk : List UInt8) :
    Delivers (peer.accept chunk).2 ↔
      peer.closed = false ∧ BeginsWithText (peer.buffer ++ chunk) := by
  unfold ServerWebSocketPeer.accept
  split
  next isClosed =>
    constructor
    · rintro ⟨text, bytes, delivered⟩
      contradiction
    · rintro ⟨isOpen, -⟩
      rw [isOpen] at isClosed
      contradiction
  next notClosed =>
    have delivers := acceptFrames_delivers_iff ((peer.buffer ++ chunk).length + 1)
      { peer with buffer := peer.buffer ++ chunk } (Nat.lt_succ_self _)
    rw [delivers]
    constructor
    · intro begins
      exact ⟨Bool.eq_false_iff.mpr notClosed, begins⟩
    · rintro ⟨-, begins⟩
      exact begins

end OpenRill.Protocol.WebSocketCodec
