import Mathlib.Data.List.Basic

/-!
# Decoding UTF-8 in chunks

A fatal decoder of UTF-8 that keeps its place between two chunks, takes one byte at a time
and drops a byte order mark at the very beginning.
-/

namespace OpenRill.Lib.Utf8

/-- What a decoder keeps between two bytes: whether it has given a character or the mark,
the bits of the unfinished character, the bytes that are left of it and the bounds on the
next of these. -/
structure Decoder where
  started : Bool
  bits : Nat
  left : Nat
  lower : Nat
  upper : Nat
  deriving DecidableEq

def Decoder.initial : Decoder := ⟨false, 0, 0, 0x80, 0xBF⟩

def Decoder.ready : Decoder := ⟨true, 0, 0, 0x80, 0xBF⟩

def byteOrderMark : Char := Char.ofNat 0xFEFF

def Decoder.emit (decoder : Decoder) (point : Nat) : Decoder × List Char :=
  if decoder.started = false ∧ point = 0xFEFF then (.ready, [])
  else (.ready, [Char.ofNat point])

def Decoder.lead (decoder : Decoder) (byte : Nat) : Option (Decoder × List Char) :=
  if byte ≤ 0x7F then some (decoder.emit byte)
  else if 0xC2 ≤ byte ∧ byte ≤ 0xDF then
    some (⟨decoder.started, byte - 0xC0, 1, 0x80, 0xBF⟩, [])
  else if 0xE0 ≤ byte ∧ byte ≤ 0xEF then
    some (⟨decoder.started, byte - 0xE0, 2, if byte = 0xE0 then 0xA0 else 0x80,
      if byte = 0xED then 0x9F else 0xBF⟩, [])
  else if 0xF0 ≤ byte ∧ byte ≤ 0xF4 then
    some (⟨decoder.started, byte - 0xF0, 3, if byte = 0xF0 then 0x90 else 0x80,
      if byte = 0xF4 then 0x8F else 0xBF⟩, [])
  else none

def Decoder.byte (decoder : Decoder) (byte : Nat) : Option (Decoder × List Char) :=
  if decoder.left = 0 then decoder.lead byte
  else if decoder.lower ≤ byte ∧ byte ≤ decoder.upper then
    if decoder.left = 1 then some (decoder.emit (decoder.bits * 64 + (byte - 0x80)))
    else
      some (⟨decoder.started, decoder.bits * 64 + (byte - 0x80), decoder.left - 1, 0x80, 0xBF⟩, [])
  else none

/-- `decoder.decode(bytes, { stream: true })`: the characters that are whole. -/
def Decoder.decode (decoder : Decoder) : List UInt8 → Option (Decoder × List Char)
  | [] => some (decoder, [])
  | byte :: rest =>
    (decoder.byte byte.toNat).bind (fun first =>
      (first.1.decode rest).map (fun later => (later.1, first.2 ++ later.2)))

/-- `decoder.decode()`: no character may be unfinished at the end. -/
def Decoder.finish (decoder : Decoder) : Bool := decoder.left = 0

theorem decode_append (decoder : Decoder) (first rest : List UInt8) :
    decoder.decode (first ++ rest) =
      (decoder.decode first).bind (fun reached =>
        (reached.1.decode rest).map (fun later => (later.1, reached.2 ++ later.2))) := by
  induction first generalizing decoder with
  | nil => simp [Decoder.decode]
  | cons byte first ih =>
    rw [List.cons_append, Decoder.decode, Decoder.decode]
    cases decoder.byte byte.toNat with
    | none => rfl
    | some reached =>
      rw [Option.bind_some, Option.bind_some, ih]
      cases reached.1.decode first with
      | none => rfl
      | some later =>
        rw [Option.bind_some, Option.map_some, Option.bind_some]
        cases later.1.decode rest with
        | none => rfl
        | some last => simp [List.append_assoc]

def Decoder.decodeAll (decoder : Decoder) : List (List UInt8) → Option (Decoder × List Char)
  | [] => some (decoder, [])
  | chunk :: rest =>
    (decoder.decode chunk).bind (fun first =>
      (first.1.decodeAll rest).map (fun later => (later.1, first.2 ++ later.2)))

theorem decodeAll_flatten (decoder : Decoder) (chunks : List (List UInt8)) :
    decoder.decodeAll chunks = decoder.decode chunks.flatten := by
  induction chunks generalizing decoder with
  | nil => rfl
  | cons chunk rest ih =>
    rw [Decoder.decodeAll, List.flatten_cons, decode_append]
    simp only [ih]

section RoundTrip

variable {number lower upper point : Nat} {started : Bool}

def encode (text : List Char) : List UInt8 := text.flatMap String.utf8EncodeChar

theorem toNat_ofNat (small : number < 256) : (UInt8.ofNat number).toNat = number := by
  exact Nat.mod_eq_of_lt small

variable (decoder : Decoder)

theorem decode_unfinished {next : Decoder} (small : number < 256)
    (reached : decoder.byte number = some (next, [])) (rest : List UInt8) :
    decoder.decode (UInt8.ofNat number :: rest) = next.decode rest := by
  rw [Decoder.decode, toNat_ofNat small, reached, Option.bind_some]
  cases next.decode rest <;> rfl

theorem decode_last {last : Decoder × List Char} (small : number < 256)
    (reached : decoder.byte number = some last) :
    decoder.decode [UInt8.ofNat number] = some last := by
  rw [Decoder.decode, toNat_ofNat small, reached, Option.bind_some, Decoder.decode,
    Option.map_some, List.append_nil]

theorem byte_inside {bits left low : Nat} (more : 1 < left) (least : lower ≤ low + 0x80)
    (most : low + 0x80 ≤ upper) :
    Decoder.byte ⟨started, bits, left, lower, upper⟩ (low + 0x80) =
      some (⟨started, bits * 64 + low, left - 1, 0x80, 0xBF⟩, []) := by
  have notFirst : left ≠ 0 := by omega
  have notLast : left ≠ 1 := by omega
  simp [Decoder.byte, notFirst, notLast, least, most]

theorem byte_last {bits low : Nat} (least : lower ≤ low + 0x80) (most : low + 0x80 ≤ upper) :
    Decoder.byte ⟨started, bits, 1, lower, upper⟩ (low + 0x80) =
      some (Decoder.emit ⟨started, bits, 1, lower, upper⟩ (bits * 64 + low)) := by
  simp [Decoder.byte, least, most]

variable (whole : decoder.left = 0)

include whole

theorem byte_lead {next : Decoder × List Char} (led : decoder.lead number = some next) :
    decoder.byte number = some next := by
  rw [Decoder.byte, if_pos whole, led]

theorem decode_one (most : point ≤ 0x7f) :
    decoder.decode [UInt8.ofNat point] = some (decoder.emit point) := by
  apply decode_last decoder (by omega)
  apply byte_lead decoder whole
  rw [Decoder.lead, if_pos most]

theorem decode_two (least : 0x7f < point) (most : point ≤ 0x7ff) :
    decoder.decode [UInt8.ofNat (point / 64 % 0x20 + 0xc0), UInt8.ofNat (point % 0x40 + 0x80)] =
      some (decoder.emit point) := by
  have first : decoder.byte (point / 64 % 0x20 + 0xc0) =
      some (⟨decoder.started, point / 64, 1, 0x80, 0xBF⟩, []) := by
    apply byte_lead decoder whole
    rw [Decoder.lead, if_neg (by omega), if_pos (by omega)]
    have bits : point / 64 % 0x20 + 0xc0 - 0xC0 = point / 64 := by omega
    rw [bits]
  have exact_point : point / 64 * 64 + point % 0x40 = point := by omega
  rw [decode_unfinished decoder (by omega) first]
  apply decode_last _ (by omega)
  rw [byte_last (by omega) (by omega), exact_point]
  rfl

theorem decode_three (least : 0x7ff < point) (most : point ≤ 0xffff)
    (scalar : point < 0xD800 ∨ 0xDFFF < point) :
    decoder.decode [UInt8.ofNat (point / 4096 % 0x10 + 0xe0),
      UInt8.ofNat (point / 64 % 0x40 + 0x80), UInt8.ofNat (point % 0x40 + 0x80)] =
      some (decoder.emit point) := by
  have first : decoder.byte (point / 4096 % 0x10 + 0xe0) =
      some (⟨decoder.started, point / 4096, 2, if point / 4096 = 0 then 0xA0 else 0x80,
        if point / 4096 = 13 then 0x9F else 0xBF⟩, []) := by
    apply byte_lead decoder whole
    rw [Decoder.lead, if_neg (by omega), if_neg (by omega), if_pos (by omega)]
    have bits : point / 4096 % 0x10 + 0xe0 - 0xE0 = point / 4096 := by omega
    have low : point / 4096 % 0x10 + 0xe0 = 0xE0 ↔ point / 4096 = 0 := by omega
    have high : point / 4096 % 0x10 + 0xe0 = 0xED ↔ point / 4096 = 13 := by omega
    simp only [bits, low, high]
  have exact_point : (point / 4096 * 64 + point / 64 % 0x40) * 64 + point % 0x40 = point := by
    omega
  rw [decode_unfinished decoder (by omega) first,
    decode_unfinished _ (by omega) (byte_inside (by omega) _ _)]
  · apply decode_last _ (by omega)
    rw [byte_last (by omega) (by omega), exact_point]
    rfl
  · split <;> omega
  · split <;> omega

theorem decode_four (least : 0xffff < point) (most : point < 0x110000) :
    decoder.decode [UInt8.ofNat (point / 262144 % 0x08 + 0xf0),
      UInt8.ofNat (point / 4096 % 0x40 + 0x80), UInt8.ofNat (point / 64 % 0x40 + 0x80),
      UInt8.ofNat (point % 0x40 + 0x80)] = some (decoder.emit point) := by
  have first : decoder.byte (point / 262144 % 0x08 + 0xf0) =
      some (⟨decoder.started, point / 262144, 3, if point / 262144 = 0 then 0x90 else 0x80,
        if point / 262144 = 4 then 0x8F else 0xBF⟩, []) := by
    apply byte_lead decoder whole
    rw [Decoder.lead, if_neg (by omega), if_neg (by omega), if_neg (by omega),
      if_pos (by omega)]
    have bits : point / 262144 % 0x08 + 0xf0 - 0xF0 = point / 262144 := by omega
    have low : point / 262144 % 0x08 + 0xf0 = 0xF0 ↔ point / 262144 = 0 := by omega
    have high : point / 262144 % 0x08 + 0xf0 = 0xF4 ↔ point / 262144 = 4 := by omega
    simp only [bits, low, high]
  have exact_point : ((point / 262144 * 64 + point / 4096 % 0x40) * 64 + point / 64 % 0x40) * 64 +
      point % 0x40 = point := by
    omega
  rw [decode_unfinished decoder (by omega) first,
    decode_unfinished _ (by omega) (byte_inside (by omega) _ _),
    decode_unfinished _ (by omega) (byte_inside (by omega) (by omega) (by omega))]
  · apply decode_last _ (by omega)
    rw [byte_last (by omega) (by omega), exact_point]
    rfl
  · split <;> omega
  · split <;> omega

theorem decode_char (char : Char) :
    decoder.decode (String.utf8EncodeChar char) = some (decoder.emit char.toNat) := by
  have valid : char.toNat < 0xD800 ∨ (0xDFFF < char.toNat ∧ char.toNat < 0x110000) := char.valid
  have point : char.toNat = char.val.toNat := rfl
  unfold String.utf8EncodeChar
  dsimp only
  split
  next one => exact decode_one decoder whole one
  next notOne =>
    split
    next two => exact decode_two decoder whole (by omega) two
    next notTwo =>
      split
      next three => exact decode_three decoder whole (by omega) three (by omega)
      next notThree => exact decode_four decoder whole (by omega) (by omega)

omit whole

theorem decode_ready (text : List Char) :
    Decoder.ready.decode (encode text) = some (.ready, text) := by
  induction text with
  | nil => rfl
  | cons char rest ih =>
    have first := decode_char .ready rfl char
    have emitted : Decoder.ready.emit char.toNat = (.ready, [char]) := by
      unfold Decoder.emit
      rw [if_neg (by simp [Decoder.ready]), Char.ofNat_toNat]
    unfold encode at ih ⊢
    rw [List.flatMap_cons, decode_append, first, Option.bind_some, emitted, ih]
    rfl

theorem decode_initial {text : List Char} (unmarked : text.head? ≠ some byteOrderMark) :
    ∃ decoder, decoder.left = 0 ∧ Decoder.initial.decode (encode text) = some (decoder, text) := by
  cases text with
  | nil => exact ⟨.initial, rfl, rfl⟩
  | cons char rest =>
    have first := decode_char .initial rfl char
    have notMark : char.toNat ≠ 0xFEFF := by
      intro isMark
      apply unmarked
      rw [List.head?_cons, ← Char.ofNat_toNat char, isMark]
      rfl
    have emitted : Decoder.initial.emit char.toNat = (.ready, [char]) := by
      unfold Decoder.emit
      rw [if_neg (by simp [notMark]), Char.ofNat_toNat]
    have later := decode_ready rest
    refine ⟨.ready, rfl, ?_⟩
    unfold encode at later ⊢
    rw [List.flatMap_cons, decode_append, first, Option.bind_some, emitted, later]
    rfl

theorem decode_marked (text : List Char) :
    Decoder.initial.decode (encode (byteOrderMark :: text)) = some (.ready, text) := by
  have first := decode_char .initial rfl byteOrderMark
  have later := decode_ready text
  have emitted : Decoder.initial.emit byteOrderMark.toNat = (.ready, []) := rfl
  unfold encode at later ⊢
  rw [List.flatMap_cons, decode_append, first, Option.bind_some, emitted, later]
  rfl

end RoundTrip

/-! ## A decoder that replaces what it cannot read -/

def replacement : Char := Char.ofNat 0xFFFD

/-- `toString("utf8")`: each unfinished character and each byte that none begins with is
the replacement character. -/
def decodeFrom (decoder : Decoder) : List UInt8 → List Char
  | [] => if decoder.left = 0 then [] else [replacement]
  | byte :: rest =>
    match decoder.byte byte.toNat with
    | some (next, chars) => chars ++ decodeFrom next rest
    | none =>
      if decoder.left = 0 then replacement :: decodeFrom .ready rest
      else
        match Decoder.ready.byte byte.toNat with
        | some (next, chars) => replacement :: (chars ++ decodeFrom next rest)
        | none => replacement :: replacement :: decodeFrom .ready rest

def toText (bytes : List UInt8) : List Char := decodeFrom .ready bytes

/-- Text that the fatal decoder accepts is decoded alike. -/
theorem decodeFrom_decode {next decoder : Decoder} {stream : List UInt8} {chars : List Char}
    (decoded : decoder.decode stream = some (next, chars)) (whole : next.left = 0) :
    decodeFrom decoder stream = chars := by
  induction stream generalizing decoder chars with
  | nil =>
    cases decoded
    rw [decodeFrom, if_pos whole]
  | cons byte rest ih =>
    rw [Decoder.decode, Option.bind_eq_some_iff] at decoded
    obtain ⟨first, isFirst, later⟩ := decoded
    obtain ⟨second, isSecond, isBoth⟩ := Option.map_eq_some_iff.mp later
    cases isBoth
    rw [decodeFrom, isFirst]
    exact congrArg (first.2 ++ ·) (ih isSecond)

theorem toText_encode (text : List Char) : toText (encode text) = text :=
  decodeFrom_decode (decode_ready text) rfl

end OpenRill.Lib.Utf8
