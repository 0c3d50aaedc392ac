import OpenRill.Lib.Utf8

/-!
# The captured output of a process

The host backend collects every chunk and cuts once at the end. The Docker backend cuts
while it collects, decodes what is left and cuts the text again. It calls a stream
truncated when this text takes more than the limit, which is not when the stream did.
-/

namespace OpenRill.Sandbox.OutputTails

open Lib.Utf8

abbrev Bytes := List UInt8

/-- `bytes.subarray(bytes.length - maxBytes)` of bytes that are more than the limit. -/
def lastBytes (maxBytes : Nat) (bytes : Bytes) : Bytes := bytes.drop (bytes.length - maxBytes)

structure OutputText where
  text : List Char
  truncated : Bool
  deriving DecidableEq

structure Output where
  stdout : OutputText
  stderr : OutputText
  deriving DecidableEq

/-- `boundedText` of the host backend. -/
def boundedText (maxBytes : Nat) (chunks : List Bytes) : OutputText :=
  let joined := chunks.flatten
  let truncated := joined.length > maxBytes
  ⟨toText (if truncated then lastBytes maxBytes joined else joined), truncated⟩

structure BoundedCollector where
  chunks : List Bytes
  bytes : Nat

/-- The loop of `push`. -/
def BoundedCollector.trim (maxBytes : Nat) : List Bytes → Nat → BoundedCollector
  | [], bytes => ⟨[], bytes⟩
  | first :: rest, bytes =>
    if bytes > maxBytes then
      if first.length ≤ bytes - maxBytes then trim maxBytes rest (bytes - first.length)
      else ⟨first.drop (bytes - maxBytes) :: rest, bytes - (bytes - maxBytes)⟩
    else ⟨first :: rest, bytes⟩

def BoundedCollector.push (maxBytes : Nat) (collector : BoundedCollector) (chunk : Bytes) :
    BoundedCollector :=
  trim maxBytes (collector.chunks ++ [chunk]) (collector.bytes + chunk.length)

def BoundedCollector.text (collector : BoundedCollector) : List Char :=
  toText collector.chunks.flatten

/-- `bounded` of the Docker backend. -/
def bounded (maxBytes : Nat) (text : List Char) : OutputText :=
  let bytes := encode text
  let truncated := bytes.length > maxBytes
  ⟨toText (if truncated then lastBytes maxBytes bytes else bytes), truncated⟩

def hostOutput (maxOutputBytes : Nat) (stdout stderr : List Bytes) : Output :=
  ⟨boundedText maxOutputBytes stdout, boundedText maxOutputBytes stderr⟩

def collected (maxOutputBytes : Nat) (chunks : List Bytes) : BoundedCollector :=
  chunks.foldl (BoundedCollector.push maxOutputBytes) ⟨[], 0⟩

def dockerOutput (maxOutputBytes : Nat) (stdout stderr : List Bytes) : Output :=
  ⟨bounded maxOutputBytes (collected maxOutputBytes stdout).text,
    bounded maxOutputBytes (collected maxOutputBytes stderr).text⟩

/-- The tail of a stream, flagged when the stream is longer. -/
def tailOf (maxBytes : Nat) (chunks : List Bytes) : OutputText :=
  ⟨toText (lastBytes maxBytes chunks.flatten), chunks.flatten.length > maxBytes⟩

/-- A stream within the limit has a text within the limit. Of a longer one the text of the
tail takes more than the limit, and the last bytes of this text decode to the same text. -/
def Flagged (maxBytes : Nat) (stream : Bytes) : Prop :=
  let bytes := encode (toText (lastBytes maxBytes stream))
  if stream.length > maxBytes then
    bytes.length > maxBytes ∧
      toText (lastBytes maxBytes bytes) = toText (lastBytes maxBytes stream)
  else bytes.length ≤ maxBytes

variable {maxBytes bytes : Nat} {stream : Bytes} {chunks : List Bytes}

theorem lastBytes_short (short : stream.length ≤ maxBytes) :
    lastBytes maxBytes stream = stream := by
  rw [lastBytes, Nat.sub_eq_zero_of_le short, List.drop_zero]

theorem lastBytes_append (chunk : Bytes) :
    lastBytes maxBytes (lastBytes maxBytes stream ++ chunk) =
      lastBytes maxBytes (stream ++ chunk) := by
  have shorter : stream.length - maxBytes ≤ stream.length := Nat.sub_le _ _
  unfold lastBytes
  rw [← List.drop_append_of_le_length shorter, List.drop_drop, List.length_drop,
    List.length_append]
  congr 1
  omega

theorem trim_flatten (counted : bytes = chunks.flatten.length) :
    (BoundedCollector.trim maxBytes chunks bytes).chunks.flatten =
      lastBytes maxBytes chunks.flatten ∧
    (BoundedCollector.trim maxBytes chunks bytes).bytes =
      (BoundedCollector.trim maxBytes chunks bytes).chunks.flatten.length := by
  induction chunks generalizing bytes with
  | nil => exact ⟨by simp [BoundedCollector.trim, lastBytes], counted⟩
  | cons first rest ih =>
    rw [List.flatten_cons, List.length_append] at counted
    unfold BoundedCollector.trim
    split
    next long =>
      split
      next whole =>
        have fewer : bytes - first.length = rest.flatten.length := by omega
        obtain ⟨isTail, isCount⟩ := ih fewer
        refine ⟨isTail.trans ?_, isCount⟩
        have gone : first.drop (first.length + rest.flatten.length - maxBytes) = [] :=
          List.drop_eq_nil_of_le (by omega)
        have left : first.length + rest.flatten.length - maxBytes - first.length =
            rest.flatten.length - maxBytes := by omega
        rw [lastBytes, lastBytes, List.flatten_cons, List.length_append, List.drop_append, gone,
          List.nil_append, left]
      next part =>
        have inside : bytes - maxBytes < first.length := Nat.lt_of_not_le part
        constructor
        · rw [lastBytes, List.flatten_cons, List.flatten_cons, List.length_append, ← counted,
            List.drop_append_of_le_length (by omega)]
        · dsimp only
          rw [List.flatten_cons, List.length_append, List.length_drop]
          omega
    next within =>
      have short : (first :: rest).flatten.length ≤ maxBytes := by
        rw [List.flatten_cons, List.length_append]
        omega
      exact ⟨(lastBytes_short short).symm, by rw [List.flatten_cons, List.length_append, counted]⟩

theorem pushes_tail {collector : BoundedCollector} (chunks : List Bytes)
    (isTail : collector.chunks.flatten = lastBytes maxBytes stream)
    (counted : collector.bytes = collector.chunks.flatten.length) :
    (chunks.foldl (BoundedCollector.push maxBytes) collector).chunks.flatten =
      lastBytes maxBytes (stream ++ chunks.flatten) := by
  induction chunks generalizing collector stream with
  | nil => rw [List.flatten_nil, List.append_nil, List.foldl_nil, isTail]
  | cons chunk rest ih =>
    have pushed : (collector.chunks ++ [chunk]).flatten = lastBytes maxBytes stream ++ chunk := by
      rw [List.flatten_append, isTail, List.flatten_singleton]
    have isCount : collector.bytes + chunk.length =
        (collector.chunks ++ [chunk]).flatten.length := by
      rw [pushed, List.length_append, counted, isTail]
    obtain ⟨isNext, countedNext⟩ := @trim_flatten maxBytes _ _ isCount
    rw [pushed, lastBytes_append] at isNext
    rw [List.foldl_cons, List.flatten_cons, ← List.append_assoc]
    exact ih isNext countedNext

theorem collected_tail (maxBytes : Nat) (chunks : List Bytes) :
    (collected maxBytes chunks).chunks.flatten = lastBytes maxBytes chunks.flatten := by
  have started : (BoundedCollector.mk [] 0).chunks.flatten = lastBytes maxBytes [] := by
    simp [lastBytes]
  exact pushes_tail chunks started rfl

theorem boundedText_tail (maxBytes : Nat) (chunks : List Bytes) :
    boundedText maxBytes chunks = tailOf maxBytes chunks := by
  rw [boundedText, tailOf]
  split
  next => rfl
  next short => rw [lastBytes_short (Nat.le_of_not_lt short)]

theorem bounded_tail (maxBytes : Nat) (chunks : List Bytes) :
    bounded maxBytes (collected maxBytes chunks).text = tailOf maxBytes chunks ↔
      Flagged maxBytes chunks.flatten := by
  rw [BoundedCollector.text, collected_tail, bounded, tailOf, Flagged]
  generalize chunks.flatten = stream
  generalize isBytes : encode (toText (lastBytes maxBytes stream)) = bytes
  have again : toText bytes = toText (lastBytes maxBytes stream) := by
    rw [← isBytes, toText_encode]
  rw [OutputText.mk.injEq, decide_eq_decide]
  by_cases more : stream.length > maxBytes <;> by_cases grown : bytes.length > maxBytes
  · simp [more, grown]
  · simp [more, grown]
  · simp [more, grown]
  · simp [more, grown, again, Nat.not_lt.mp grown]

end OpenRill.Sandbox.OutputTails
