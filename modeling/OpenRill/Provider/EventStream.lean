import OpenRill.Lib.JsonReading
import OpenRill.Lib.Text
import OpenRill.Lib.Utf8

/-!
# Server-sent events of a provider

`parseSse` reads the body of a response chunk by chunk, cuts the text at empty lines and
yields the JSON value of each piece that carries data. Beside it stand the events themselves:
lines that end in LF or CRLF, an empty line after them, and the value of their data fields.
-/

namespace OpenRill.Provider.EventStream

open OpenRill.Lib OpenRill.Lib.Utf8

/-- Why the stream ended early: the signal was aborted, the bytes are not UTF-8, the data
is not JSON (`MODEL_STREAM_INVALID`), or text is left without an empty line after it. -/
inductive StreamError where
  | aborted
  | undecodable
  | invalidJson
  | incompleteFrame
  deriving DecidableEq

/-- `buffer.indexOf("\n\n")`. -/
def indexOfBoundary : List Char → Option Nat
  | [] => none
  | char :: rest =>
    if char = '\n' ∧ rest.head? = some '\n' then some 0
    else (indexOfBoundary rest).map (fun index => index + 1)

def onFirstLine (char : Char) : List (List Char) → List (List Char)
  | [] => [[char]]
  | line :: more => (char :: line) :: more

/-- `frame.split(/\r?\n/)`. -/
def splitLines : List Char → List (List Char)
  | [] => [[]]
  | char :: rest =>
    if char = '\n' then [] :: splitLines rest
    else if char = '\r' ∧ rest.head? = some '\n' then splitLines rest
    else onFirstLine char (splitLines rest)

def dataPrefix : List Char := ['d', 'a', 't', 'a', ':']

def doneMark : List Char := ['[', 'D', 'O', 'N', 'E', ']']

/-- `line.slice(5).trimStart()` of a line that starts with `data:`. -/
def dataOfLine (line : List Char) : Option (List Char) :=
  if dataPrefix.isPrefixOf line then some ((line.drop 5).dropWhile Text.isTrimmed) else none

def frameData (frame : List Char) : List Char :=
  ['\n'].intercalate ((splitLines frame).filterMap dataOfLine)

def frameValue (frame : List Char) : Except StreamError (Option Json) :=
  let data := frameData frame
  if data = [] ∨ data = doneMark then .ok none
  else match parseJson data with
    | some value => .ok (some value)
    | none => .error .invalidJson

/-- The inner loop: frames are cut off the buffer while it has a boundary. -/
def drain : Nat → List Char → List Json → List Json × Except StreamError (List Char)
  | 0, buffer, yielded => (yielded, .ok buffer)
  | fuel + 1, buffer, yielded =>
    match indexOfBoundary buffer with
    | none => (yielded, .ok buffer)
    | some boundary =>
      match frameValue (buffer.take boundary) with
      | .error error => (yielded, .error error)
      | .ok value => drain fuel (buffer.drop (boundary + 2)) (yielded ++ value.toList)

structure Outcome where
  yielded : List Json
  failure : Option StreamError
  deriving DecidableEq

structure Reading where
  decoder : Decoder
  buffer : List Char
  yielded : List Json

/-- The reads of the body, the last of which is `done`; the signal is looked at before
each of them. -/
def readChunks (aborted : Nat → Bool) (turn : Nat) (reading : Reading) :
    List (List UInt8) → Outcome
  | [] =>
    if aborted turn then ⟨reading.yielded, some .aborted⟩
    else if !reading.decoder.finish then ⟨reading.yielded, some .undecodable⟩
    else
      match drain (reading.buffer.length + 1) reading.buffer reading.yielded with
      | (yielded, .error error) => ⟨yielded, some error⟩
      | (yielded, .ok buffer) =>
        if buffer.dropWhile Text.isTrimmed = [] then ⟨yielded, none⟩
        else ⟨yielded, some .incompleteFrame⟩
  | chunk :: rest =>
    if aborted turn then ⟨reading.yielded, some .aborted⟩
    else
      match reading.decoder.decode chunk with
      | none => ⟨reading.yielded, some .undecodable⟩
      | some (decoder, text) =>
        let buffer := reading.buffer ++ text
        match drain (buffer.length + 1) buffer reading.yielded with
        | (yielded, .error error) => ⟨yielded, some error⟩
        | (yielded, .ok buffer) => readChunks aborted (turn + 1) ⟨decoder, buffer, yielded⟩ rest

def parseSse (aborted : Nat → Bool) (body : List (List UInt8)) : Outcome :=
  readChunks aborted 0 ⟨.initial, [], []⟩ body

def unaborted : Nat → Bool := fun _ => false

inductive LineEnd where
  | lf
  | crlf
  deriving DecidableEq

def LineEnd.text : LineEnd → List Char
  | .lf => ['\n']
  | .crlf => ['\r', '\n']

/-- A line of an event: it is not empty and has no line ending inside. -/
structure Line where
  text : List Char
  ending : LineEnd
  not_empty : text ≠ []
  one_line : ∀ char ∈ text, char ≠ '\n' ∧ char ≠ '\r'

/-- The data that a line adds to its event: the value of a `data` field, without one leading
space. -/
def fieldData (line : List Char) : Option (List Char) :=
  if line = ['d', 'a', 't', 'a'] then some []
  else if dataPrefix.isPrefixOf line then
    match line.drop 5 with
    | ' ' :: value => some value
    | value => some value
  else none

/-- The data of an event: the data of its lines, one below the other. -/
def eventData (lines : List Line) : List Char :=
  ['\n'].intercalate (lines.filterMap (fun line => fieldData line.text))

/-- An event whose data is a JSON text. -/
structure Event where
  lines : List Line
  blank : LineEnd
  value : Json
  json : parseJson (eventData lines) = some value

def Line.written (line : Line) : List Char := line.text ++ line.ending.text

def Event.written (event : Event) : List Char :=
  event.lines.flatMap Line.written ++ event.blank.text

/-- The bytes of a stream of events, with or without a byte order mark before them. -/
def streamBytes (marked : Bool) (events : List Event) : List UInt8 :=
  encode ((if marked then [byteOrderMark] else []) ++ events.flatMap Event.written)

end OpenRill.Provider.EventStream
