import OpenRill.Lib.Checked
import OpenRill.Lib.JsonText
import OpenRill.Lib.Text

/-!
# Frames of the local protocol

The frames that a client and the host exchange, and the validation of the two that a client
sends. A numeral of a document is kept as it was written; which integer it is and how
`JSON.stringify` writes the number are left to the language.
-/

namespace OpenRill.Protocol.Frames

open OpenRill.Lib OpenRill.Lib.Checked

/-- What the language makes of a numeral: the integer that the number is, if it is one, and
the text that `JSON.stringify` writes for it. -/
structure Numerals where
  integer : String → Option Nat
  stringified : String → Token

structure ProtocolClientMetadata where
  id : String
  version : String
  platform : String
  kind : String
  instanceId : Option String
  deriving DecidableEq

structure OpenFrame where
  minProtocol : Nat
  maxProtocol : Nat
  client : ProtocolClientMetadata
  token : String
  cursor : Option Nat
  deriving DecidableEq

structure CallFrame where
  callId : String
  idempotencyKey : String
  operation : String
  input : Json
  deriving DecidableEq

inductive ProtocolRejectCode where
  | invalidHandshake
  | protocolMismatch
  | authFailed
  deriving DecidableEq

structure RejectedFrame where
  code : ProtocolRejectCode
  message : String
  retryable : Bool
  deriving DecidableEq

inductive ProtocolOperationErrorCode where
  | invalidFrame
  | operationNotFound
  | invalidInput
  | idempotencyConflict
  | internalError
  | notFound
  | accessDenied
  | conflict
  | invalidState
  deriving DecidableEq

structure ProtocolOperationError where
  code : ProtocolOperationErrorCode
  message : String
  retryable : Bool
  deriving DecidableEq

structure ResultFrame where
  callId : String
  answer : Except ProtocolOperationError Json
  replayed : Bool
  deriving DecidableEq

structure NoticeFrame where
  topic : String
  sequence : Nat
  emittedAt : String
  data : Json
  deriving DecidableEq

structure Welcome where
  connectionId : String
  version : String
  profile : String
  instanceId : String
  status : Json
  deriving DecidableEq

structure AcceptedFrame where
  protocol : Nat
  welcome : Welcome
  operations : List (String × String)
  cursor : Nat
  resyncRequired : Bool
  deriving DecidableEq

inductive ServerProtocolFrame where
  | accepted (frame : AcceptedFrame)
  | rejected (frame : RejectedFrame)
  | result (frame : ResultFrame)
  | notice (frame : NoticeFrame)
  deriving DecidableEq

def hasExactKeys (members : List (String × Json)) (required optional : List String) : Bool :=
  required.all (fun key => members.any (fun member => decide (member.1 = key))) &&
    members.all (fun member => (required ++ optional).contains member.1)

def boundedString (value : Option Json) (least most : Nat) : Option String :=
  match value with
  | some (.text text) =>
    if least ≤ Text.utf16Length text ∧ Text.utf16Length text ≤ most then some text else none
  | _ => none

def boundedInteger (numerals : Numerals) (value : Option Json) (least most : Nat) :
    Option Nat :=
  match value with
  | some (.number literal) =>
    (numerals.integer literal).filter (fun number => least ≤ number && number ≤ most)
  | _ => none

def optionalMember {Value : Type} (members : List (String × Json)) (key : String)
    (read : Option Json → Option Value) (failure : String) : Except String (Option Value) :=
  match members.lookup key with
  | none => .ok none
  | some value => (fetch (read (some value)) failure).map some

def maxSafeInteger : Nat := 9007199254740991

def clientKinds : List String := ["cli", "web", "desktop", "test"]

def record (value : Option Json) : Option (List (String × Json)) :=
  match value with
  | some (.object members) => some members
  | _ => none

def validateOpenFrame (numerals : Numerals) (value : Json) : Except String OpenFrame := do
  let frame ← fetch (record (some value)) "open frame must be a closed object"
  require (hasExactKeys frame ["type", "minProtocol", "maxProtocol", "client", "credential"]
    ["cursor"] = true) "open frame must be a closed object"
  require (frame.lookup "type" = some (.text "open")) "first frame type must be open"
  let minProtocol ← fetch (boundedInteger numerals (frame.lookup "minProtocol") 1 65535)
    "invalid protocol range"
  let maxProtocol ← fetch (boundedInteger numerals (frame.lookup "maxProtocol") 1 65535)
    "invalid protocol range"
  require (minProtocol ≤ maxProtocol) "invalid protocol range"
  let cursor ← optionalMember frame "cursor"
    (fun value => boundedInteger numerals value 0 maxSafeInteger) "invalid notice cursor"
  let client ← fetch (record (frame.lookup "client")) "client metadata must be a closed object"
  require (hasExactKeys client ["id", "version", "platform", "kind"] ["instanceId"] = true)
    "client metadata must be a closed object"
  let id ← fetch (boundedString (client.lookup "id") 1 64) "invalid client metadata"
  let version ← fetch (boundedString (client.lookup "version") 1 64) "invalid client metadata"
  let platform ← fetch (boundedString (client.lookup "platform") 1 64) "invalid client metadata"
  let kind ← fetch ((clientKinds.find? (fun kind => client.lookup "kind" = some (.text kind))))
    "invalid client kind"
  let instanceId ← optionalMember client "instanceId" (fun value => boundedString value 1 128)
    "invalid client instanceId"
  let credential ← fetch (record (frame.lookup "credential")) "credential must be a closed object"
  require (hasExactKeys credential ["kind", "token"] [] = true) "credential must be a closed object"
  require (credential.lookup "kind" = some (.text "profile-token")) "invalid profile credential"
  let token ← fetch (boundedString (credential.lookup "token") 24 512) "invalid profile credential"
  return { minProtocol, maxProtocol, client := { id, version, platform, kind, instanceId },
           token, cursor }

def validateCallFrame (value : Json) : Except String CallFrame := do
  let frame ← fetch (record (some value)) "call frame must be a closed object"
  require (hasExactKeys frame ["type", "callId", "idempotencyKey", "operation", "input"] []
    = true) "call frame must be a closed object"
  require (frame.lookup "type" = some (.text "call")) "authenticated client frame type must be call"
  let callId ← fetch (boundedString (frame.lookup "callId") 1 128) "invalid callId"
  let idempotencyKey ← fetch (boundedString (frame.lookup "idempotencyKey") 1 128)
    "invalid idempotencyKey"
  let operation ← fetch (boundedString (frame.lookup "operation") 1 128) "invalid operation"
  let input ← fetch (frame.lookup "input") "call frame must be a closed object"
  return { callId, idempotencyKey, operation, input }

def parseJsonFrame (text : List Char) : Except String Json :=
  fetch (parseJson text) "frame must contain valid JSON"

def negotiateProtocol (minProtocol maxProtocol serverMin serverMax : Nat) : Option Nat :=
  if max minProtocol serverMin ≤ min maxProtocol serverMax then some (min maxProtocol serverMax)
  else none

def openrillProtocolMin : Nat := 1

def openrillProtocolMax : Nat := 1

mutual

def canonical (stringified : String → Token) : Json → List Token
  | .null => [.null]
  | .flag value => [.flag value]
  | .number literal => [stringified literal]
  | .text value => [.text value]
  | .list items => .openList :: (joined (canonicalItems stringified items) ++ [.closeList])
  | .object members => objectText (canonicalMembers stringified members)

def canonicalItems (stringified : String → Token) : List Json → List (List Token)
  | [] => []
  | item :: rest => canonical stringified item :: canonicalItems stringified rest

def canonicalMembers (stringified : String → Token) :
    List (String × Json) → List (String × List Token)
  | [] => []
  | (key, value) :: rest =>
    (key, canonical stringified value) :: canonicalMembers stringified rest

end

end OpenRill.Protocol.Frames
