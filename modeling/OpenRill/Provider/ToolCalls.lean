import OpenRill.Lib.Json
import OpenRill.Provider.ToolNames

/-!
# Function calls in a provider stream

The events of a response, read from their JSON, and what the adapter makes of them: function
calls are accumulated under the identities that their events carry, and are emitted when
their item is done or when the response ends. The usage report of a response is left out.
-/

namespace OpenRill.Provider.ToolCalls

open OpenRill.Lib OpenRill.Lib.Checked
open ToolNames

structure CallFields where
  callId : Option String
  itemId : Option String
  name : Option String
  text : Option String
  deriving DecidableEq

inductive StreamEvent where
  | created (providerResponseId : Option String)
  | textDelta (delta : Option String)
  | reasoningDelta (delta : Option String)
  | itemAdded (fields : CallFields)
  | argumentsDelta (fields : CallFields)
  | argumentsDone (fields : CallFields)
  | itemDone (fields : CallFields)
  | ended (incomplete : Bool) (providerResponseId : Option String)
  | failed (error : ModelAdapterError)
  | other
  deriving DecidableEq

def streamInvalid (message : String) : ModelAdapterError :=
  ⟨.modelStreamInvalid, message, false⟩

def asRecord : Option Json → Option Json
  | some (.object members) => some (.object members)
  | _ => none

def member (record : Option Json) (key : String) : Option Json :=
  match record with
  | some (.object members) =>
    (members.find? (fun member => member.1 == key)).map Prod.snd
  | _ => none

def readString (record : Option Json) (key : String) : Option String :=
  record.bind (fun document => document.textMember key)

def occursIn (text : List Char) : List Char → Bool
  | [] => text.isEmpty
  | char :: rest => text.isPrefixOf (char :: rest) || occursIn text rest

def retryableWords : List String := ["rate", "timeout", "server", "temporar", "overload"]

def normalizeFailure (event : Json) : ModelAdapterError :=
  let error := (asRecord (member (some event) "error")).or
    (asRecord (member (asRecord (member (some event) "response")) "error"))
  let message := ((readString error "message").or (readString (some event) "message")).getD
    "provider stream failed"
  let code := ((readString error "code").or (readString (some event) "code")).getD ""
  let words := ((code ++ " " ++ message).toList.map Char.toLower)
  if retryableWords.any (fun word => occursIn word.toList words) then
    ⟨.modelTransportFailed, message, true⟩
  else ⟨.modelProviderFailed, message, false⟩

def itemFields (item : Option Json) : CallFields where
  callId := readString item "call_id"
  itemId := readString item "id"
  name := readString item "name"
  text := readString item "arguments"

def eventFields (event : Json) (text : String) : CallFields where
  callId := readString (some event) "call_id"
  itemId := readString (some event) "item_id"
  name := readString (some event) "name"
  text := readString (some event) text

/-- The event that a value of the stream is, if it is a typed object. -/
def readEvent (raw : Json) : Except ModelAdapterError StreamEvent :=
  match asRecord (some raw), readString (some raw) "type" with
  | some event, some type =>
    let item := asRecord (member (some event) "item")
    let response := asRecord (member (some event) "response")
    let isCall := readString item "type" = some "function_call"
    if type = "" then .error (streamInvalid "provider stream event is not a typed object")
    else if type = "response.created" then .ok (.created (readString response "id"))
    else if type = "response.output_text.delta" then
      .ok (.textDelta (readString (some event) "delta"))
    else if type = "response.reasoning_summary_text.delta" ∨
        type = "response.reasoning_text.delta" then
      .ok (.reasoningDelta (readString (some event) "delta"))
    else if type = "response.output_item.added" then
      .ok (if isCall then .itemAdded (itemFields item) else .other)
    else if type = "response.function_call_arguments.delta" then
      .ok (.argumentsDelta (eventFields event "delta"))
    else if type = "response.function_call_arguments.done" then
      .ok (.argumentsDone (eventFields event "arguments"))
    else if type = "response.output_item.done" then
      .ok (if isCall then .itemDone (itemFields item) else .other)
    else if type = "response.completed" then .ok (.ended false (readString response "id"))
    else if type = "response.incomplete" then .ok (.ended true (readString response "id"))
    else if type = "error" ∨ type = "response.failed" then
      .ok (.failed (normalizeFailure event))
    else .ok .other
  | _, _ => .error (streamInvalid "provider stream event is not a typed object")

structure ToolAccumulator where
  toolCallId : String
  name : String
  argumentsJson : String
  emitted : Bool
  deriving DecidableEq

/-- The accumulators in the order of their creation, and the place of the one that an
identity is bound to. -/
structure ToolAccumulatorState where
  accumulators : List ToolAccumulator
  byIdentity : List (String × Nat)
  deriving DecidableEq

structure ToolCallEvent where
  toolCallId : String
  name : String
  argumentsJson : String
  deriving DecidableEq

/-- An empty string counts as absent. -/
def given (text : Option String) : Option String := text.filter (fun text => text != "")

def bindToolAccumulatorIdentity (state : ToolAccumulatorState) (identity : Option String)
    (current : Nat) : Except ModelAdapterError ToolAccumulatorState :=
  match identity with
  | none => .ok state
  | some identity =>
    match state.byIdentity.lookup identity with
    | some existing =>
      if existing = current then
        .ok { state with byIdentity := (identity, current) :: state.byIdentity }
      else .error (streamInvalid ("provider reused a function-call identity: " ++ identity))
    | none => .ok { state with byIdentity := (identity, current) :: state.byIdentity }

/-- The accumulator that two identities lead to, if any. -/
def existingAccumulator (state : ToolAccumulatorState) (callId itemId : Option String) :
    Except ModelAdapterError (Option Nat) := do
  let byCall := callId.bind (fun identity => state.byIdentity.lookup identity)
  let byItem := itemId.bind (fun identity => state.byIdentity.lookup identity)
  require (byCall = none ∨ byItem = none ∨ byCall = byItem)
    (streamInvalid "provider function-call identities resolve to different calls")
  return byCall.or byItem

def newAccumulator (callId itemId : Option String) : ToolAccumulator where
  toolCallId := (callId.or itemId).getD ""
  name := ""
  argumentsJson := ""
  emitted := false

/-- The accumulator at hand, which the call's own identity names from now on. -/
def currentAccumulator (state : ToolAccumulatorState) (existing : Option Nat)
    (callId itemId : Option String) : ToolAccumulator :=
  let current := (existing.bind (fun place => state.accumulators[place]?)).getD
    (newAccumulator callId itemId)
  { current with toolCallId := callId.getD current.toolCallId }

def keepAccumulator (state : ToolAccumulatorState) (existing : Option Nat)
    (current : ToolAccumulator) : ToolAccumulatorState :=
  match existing with
  | some place => { state with accumulators := state.accumulators.set place current }
  | none => { state with accumulators := state.accumulators ++ [current] }

def resolveToolAccumulator (state : ToolAccumulatorState) (callId itemId : Option String) :
    Except ModelAdapterError (Nat × ToolAccumulator × ToolAccumulatorState) := do
  let existing ← existingAccumulator state callId itemId
  let current := currentAccumulator state existing callId itemId
  require (current.toolCallId ≠ "") (streamInvalid "function call has no identity")
  let place := existing.getD state.accumulators.length
  let bound ← bindToolAccumulatorIdentity (keepAccumulator state existing current) callId place
  let both ← bindToolAccumulatorIdentity bound itemId place
  return (place, current, both)

def applyProviderToolName (current : ToolAccumulator) (aliases : ToolNameAliases)
    (providerName : Option String) : Except ModelAdapterError ToolAccumulator :=
  match given providerName with
  | none => .ok current
  | some providerName => do
      let canonicalName ← canonicalToolName aliases providerName
      require (current.name = "" ∨ current.name = canonicalName)
        (streamInvalid "provider changed a function name within one call")
      return { current with name := canonicalName }

def orEmptyObject (argumentsJson : String) : String :=
  if argumentsJson = "" then "{}" else argumentsJson

def toolCallEvent (current : ToolAccumulator) : Except ModelAdapterError ToolCallEvent := do
  require (current.toolCallId ≠ "") (streamInvalid "completed function call has no identity")
  require (current.name ≠ "") (streamInvalid "completed function call has no name")
  return ⟨current.toolCallId, current.name, orEmptyObject current.argumentsJson⟩

/-- The accumulator of a call's event, with the event's name and a change of its arguments. -/
def accumulate (aliases : ToolNameAliases) (state : ToolAccumulatorState) (fields : CallFields)
    (change : String → String) :
    Except ModelAdapterError (Nat × ToolAccumulator × ToolAccumulatorState) := do
  let (place, found, resolved) ← resolveToolAccumulator state (given fields.callId)
    (given fields.itemId)
  let named ← applyProviderToolName found aliases fields.name
  let current := { named with argumentsJson := change named.argumentsJson }
  return (place, current, { resolved with accumulators := resolved.accumulators.set place current })

inductive StopReason where
  | toolCalls
  | length
  | stop
  deriving DecidableEq

inductive ModelStreamEvent where
  | started (providerResponseId : Option String)
  | textDelta (delta : String)
  | reasoningDelta (delta : String)
  | toolCall (event : ToolCallEvent)
  | completed (stopReason : StopReason) (providerResponseId : Option String)
  deriving DecidableEq

structure Outcome where
  yielded : List ModelStreamEvent
  failure : Option ModelAdapterError
  deriving DecidableEq

def Outcome.after (yielded : List ModelStreamEvent) (outcome : Outcome) : Outcome :=
  ⟨yielded ++ outcome.yielded, outcome.failure⟩

/-- The calls that are not emitted yet, up to the first that cannot be. -/
def emitRest : List ToolAccumulator → List ModelStreamEvent × Option ModelAdapterError
  | [] => ([], none)
  | current :: rest =>
    if current.emitted then emitRest rest
    else match toolCallEvent current with
      | .error error => ([], some error)
      | .ok event => (.toolCall event :: (emitRest rest).1, (emitRest rest).2)

def endStream (state : ToolAccumulatorState) (incomplete : Bool)
    (providerResponseId : Option String) : Outcome :=
  match emitRest state.accumulators with
  | (yielded, some error) => ⟨yielded, some error⟩
  | (yielded, none) =>
    ⟨yielded ++ [.completed (if 0 < state.accumulators.length then .toolCalls
      else if incomplete then .length else .stop) (given providerResponseId)], none⟩

/-- One event that does not end the stream: what it yields, and the state after it. -/
def streamStep (aliases : ToolNameAliases) (state : ToolAccumulatorState) :
    StreamEvent → Except ModelAdapterError (List ModelStreamEvent × ToolAccumulatorState)
  | .created providerResponseId => .ok ([.started (given providerResponseId)], state)
  | .textDelta delta => .ok ((given delta).toList.map .textDelta, state)
  | .reasoningDelta delta => .ok ((given delta).toList.map .reasoningDelta, state)
  | .itemAdded fields => do
      let (_, _, reached) ← accumulate aliases state fields
        (fun argumentsJson => fields.text.getD argumentsJson)
      return ([], reached)
  | .argumentsDelta fields =>
    if given fields.callId = none ∧ given fields.itemId = none then .ok ([], state)
    else do
      let (_, _, reached) ← accumulate aliases state fields
        (fun argumentsJson => argumentsJson ++ fields.text.getD "")
      return ([], reached)
  | .argumentsDone fields =>
    if given fields.callId = none ∧ given fields.itemId = none then .ok ([], state)
    else do
      let (_, _, reached) ← accumulate aliases state fields
        (fun argumentsJson => fields.text.getD (orEmptyObject argumentsJson))
      return ([], reached)
  | .itemDone fields => do
      let (place, current, reached) ← accumulate aliases state fields
        (fun argumentsJson => fields.text.getD (orEmptyObject argumentsJson))
      if current.emitted then return ([], reached)
      else do
        let event ← toolCallEvent current
        return ([.toolCall event],
          { reached with
            accumulators := reached.accumulators.set place { current with emitted := true } })
  | .failed error => .error error
  | _ => .ok ([], state)

/-- The loop over the events, up to the one that ends the response. -/
def consume (aliases : ToolNameAliases) (state : ToolAccumulatorState) : List Json → Outcome
  | [] =>
    ⟨[], some ⟨.modelStreamInvalid, "provider stream ended without a terminal event", true⟩⟩
  | raw :: rest =>
    match readEvent raw with
    | .error error => ⟨[], some error⟩
    | .ok (.ended incomplete providerResponseId) =>
      endStream state incomplete providerResponseId
    | .ok event =>
      match streamStep aliases state event with
      | .error error => ⟨[], some error⟩
      | .ok (yielded, reached) => (consume aliases reached rest).after yielded

/-- The events of the model for the values of a provider stream. -/
def stream (aliases : ToolNameAliases) (raws : List Json) : Outcome :=
  consume aliases ⟨[], []⟩ raws

end OpenRill.Provider.ToolCalls
