import OpenRill.Lib.Json
import OpenRill.Lib.Text

/-!
# The tool registry and tool discovery

`ToolRegistry` with its checks, and the three control tools of tool discovery.
A tool is a program of the host or `tool.call`, which executes another
registered tool by name and never a control tool. Each run of the registry
keeps the names of the tools it executed.
-/

namespace OpenRill.Tools.Execution

open Lib Lib.Text

structure ToolDefinition where
  name : String
  description : String
  inputSchema : Json

/-- The abort signal as it reads when a tool starts and when it has ended. -/
structure Signal where
  abortedBefore : String → Bool
  abortedDuring : String → Bool

structure ToolExecutionContext where
  runId : String
  attemptId : String
  workspaceId : String
  conversationId : Option String
  toolCallId : Option String
  signal : Signal
  allowedToolNames : Option (List String)

structure ToolExecutionResult where
  output : Json
  isError : Bool

inductive ToolRuntimeErrorCode where
  | notFound
  | inputInvalid
  | aborted
  | executionFailed
  deriving DecidableEq

inductive ToolError where
  | runtime (code : ToolRuntimeErrorCode) (message : String)
  | approvalRequired (requestId : String)
  | waitRequired (data : Json)
  | other (message : String)

abbrev Outcome := Except ToolError ToolExecutionResult

def toolSearchName : String := "tool.search"

def toolDescribeName : String := "tool.describe"

def toolCallName : String := "tool.call"

def toolDiscoveryControlNames : List String := [toolSearchName, toolDescribeName, toolCallName]

/-- A registered tool: a program of the host, or the tool that calls others, to
which the name `tool.call` belongs. -/
inductive RegisteredTool where
  | program (definition : ToolDefinition) (validateInput : Json → Bool)
      (execute : Json → ToolExecutionContext → Outcome)
      (other : definition.name ≠ toolCallName)
  | callTool

def jsonBound (key : String) (value : Nat) : String × Json := (key, .number (toString value))

def callToolDefinition : ToolDefinition where
  name := toolCallName
  description :=
    "Execute one exact registered tool discovered through tool.search or tool.describe."
  inputSchema := .object
    [("type", .text "object"),
      ("properties", .object
        [("name", .object
            [("type", .text "string"), jsonBound "minLength" 1, jsonBound "maxLength" 128]),
          ("arguments", .object [("type", .text "object")])]),
      ("required", .list [.text "name", .text "arguments"]),
      ("additionalProperties", .flag false)]

/-- The target and the arguments of a valid input of `tool.call`. -/
def callTarget (input : Json) : Option (String × Json) :=
  match input.member "name", input.member "arguments" with
  | some (.text name), some (.object arguments) =>
    if 1 ≤ utf16Length name ∧ utf16Length name ≤ 128 then some (name, .object arguments)
    else none
  | _, _ => none

def RegisteredTool.definition : RegisteredTool → ToolDefinition
  | .program definition _ _ _ => definition
  | .callTool => callToolDefinition

def RegisteredTool.name (tool : RegisteredTool) : String := tool.definition.name

/-- The registered tools in the order of their registration. -/
structure Registry where
  tools : List RegisteredTool
  distinct : (tools.map RegisteredTool.name).Nodup
  named : ∀ tool ∈ tools, matchesToolPattern tool.name = true

def Registry.get (registry : Registry) (name : String) : Option RegisteredTool :=
  registry.tools.find? (fun tool => decide (tool.name = name))

def Registry.has (registry : Registry) (name : String) : Bool :=
  decide (name ∈ registry.tools.map RegisteredTool.name)

variable (localeBefore : String → String → Bool)

/-- The definitions in the order of `localeCompare` of their names. -/
def Registry.definitions (registry : Registry) : List ToolDefinition :=
  (registry.tools.map RegisteredTool.definition).insertionSort
    (fun first second => localeBefore first.name second.name = true)

variable {registry : Registry} {name : String}

theorem get_some {tool : RegisteredTool} (found : registry.get name = some tool) :
    tool ∈ registry.tools ∧ tool.name = name := by
  have named := List.find?_some found
  exact ⟨List.mem_of_find?_eq_some found, of_decide_eq_true named⟩

theorem get_isSome : (registry.get name).isSome = registry.has name := by
  unfold Registry.get Registry.has
  rw [Bool.eq_iff_iff, List.find?_isSome, decide_eq_true_iff]
  simp only [decide_eq_true_iff, List.mem_map]

theorem mem_definitions (localeBefore : String → String → Bool) (registry : Registry)
    (name : String) :
    name ∈ (registry.definitions localeBefore).map ToolDefinition.name ↔
      registry.has name = true := by
  unfold Registry.definitions Registry.has
  rw [decide_eq_true_iff]
  simp only [List.mem_map, List.mem_insertionSort]
  constructor
  · intro listed
    obtain ⟨definition, ⟨tool, toolIn, isDefinition⟩, isName⟩ := listed
    refine ⟨tool, toolIn, ?_⟩
    rw [← isName, ← isDefinition]
    rfl
  · intro listed
    obtain ⟨tool, toolIn, isName⟩ := listed
    exact ⟨tool.definition, ⟨tool, toolIn, rfl⟩, isName⟩

variable {executed : String}

/-- What one call of the registry did: the tools it executed, and its outcome. -/
structure Ran where
  executed : List String
  outcome : Outcome

def refused (code : ToolRuntimeErrorCode) (message : String) : Ran where
  executed := []
  outcome := .error (.runtime code message)

/-- The error object that a control tool answers with. -/
def toolFault (code message : String) : ToolExecutionResult where
  output := .object [("error", .object [("code", .text code), ("message", .text message)])]
  isError := true

def answered (executed : List String) (result : ToolExecutionResult) : Ran where
  executed := executed
  outcome := .ok result

/-- `exactDefinition`: a registered tool that is no control tool. -/
def exactDefinition (registry : Registry) (name : String) : Bool :=
  registry.has name && !toolDiscoveryControlNames.contains name

/-- The registry's `execute` once the tool has run: an abort during it, and the
errors that pass through. -/
def settle (name : String) (context : ToolExecutionContext) : Outcome → Outcome
  | .ok result =>
    if context.signal.abortedDuring name = true then
      .error (.runtime .aborted ("tool aborted during execution: " ++ name))
    else .ok result
  | .error (.other _) =>
    .error (.runtime .executionFailed ("tool execution failed: " ++ name))
  | .error failure => .error failure

def Ran.settled (ran : Ran) (name : String) (context : ToolExecutionContext) : Ran :=
  { ran with outcome := settle name context ran.outcome }

/-- `context.toolCallId ? context.toolCallId + ":" + name : name`. -/
def nestedCallId (context : ToolExecutionContext) (name : String) : String :=
  match context.toolCallId with
  | some toolCallId => if toolCallId = "" then name else toolCallId ++ ":" ++ name
  | none => name

/-- The answer of `tool.call` around that of its target. -/
def Ran.through (ran : Ran) (target : String) : Ran where
  executed := toolCallName :: ran.executed
  outcome :=
    match ran.outcome with
    | .ok result =>
      .ok
        { output := .object [("tool", .text target), ("result", result.output)]
          isError := result.isError }
    | .error failure => .error failure

theorem callTool_name (found : registry.get name = some .callTool) : name = toolCallName :=
  (get_some found).2.symm

def Registry.execute (registry : Registry) (name : String) (input : Json)
    (context : ToolExecutionContext) : Ran :=
  if context.signal.abortedBefore name = true then
    refused .aborted ("tool aborted before execution: " ++ name)
  else
    match _found : registry.get name with
    | none => refused .notFound ("tool not found: " ++ name)
    | some (.program _ validateInput run _) =>
      if validateInput input = true then
        Ran.settled ⟨[name], run input context⟩ name context
      else refused .inputInvalid ("tool input is invalid: " ++ name)
    | some .callTool =>
      match callTarget input with
      | none => refused .inputInvalid ("tool input is invalid: " ++ name)
      | some (target, arguments) =>
        if _control : toolDiscoveryControlNames.contains target = true then
          Ran.settled (answered [name] (toolFault "TOOL_CALL_RECURSION_DENIED"
            ("control tool cannot target itself: " ++ target))) name context
        else if context.allowedToolNames.any (fun allowed => !allowed.contains target) then
          Ran.settled (answered [name] (toolFault "TOOL_NOT_ALLOWED"
            ("tool is outside the durable Run scope: " ++ target))) name context
        else if exactDefinition registry target = false then
          Ran.settled (answered [name] (toolFault "TOOL_NOT_FOUND"
            ("tool not found: " ++ target))) name context
        else
          let nested := registry.execute target arguments
            { context with toolCallId := some (nestedCallId context target) }
          (nested.through target).settled name context
termination_by if name = toolCallName then 1 else 0
decreasing_by
  have isCall : name = toolCallName := callTool_name _found
  have other : target ≠ toolCallName := by
    intro same
    apply _control
    rw [same]
    decide
  simp [isCall, other]

theorem execute_program (other : name ≠ toolCallName) (input : Json)
    (context : ToolExecutionContext)
    (ran : executed ∈ (registry.execute name input context).executed) :
    executed = name ∧ registry.has name = true := by
  rw [Registry.execute] at ran
  split at ran
  next => cases ran
  next =>
    split at ran
    next => cases ran
    next definition validateInput run isOther found =>
      have registered : registry.has name = true := by
        rw [← get_isSome, found]
        rfl
      split at ran
      next => exact ⟨List.mem_singleton.mp ran, registered⟩
      next => cases ran
    next found => exact absurd (callTool_name found) other

/-- A call of `tool.call` executes it, and at most one tool besides, which is
registered, inside the scope of the context and no control tool. -/
theorem execute_callTool (input : Json) (context : ToolExecutionContext)
    (ran : executed ∈ (registry.execute toolCallName input context).executed) :
    registry.has toolCallName = true ∧
      (executed = toolCallName ∨
        (toolDiscoveryControlNames.contains executed = false ∧
          context.allowedToolNames.all (fun allowed => allowed.contains executed) = true ∧
          registry.has executed = true)) := by
  rw [Registry.execute] at ran
  split at ran
  next => cases ran
  next =>
    split at ran
    next => cases ran
    next definition validateInput run isOther found =>
      exact absurd (get_some found).2 isOther
    next found =>
      have registered : registry.has toolCallName = true := by
        rw [← get_isSome, found]
        rfl
      refine ⟨registered, ?_⟩
      split at ran
      next => cases ran
      next target arguments _ =>
        split at ran
        next => exact .inl (List.mem_singleton.mp ran)
        next control =>
          split at ran
          next => exact .inl (List.mem_singleton.mp ran)
          next allowed =>
            split at ran
            next => exact .inl (List.mem_singleton.mp ran)
            next =>
              rcases List.mem_cons.mp ran with own | nested
              · exact .inl own
              have other : target ≠ toolCallName := by
                intro same
                apply control
                rw [same]
                decide
              obtain ⟨isTarget, registeredTarget⟩ :=
                execute_program other _ _ nested
              rw [isTarget]
              refine .inr ⟨eq_false_of_ne_true control, ?_, registeredTarget⟩
              cases scope : context.allowedToolNames with
              | none => rfl
              | some names =>
                rw [scope] at allowed
                simpa using allowed

structure ToolDiscoveryOptions where
  directToolNames : Option (List String)
  preferredToolNames : Option (List String)
  compactThreshold : Option Nat

structure ToolDiscoveryView where
  definitions : List ToolDefinition
  compacted : Bool
  catalogSize : Nat
  visibleNames : List String
  hiddenNames : List String

def defaultDirectToolNames : List String :=
  [ "workspace.list", "workspace.stat", "workspace.read", "workspace.search",
    "memory.remember", "memory.search", "memory.get", "memory.forget",
    "goal.create", "goal.get", "plan.set", "plan.update", "goal.report_blocker",
    "goal.control", "goal.complete", "process.run" ]

def ToolDiscoveryOptions.threshold (options : ToolDiscoveryOptions) : Nat :=
  max 1 (min 64 (options.compactThreshold.getD 12))

/-- The names that stay visible when the catalogue is compacted. -/
def ToolDiscoveryOptions.visible (options : ToolDiscoveryOptions) : List String :=
  options.directToolNames.getD defaultDirectToolNames ++ options.preferredToolNames.getD [] ++
    toolDiscoveryControlNames

def resolveToolDiscoveryView (localeBefore : String → String → Bool) (registry : Registry)
    (options : ToolDiscoveryOptions) : ToolDiscoveryView :=
  let all := registry.definitions localeBefore
  let catalog := all.filter (fun item => !toolDiscoveryControlNames.contains item.name)
  if catalog.length ≤ options.threshold then
    { definitions := all
      compacted := false
      catalogSize := catalog.length
      visibleNames := all.map ToolDefinition.name
      hiddenNames := [] }
  else
    let definitions := all.filter (fun item => options.visible.contains item.name)
    let visibleNames := definitions.map ToolDefinition.name
    { definitions := definitions
      compacted := true
      catalogSize := catalog.length
      visibleNames := visibleNames
      hiddenNames := (catalog.filter (fun item => !visibleNames.contains item.name)).map
        ToolDefinition.name }

end OpenRill.Tools.Execution
