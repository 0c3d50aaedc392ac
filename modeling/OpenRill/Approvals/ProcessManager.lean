import OpenRill.Approvals.Service
import OpenRill.Lib.Runs

/-!
# The process manager over the approval tables

`process.run` and `executeApproved`, with what a call holds in memory between its
transactions: an allowed call before it begins, a prepared execution before its record is
inserted, and a recorded one before the process is started. Any other transaction may come
in between, and a restart drops all three. `beginAllowedToolCall` is called on what
`authorizeOrRequest` allowed, and `completeToolCall` by the execution of the call.

`decisions`, `consumptions` and `started` are no tables: they record what the policy
decided, which requests were consumed, and which processes were started. No operation reads
them.
-/

namespace OpenRill.Approvals.ProcessManager

open Lib Lib.Checked Lib.Runs Ledger Service

def textList (items : List String) : Json := .list (items.map Json.text)

def CommandSpec.json : CommandSpec → Json
  | .argv executable args =>
    .object
      ([("kind", .text "argv"), ("executable", .text executable)] ++
        (args.map (fun items => ("args", textList items))).toList)
  | .shell script => .object [("kind", .text "shell"), ("script", .text script)]

def ProcessRunInput.json (input : ProcessRunInput) : Json :=
  .object
    ([("command", CommandSpec.json input.command)] ++
      optionalMember "cwd" input.cwd ++
      (input.env.map (fun env => ("env", env))).toList ++
      (input.background.map (fun flag => ("background", Json.flag flag))).toList ++
      (input.timeoutMs.map (fun amount => ("timeoutMs", Json.number (toString amount)))).toList)

def typed (name : String) : Json := .object [("type", .text name)]

def commandSchema (kind member : String) (more : List (String × Json)) : Json :=
  .object
    [ ("type", .text "object"),
      ("additionalProperties", .flag false),
      ("required", textList ["kind", member]),
      ("properties",
        .object ([("kind", .object [("const", .text kind)]), (member, typed "string")] ++ more)) ]

def processRunSchema : Json :=
  .object
    [ ("type", .text "object"),
      ("additionalProperties", .flag false),
      ("required", textList ["command"]),
      ("properties",
        .object
          [ ("command",
              .object
                [ ("oneOf",
                    .list
                      [ commandSchema "argv" "executable"
                          [ ("args",
                              .object [("type", .text "array"), ("items", typed "string")]) ],
                        commandSchema "shell" "script" [] ]) ]),
            ("cwd", typed "string"),
            ("env", typed "object"),
            ("background", typed "boolean"),
            ("timeoutMs", typed "integer") ]) ]

def commandExecutable (options : ApprovalOptions) : CommandSpec → String
  | .argv executable _ => executable
  | .shell _ => options.shellExecutable

/-- A call of `process.run` with the directory that its workspace resolved. -/
structure ProcessCall where
  input : ProcessRunInput
  context : ToolContext
  cwdRelative : String

def ProcessRunInput.isBackground (input : ProcessRunInput) : Bool :=
  decide (input.background = some true)

def bindingInput (options : ApprovalOptions) (call : ProcessCall) (policy : ExecutionPolicy) :
    BindingInput where
  context := call.context
  toolName := "process.run"
  input := ProcessRunInput.json call.input
  toolSchema := processRunSchema
  policySubject :=
    { commandKind := call.input.command.kind
      executable := commandExecutable options call.input.command
      cwd := call.cwdRelative
      background := ProcessRunInput.isBackground call.input }
  policy := policy
  continuation :=
    { input := call.input
      context := call.context }

structure PreparedExecution where
  input : ProcessRunInput
  context : ToolContext
  toolExecutionId : String
  bindingDigest : String

structure ProcessRef where
  processId : String
  toolExecutionId : String
  runId : String
  toolCallId : String
  deriving DecidableEq

structure DecisionEntry where
  toolExecutionId : String
  conversationId : String
  bindingDigest : String
  decision : PolicyDecision
  fingerprint : String
  granted : Bool
  deriving DecidableEq

structure ConsumptionEntry where
  requestId : String
  bindingDigest : String
  deriving DecidableEq

structure ProcessHost where
  tables : ApprovalTables
  allowed : List PreparedExecution
  prepared : List PreparedExecution
  recorded : List ProcessRef
  decisions : List DecisionEntry
  consumptions : List ConsumptionEntry
  started : List ProcessRef

def ProcessHost.empty : ProcessHost where
  tables := ApprovalTables.empty
  allowed := []
  prepared := []
  recorded := []
  decisions := []
  consumptions := []
  started := []

inductive ProcessOp where
  | authorize (call : ProcessCall) (policy : ExecutionPolicy) (now : Nat)
      (createId : Nat → String)
  | begin (index now : Nat)
  | resolve (requestId : String) (expectedVersion : Nat) (decision : ApprovalDecision)
      (now : Nat)
  | consume (requestId : String) (expectedVersion : Nat) (bindingDigest : String) (now : Nat)
  | executeApproved (requestId : String) (now : Nat)
  | cancel (requestId : String) (now : Nat)
  | expirePending (now : Nat)
  | recordApprovalTerminalResult (requestId : String) (status : TerminalResult) (result : Json)
      (errorCode : String) (now : Nat)
  | prepareFails (index : Nat) (result : Json) (errorCode : String) (now : Nat)
  | insertProcess (index : Nat) (processId : String) (now : Nat)
  | startProcess (index : Nat)
  | startFails (index : Nat)
  | updateProcess (input : ProcessUpdate)
  | completeToolCall (processId : String) (result : Json) (isError : Bool)
      (errorCode : Option String) (now : Nat)
  | restart (now : Nat)

variable (options : ApprovalOptions) (host : ProcessHost)

def decisionEntry (input : BindingInput) (reply : Authorization) : DecisionEntry where
  toolExecutionId := reply.toolExecutionId
  conversationId := input.context.conversationId
  bindingDigest := (bindingOf options input).bindingDigest
  decision := (policyOf options input).decision
  fingerprint := (policyOf options input).fingerprint
  granted :=
    match reply with
    | .allow _ _ _ grantedByConversation => grantedByConversation
    | _ => false

def allowedExecution (call : ProcessCall) : Authorization → List PreparedExecution
  | .allow bindingDigest _ toolExecutionId _ =>
    [{ input := call.input
       context := call.context
       toolExecutionId := toolExecutionId
       bindingDigest := bindingDigest }]
  | _ => []

/-- `run` up to its authorization. A denied call returns an error result and one that
asks throws. -/
def authorize (call : ProcessCall) (policy : ExecutionPolicy) (now : Nat)
    (createId : Nat → String) : ProcessHost :=
  let input := bindingInput options call policy
  match authorizeOrRequest options host.tables input now createId with
  | .error _ => host
  | .ok (tables, reply) =>
    { host with
      tables := tables
      allowed := host.allowed ++ allowedExecution call reply
      decisions := host.decisions ++ [decisionEntry options input reply] }

def begin (index now : Nat) : ProcessHost :=
  match host.allowed[index]? with
  | none => host
  | some execution =>
    match beginAllowedToolCall host.tables execution.toolExecutionId now with
    | .error _ => { host with allowed := host.allowed.eraseIdx index }
    | .ok (tables, _) =>
      { host with
        tables := tables
        allowed := host.allowed.eraseIdx index
        prepared := host.prepared ++ [execution] }

def consumptionOf (requestId bindingDigest : String) : ConsumptionEntry where
  requestId := requestId
  bindingDigest := bindingDigest

def consume (requestId : String) (expectedVersion : Nat) (bindingDigest : String)
    (now : Nat) : ProcessHost :=
  match Service.consume host.tables requestId expectedVersion bindingDigest now with
  | .error _ => host
  | .ok (tables, _) =>
    { host with
      tables := tables
      consumptions := host.consumptions ++ [consumptionOf requestId bindingDigest] }

/-- `executeApproved`: the request is read and consumed, and its stored call is run. What
`process.run` stored validates. -/
def executeApproved (requestId : String) (now : Nat) : ProcessHost :=
  match host.tables.approvals.find requestId with
  | none => host
  | some request =>
    match Service.consume host.tables requestId request.version request.bindingDigest now with
    | .error _ => host
    | .ok (tables, consumption) =>
      { host with
        tables := tables
        consumptions := host.consumptions ++ [consumptionOf requestId request.bindingDigest]
        prepared := host.prepared ++
          [{ input := consumption.continuation.input
             context := consumption.continuation.context
             toolExecutionId := consumption.toolCall.toolExecutionId
             bindingDigest := request.bindingDigest }] }

def prepareFails (index : Nat) (result : Json) (errorCode : String) (now : Nat) : ProcessHost :=
  match host.prepared[index]? with
  | none => host
  | some execution =>
    { host with
      tables := commit host.tables
        (completeToolCall host.tables execution.toolExecutionId result true (some errorCode) now)
      prepared := host.prepared.eraseIdx index }

def processRow (execution : PreparedExecution) (processId : String) (now : Nat) : ProcessRow where
  processId := processId
  toolExecutionId := execution.toolExecutionId
  context := execution.context
  mode := if ProcessRunInput.isBackground execution.input = true then .background else .foreground
  commandKind := execution.input.command.kind
  status := .starting
  startedAt := none
  endedAt := none
  updatedAt := now

def processRef (row : ProcessRow) : ProcessRef where
  processId := row.processId
  toolExecutionId := row.toolExecutionId
  runId := row.context.runId
  toolCallId := row.context.toolCallId

def recordProcess (index : Nat) (processId : String) (now : Nat) : ProcessHost :=
  match host.prepared[index]? with
  | none => host
  | some execution =>
    let row := processRow execution processId now
    match insertProcess host.tables row with
    | .error _ => { host with prepared := host.prepared.eraseIdx index }
    | .ok tables =>
      { host with
        tables := tables
        prepared := host.prepared.eraseIdx index
        recorded := host.recorded ++ [processRef row] }

def startProcess (index : Nat) : ProcessHost :=
  match host.recorded[index]? with
  | none => host
  | some reference =>
    { host with recorded := host.recorded.eraseIdx index, started := host.started ++ [reference] }

def completeExecution (processId : String) (result : Json) (isError : Bool)
    (errorCode : Option String) (now : Nat) : ProcessHost :=
  match host.tables.processes.find processId with
  | none => host
  | some row =>
    { host with
      tables := commit host.tables
        (completeToolCall host.tables row.toolExecutionId result isError errorCode now) }

def step (host : ProcessHost) : ProcessOp → ProcessHost
  | .authorize call policy now createId => authorize options host call policy now createId
  | .begin index now => begin host index now
  | .resolve requestId expectedVersion decision now =>
    { host with
      tables := commit host.tables
        (Service.resolve host.tables requestId expectedVersion decision now) }
  | .consume requestId expectedVersion bindingDigest now =>
    consume host requestId expectedVersion bindingDigest now
  | .executeApproved requestId now => executeApproved host requestId now
  | .cancel requestId now =>
    { host with tables := commit host.tables (Service.cancel host.tables requestId now) }
  | .expirePending now =>
    { host with tables := commit host.tables (Service.expirePending host.tables now) }
  | .recordApprovalTerminalResult requestId status result errorCode now =>
    { host with
      tables := commit host.tables
        (Service.recordApprovalTerminalResult host.tables requestId status result errorCode now) }
  | .prepareFails index result errorCode now => prepareFails host index result errorCode now
  | .insertProcess index processId now => recordProcess host index processId now
  | .startProcess index => startProcess host index
  | .startFails index => { host with recorded := host.recorded.eraseIdx index }
  | .updateProcess input =>
    { host with
      tables := commit host.tables
        ((updateProcess host.tables input).map (fun tables => (tables, ()))) }
  | .completeToolCall processId result isError errorCode now =>
    completeExecution host processId result isError errorCode now
  | .restart now =>
    { host with
      tables := markActiveProcessesOrphaned host.tables now
      allowed := []
      prepared := []
      recorded := [] }

def reach (ops : List ProcessOp) : ProcessHost :=
  run (step options) ProcessHost.empty ops

end OpenRill.Approvals.ProcessManager
