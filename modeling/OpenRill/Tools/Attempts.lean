import OpenRill.Runs.GrantedScopes
import OpenRill.Tools.Execution

/-!
# The attempts of a run and their tools

The part of `executeAgentRun` that decides which tools an attempt may use, as
the agent host calls it: with the delegation service. The envelope that the run
had when the attempt began is the scope that the attempt enforces; a run without
an envelope gets one from the tools that this attempt shows to the model. An
attempt opens in one step, since only the single active attempt of a run writes
the envelope of that run.
-/

namespace OpenRill.Tools.Attempts

open Lib Lib.Transaction Runs.Ledger Runs.Delegations Runs.Lifecycle Runs.DelegationService
open Runs.Operations Execution

structure AttemptInput where
  runId : String
  registry : Registry
  modelToolNames : Option (List String)
  budget : ExecutionBudget
  providerId : String
  modelId : String
  configured : Call
  started : Call

structure AgentExecutionContext where
  run : RunRow
  workspaceId : String
  budgetEnvelope : Option EnvelopeRow

def executionContext (runId : String) : RunTransaction AgentExecutionContext := do
  let tables ← inspect id
  let run ← expect (tables.ledger.runs.find runId) runNotFound
  let conversation ← expect (tables.ledger.conversations.find run.conversationId)
    (.service .conversationNotFound "conversation not found")
  let attemptId ← expect run.currentAttemptId (invalidState "run has no current attempt")
  let _ ← expect (tables.ledger.attempts.find attemptId)
    (invalidState "run current attempt is missing")
  pure
    { run := run
      workspaceId := conversation.workspaceId
      budgetEnvelope := tables.delegations.envelopes.find run.runId }

/-- An attempt under way: `allowed` is `allowedToolNames`, null for a run that had
no envelope. -/
structure Attempt where
  runId : String
  registry : Registry
  modelToolNames : Option (List String)
  allowed : Option (List String)

variable (localeBefore : String → String → Bool)

def Attempt.modelToolDefinitions (attempt : Attempt) : List ToolDefinition :=
  match attempt.allowed, attempt.modelToolNames with
  | some allowed, _ =>
    (attempt.registry.definitions localeBefore).filter
      (fun definition => allowed.contains definition.name)
  | none, some configured =>
    (attempt.registry.definitions localeBefore).filter
      (fun definition => configured.contains definition.name)
  | none, none => attempt.registry.definitions localeBefore

/-- The names that the attempt stores as the scope of a run without an envelope. -/
def Attempt.shownNames (attempt : Attempt) : List String :=
  (attempt.modelToolDefinitions localeBefore).map ToolDefinition.name

def Attempt.grant (attempt : Attempt) : List String :=
  attempt.allowed.getD (attempt.shownNames localeBefore)

def rootBudget (budget : ExecutionBudget) : DelegationBudget where
  execution := budget
  maxDelegationDepth := 2
  maxActiveChildren := 4
  maxTotalChildren := 8

def rootScope (workspaceId : String) (toolNames : List String) : DelegationScope where
  workspaceIds := [workspaceId]
  skillIds := []
  toolNames := toolNames

/-- The envelope of a run that had none, from what the attempt shows to the model. -/
def configureScope (options : RunOptions) (input : AttemptInput)
    (initial : AgentExecutionContext) (attempt : Attempt) :
    Procedure RunTables RunFailure Unit :=
  if initial.budgetEnvelope.isNone = true then do
    let _ ← commit (configureRootBudget options
      { runId := input.runId
        budget := rootBudget input.budget
        scope := rootScope initial.workspaceId (attempt.shownNames localeBefore) }
      input.configured.now)
    pure ()
  else pure ()

/-- `resuming ? resumeExecution : startExecution`. -/
def beginExecution (options : RunOptions) (input : AttemptInput)
    (initial : AgentExecutionContext) : RunTransaction RunRow :=
  if initial.run.status = .waitingApproval then
    onLedger (resumeExecution options input.runId input.started.now input.started.createId)
  else
    startExecution options
      { runId := input.runId
        providerId := input.providerId
        modelId := input.modelId
        budget := input.budget }
      input.started.now input.started.createId

/-- The start of `executeAgentRun`, up to its first turn. -/
def openAttempt (options : RunOptions) (input : AttemptInput) :
    Procedure RunTables RunFailure Attempt := do
  let initial ← commit (executionContext input.runId)
  let attempt : Attempt :=
    { runId := input.runId
      registry := input.registry
      modelToolNames := input.modelToolNames
      allowed := initial.budgetEnvelope.map (fun envelope => envelope.scope.toolNames) }
  configureScope localeBefore options input initial attempt
  let _ ← commit (beginExecution options input initial)
  pure attempt

structure ToolCall where
  toolCallId : String
  name : String
  arguments : Json

structure AgentKernelError where
  code : String
  message : String

/-- One tool call of a turn, once it is known to be no replay and within its budget. -/
def Attempt.dispatch (attempt : Attempt) (context : ToolExecutionContext) (call : ToolCall) :
    Except AgentKernelError Ran :=
  if attempt.allowed.any (fun allowed => !allowed.contains call.name) then
    .error
      { code := "AGENT_TOOL_NOT_ALLOWED"
        message := "tool is outside the durable Run scope: " ++ call.name }
  else
    .ok (attempt.registry.execute call.name call.arguments
      { context with toolCallId := some call.toolCallId, allowedToolNames := attempt.allowed })

/-- The tools that a call of the attempt executed. -/
def Attempt.executed (attempt : Attempt) (context : ToolExecutionContext) (call : ToolCall) :
    List String :=
  match attempt.dispatch context call with
  | .ok ran => ran.executed
  | .error _ => []

/-- A tool is called by its name, or named to `tool.call`. -/
inductive Way where
  | direct
  | throughToolCall
  deriving DecidableEq

def Attempt.inScope (attempt : Attempt) (name : String) : Bool :=
  attempt.allowed.all (fun allowed => allowed.contains name)

def Attempt.offers (attempt : Attempt) (name : String) : Bool :=
  attempt.inScope name && attempt.registry.has name

/-- The call passes every check that looks at names: it executes the tool unless the
input is invalid or the run was aborted. -/
def Attempt.permits (attempt : Attempt) : Way → String → Bool
  | .direct, name => attempt.offers name
  | .throughToolCall, name =>
    attempt.offers toolCallName && !toolDiscoveryControlNames.contains name && attempt.offers name

end OpenRill.Tools.Attempts
