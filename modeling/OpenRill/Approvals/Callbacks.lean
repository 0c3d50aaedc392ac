import OpenRill.Approvals.ProcessManager
import OpenRill.Runs.LedgerAppends

/-!
# What the host does with requests that end

The hooks of approvals, the cancellation of runs and the expiry timer. Each of them runs to
its end once it began, but for a restart: its transactions are the items of `work`, taken
one after the other, and nothing else happens before the last one. An item that throws ends
its callback, and in the timer the answer of its own request alone.

Authorizations and executions, and whatever else the host writes to the ledger of runs,
come between callbacks. `handed` records the runs that were given to the coordinator; no
operation reads it. Cancelling the processes and browsers of a run changes no request.
-/

namespace OpenRill.Approvals.Callbacks

open Lib Lib.Checked Lib.Runs Lib.Transaction Ledger Service ProcessManager Runs.Ledger
open Runs.Delegations Runs.Lifecycle Runs.DelegationService Runs.Operations Runs.LedgerAppends

structure HostOptions where
  approvals : ApprovalOptions
  runs : RunOptions

inductive Ending where
  | denied
  | cancelled
  | expired
  deriving DecidableEq

def Ending.errorCode : Ending → String
  | .denied => "APPROVAL_DENIED"
  | .cancelled => "APPROVAL_CANCELLED"
  | .expired => "APPROVAL_EXPIRED"

def Ending.message : Ending → String
  | .denied => "process execution denied by operator"
  | .cancelled => "approval request cancelled"
  | .expired => "approval request expired"

def Ending.terminalResult : Ending → Service.TerminalResult
  | .denied => .denied
  | .cancelled => .cancelled
  | .expired => .cancelled

def Ending.output (ending : Ending) : Json :=
  .object
    [ ("error", .object [("code", .text ending.errorCode), ("message", .text ending.message)]) ]

def Ending.text (ending : Ending) : String :=
  "\x7b\"error\":\x7b\"code\":\"" ++ ending.errorCode ++ "\",\"message\":\"" ++ ending.message ++
    "\"\x7d\x7d"

/-- `appendApprovalResult` of a request that ended so. -/
def answerOf (request : ApprovalRow) (ending : Ending) : ApprovalAnswer where
  runId := request.context.runId
  requestId := request.requestId
  toolCallId := request.context.toolCallId
  name := request.toolName
  output := .canonical ending.text
  isError := true

inductive Stage where
  | record
  | append
  | resume
  deriving DecidableEq

/-- One part of a callback. `cancelRun` is the listing in `approvals.cancelRun`. -/
inductive Work where
  | answer (request : ApprovalRow) (ending : Ending) (stage : Stage)
  | execute (requestId : String)
  | cancelRun (runId : String)
  | cancelRequest (requestId : String)
  | endRun (input : CancelInput)
  | endChild (childRunId : String) (termination : Termination) (errorCode : String)
  | completeChild (childRunId : String)

structure AnswerHost where
  process : ProcessHost
  ledger : RunTables
  work : List Work
  handed : List String

def AnswerHost.empty : AnswerHost where
  process := ProcessHost.empty
  ledger := RunTables.empty
  work := []
  handed := []

inductive HostOp where
  | process (op : ProcessOp)
  | ledger (op : LedgerOp)
  | handOver (runId : String)
  | list (now : Nat)
  | resolve (requestId : String) (expectedVersion : Nat) (decision : ApprovalDecision)
      (now : Nat)
  | cancel (requestId : String) (now : Nat)
  | tick (now : Nat)
  | cancelConversation (input : CancelInput) (descendants : List String)
  | terminateDelegations (order : List String) (termination : Termination) (errorCode : String)
  | proceed (call : Call)
  | restart (now : Nat)

variable (options : HostOptions) (host : AnswerHost)

def AnswerHost.tables : ApprovalTables := host.process.tables

def AnswerHost.withTables (tables : ApprovalTables) : AnswerHost :=
  { host with process := { host.process with tables := tables } }

/-- What authorizes and executes calls; requests are resolved, cancelled and expired by the
callbacks alone. -/
def executes : ProcessOp → Bool
  | .resolve _ _ _ _ => false
  | .cancel _ _ => false
  | .expirePending _ => false
  | .recordApprovalTerminalResult _ _ _ _ _ => false
  | .restart _ => false
  | _ => true

/-- `approvalHooks.resolve` after its first transaction. -/
def resolvedWork (request : ApprovalRow) : List Work :=
  match request.status with
  | .denied => [.answer request .denied .record]
  | .approved => [.execute request.requestId]
  | _ => []

def resolvedHanding (request : ApprovalRow) : List String :=
  if request.status = .consumed then [request.context.runId] else []

def resolve (requestId : String) (expectedVersion : Nat) (decision : ApprovalDecision)
    (now : Nat) : AnswerHost :=
  match Service.resolve host.tables requestId expectedVersion decision now with
  | .error _ => host
  | .ok (tables, request, _) =>
    { host.withTables tables with
      work := resolvedWork request
      handed := host.handed ++ resolvedHanding request }

def cancel (requestId : String) (now : Nat) : AnswerHost :=
  match Service.cancel host.tables requestId now with
  | .error _ => host
  | .ok (tables, request) =>
    { host.withTables tables with
      work :=
        if request.status = .cancelled then [.answer request .cancelled .record] else [] }

def expiredWork (tables : ApprovalTables) (ids : List String) : List Work :=
  (ids.filterMap tables.approvals.find).map (fun request => .answer request .expired .record)

def tick (now : Nat) : AnswerHost :=
  match Service.expirePending host.tables now with
  | .error _ => host
  | .ok (tables, ids) => { host.withTables tables with work := expiredWork tables ids }

/-- `terminateDelegationOrder`. -/
def terminationWork (order : List String) (termination : Termination) (errorCode : String) :
    List Work :=
  order.map .cancelRun ++ order.map (fun runId => .endChild runId termination errorCode)

/-- `conversations.cancel` and then `runHooks.cancel`. -/
def cancellationWork (input : CancelInput) (descendants : List String) : List Work :=
  [.endRun input] ++ terminationWork descendants .cancelled "PARENT_CANCELLED" ++
    [.cancelRun input.runId]

def begin : HostOp → AnswerHost
  | .process op =>
    if executes op = true then
      { host with process := ProcessManager.step options.approvals host.process op }
    else host
  | .ledger op => { host with ledger := Runs.LedgerAppends.step options.runs host.ledger op }
  | .handOver runId => { host with handed := host.handed ++ [runId] }
  | .list now => host.withTables (commit host.tables (Service.expirePending host.tables now))
  | .resolve requestId expectedVersion decision now =>
    resolve host requestId expectedVersion decision now
  | .cancel requestId now => cancel host requestId now
  | .tick now => tick host now
  | .cancelConversation input descendants =>
    { host with work := cancellationWork input descendants }
  | .terminateDelegations order termination errorCode =>
    { host with work := terminationWork order termination errorCode }
  | _ => host

variable (options : HostOptions) (host : AnswerHost) (rest : List Work) (call : Call)

def pendingOf (tables : ApprovalTables) (runId : String) : List String :=
  (tables.approvals.rows.filter
    (fun row => decide (row.status = .pending ∧ row.context.runId = runId))).map
      ApprovalRow.requestId

def proceedAnswer (request : ApprovalRow) (ending : Ending) : Stage → AnswerHost
  | .record =>
    match Service.recordApprovalTerminalResult host.tables request.requestId
        ending.terminalResult ending.output ending.errorCode call.now with
    | .error _ => { host with work := rest }
    | .ok (tables, _) =>
      { host.withTables tables with work := .answer request ending .append :: rest }
  | .append =>
    match (onLedger (appendApprovalToolResult (answerOf request ending) call.now
        call.createId)).run host.ledger with
    | .error _ => { host with work := rest }
    | .ok (_, ledger) =>
      { host with ledger := ledger, work := .answer request ending .resume :: rest }
  | .resume =>
    { host with handed := host.handed ++ [request.context.runId], work := rest }

def proceedItem : Work → AnswerHost
  | .answer request ending stage => proceedAnswer host rest call request ending stage
  | .execute requestId =>
    { host with
      process := ProcessManager.executeApproved host.process requestId call.now
      work := rest }
  | .cancelRun runId =>
    match Service.expirePending host.tables call.now with
    | .error _ => { host with work := [] }
    | .ok (tables, _) =>
      { host.withTables tables with
        work := (pendingOf tables runId).map .cancelRequest ++ rest }
  | .cancelRequest requestId =>
    match Service.cancel host.tables requestId call.now with
    | .error _ => { host with work := [] }
    | .ok (tables, _) => { host.withTables tables with work := rest }
  | .endRun input =>
    match (onLedger (Runs.Lifecycle.cancel options.runs input call.now call.createId)).run
        host.ledger with
    | .error _ => { host with work := [] }
    | .ok (_, ledger) =>
      { host with ledger := ledger, work := rest }
  | .endChild childRunId termination errorCode =>
    match (terminateRun options.runs childRunId termination errorCode call.now
        call.createId).run host.ledger with
    | .error _ => { host with work := [] }
    | .ok (known, ledger) =>
      { host with
        ledger := ledger
        work := if known = true then .completeChild childRunId :: rest else rest }
  | .completeChild childRunId =>
    match (Runs.DelegationService.completeChild options.runs childRunId call.now
        call.createId).run host.ledger with
    | .error _ => { host with work := [] }
    | .ok (_, ledger) =>
      { host with ledger := ledger, work := rest }

def proceed : AnswerHost :=
  match host.work with
  | [] => host
  | item :: rest => proceedItem options host rest call item

variable (options : HostOptions)

def step (host : AnswerHost) : HostOp → AnswerHost
  | .proceed call => proceed options host call
  | .restart now =>
    { host with
      process := ProcessManager.step options.approvals host.process (.restart now)
      work := [] }
  | op => if host.work.isEmpty = true then begin options host op else host

def reach (ops : List HostOp) : AnswerHost := run (step options) AnswerHost.empty ops

end OpenRill.Approvals.Callbacks
