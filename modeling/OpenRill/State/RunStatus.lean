/-!
# Status columns of an agent run

The status and recovery columns of `agent_runs`, which several subsystems read.
-/

namespace OpenRill.State

inductive RunStatus where
  | created
  | running
  | waitingApproval
  | completed
  | failed
  | cancelled
  deriving DecidableEq

def RunStatus.terminal : RunStatus → Bool
  | .completed => true
  | .failed => true
  | .cancelled => true
  | _ => false

inductive RecoveryState where
  | none
  | resumable
  | nonResumable
  deriving DecidableEq

end OpenRill.State
