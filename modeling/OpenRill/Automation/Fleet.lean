import OpenRill.Automation.Executor

/-!
# Schedulers that share one database

Any number of host processes, each with its scheduler and executor, over the tables of
automations and of agent Runs. A step is one of a process, the end of a process and the
begin of its successor, or any operation of another service on the agent Runs.
-/

namespace OpenRill.Automation.Fleet

open Lib.Runs
open OpenRill.Runs.Delegations (RunTables)
open OpenRill.Runs.Lifecycle (RunOptions)
open OpenRill.Runs.Operations (RunOp)
open Ledger Scheduler SchedulerProcess Executor

structure Memory where
  ownerId : String
  started : Bool
  closing : Bool
  stage : Stage
  left : List LeftLease
  execution : Execution

def Memory.empty : Memory where
  ownerId := ""
  started := false
  closing := false
  stage := .idle
  left := []
  execution := .idle

structure Fleet where
  scheduler : SchedulerState
  runs : RunTables
  memories : Nat → Memory
  sent : List Sending
  executed : List Executed

def Fleet.empty (runs : RunTables) : Fleet where
  scheduler := SchedulerState.empty
  runs := runs
  memories := fun _ => Memory.empty
  sent := []
  executed := []

def Fleet.tables (fleet : Fleet) : AutomationTables := fleet.scheduler.tables

def deskOf (fleet : Fleet) (process : Nat) : Desk where
  process :=
    { scheduler := fleet.scheduler
      ownerId := (fleet.memories process).ownerId
      started := (fleet.memories process).started
      closing := (fleet.memories process).closing
      stage := (fleet.memories process).stage
      left := (fleet.memories process).left }
  execution := (fleet.memories process).execution
  runs := fleet.runs
  sent := fleet.sent
  executed := fleet.executed

def memoryOf (desk : Desk) : Memory where
  ownerId := desk.process.ownerId
  started := desk.process.started
  closing := desk.process.closing
  stage := desk.process.stage
  left := desk.process.left
  execution := desk.execution

def put (fleet : Fleet) (process : Nat) (desk : Desk) : Fleet where
  scheduler := desk.process.scheduler
  runs := desk.runs
  memories := Function.update fleet.memories process (memoryOf desk)
  sent := desk.sent
  executed := desk.executed

inductive FleetOp where
  | desk (process : Nat) (op : DeskOp)
  | reboot (process : Nat) (ownerId : String)
  | runs (op : RunOp)

def step (options : SchedulerOptions) (runOptions : RunOptions) (fleet : Fleet) :
    FleetOp → Fleet
  | .desk process op =>
    put fleet process (Executor.step options runOptions (deskOf fleet process) op)
  | .reboot process ownerId => put fleet process (reboot ownerId (deskOf fleet process))
  | .runs op => { fleet with runs := Runs.Operations.step runOptions fleet.runs op }

/-- A fleet over agent Runs of any history, after its operations. -/
def reach (options : SchedulerOptions) (runOptions : RunOptions) (history : List RunOp)
    (ops : List FleetOp) : Fleet :=
  run (step options runOptions) (Fleet.empty (Runs.Operations.reach runOptions history)) ops

end OpenRill.Automation.Fleet
