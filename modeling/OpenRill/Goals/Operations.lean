import OpenRill.Goals.Executor
import OpenRill.Goals.GoalService
import OpenRill.Lib.Runs

/-!
# Runs of a goal

A run starts from a goal that was just created and takes any calls of the goal
service, of the executor, of its controller, of its operator and of maintenance
in any order, with any arguments; between them a child task may come to any
status.
-/

namespace OpenRill.Goals.Operations

open Lib Lib.Transaction Lib.Runs Ledger TaskFlows Executor GoalService

/-- What the run of a child comes to. -/
structure ChildMove where
  taskId : String
  status : TaskStatus
  terminalOutcome : Option TaskOutcome
  terminalSummary : Option String
  errorCode : Option String

inductive GoalOp where
  | serve (caller : GoalCaller) (op : ServiceOp)
  | start (caller : Owner) (expectedGoalRevision : Nat)
  | advance (caller : Owner)
  | reconcileTask (taskId : String)
  | wait (caller : Owner) (expectedExecutionRevision expectedFlowRevision : Nat)
      (reason : String)
  | resume (caller : Owner) (expectedExecutionRevision expectedFlowRevision : Nat)
  | resolveBlocker (caller : Owner) (input : Resolution)
  | retry (caller : Owner) (input : Resolution)
  | revisePlan (caller : Owner) (input : RevisionInput)
  | adoptPlanRevision (caller : Owner) (input : AdoptionInput)
  | finish (caller : Owner) (expectedExecutionRevision expectedFlowRevision : Nat)
  | failExecution (caller : Owner) (expectedExecutionRevision expectedFlowRevision : Nat)
      (summary : String)
  | cancel (caller : Owner) (expectedExecutionRevision expectedFlowRevision : Nat)
  | decide (expected : Snapshot) (decision : Decision)
  | recover
  | reconcileFlow (stuck : Bool)
  | childMoves (move : ChildMove)

/-- A call, with what the outside world adds to it: the id of a blocker that may
be recorded, and the task of a message that may be sent, or its refusal. -/
structure GoalCall where
  op : GoalOp
  blockerId : String
  sent : Option String
  blockerIdFits : idFits blockerId = true

structure World where
  host : Host
  texts : GoalTexts

def moveChild (move : ChildMove) : GoalTransaction Unit := do
  let store ← inspect id
  match store.children.find move.taskId with
  | none => pure ()
  | some child =>
    writeChild
      { child with
        status := move.status
        terminalOutcome := move.terminalOutcome
        terminalSummary := move.terminalSummary
        errorCode := move.errorCode }

def step (world : World) (store : GoalStore) (call : GoalCall) : GoalStore :=
  match call.op with
  | .serve caller op => conclude (commit (serve world.texts caller op)) store
  | .start caller revision =>
    conclude (start world.host caller revision call.blockerId call.sent) store
  | .advance caller => conclude (advance world.host caller call.blockerId call.sent) store
  | .reconcileTask taskId => conclude (reconcileTask world.host call.blockerId taskId) store
  | .wait caller execution flow reason =>
    conclude (commit (wait caller execution flow reason)) store
  | .resume caller execution flow =>
    conclude (resume world.host caller execution flow call.blockerId call.sent) store
  | .resolveBlocker caller input =>
    conclude (resolveBlocker world.host caller input call.blockerId call.sent) store
  | .retry caller input =>
    conclude (retry world.host caller input call.blockerId call.sent) store
  | .revisePlan caller input => conclude (commit (revisePlan caller input)) store
  | .adoptPlanRevision caller input =>
    conclude (adoptPlanRevision world.host caller input call.blockerId call.sent) store
  | .finish caller execution flow => conclude (commit (finish caller execution flow)) store
  | .failExecution caller execution flow summary =>
    conclude (commit (failExecution caller execution flow summary)) store
  | .cancel caller execution flow =>
    conclude (cancel world.host caller execution flow) store
  | .decide expected decision =>
    conclude (decideThrough world.host expected decision call.blockerId call.sent) store
  | .recover => conclude (recover world.host call.blockerId call.sent) store
  | .reconcileFlow stuck => conclude (reconcileFlow world.host stuck) store
  | .childMoves move => conclude (commit (moveChild move)) store

def Created (world : World) (store : GoalStore) : Prop :=
  ∃ input before, (create world.texts input).run before = .ok ((), store)

def reach (world : World) (store : GoalStore) (calls : List GoalCall) : GoalStore :=
  run (step world) store calls

theorem reach_append (world : World) (store : GoalStore) (earlier later : List GoalCall) :
    reach world store (earlier ++ later) = reach world (reach world store earlier) later :=
  run_append (step world) store earlier later

def sampleWorld : World where
  host :=
    { digest := fun identity =>
        if identity.blockerType = .retryLimit then
          "2757e67172e0467ff7fb582043711de2e2eb02889a2866901feacf3d9ca2cc4d"
        else "2252c75451396f06511cf40984592425739a5af2023985ae900520e9d000059c"
      stopped := fun _ => .cancelled }
  texts :=
    { fingerprint := id
      fold := id }

def sampleOwner : Owner where
  workspaceId := "main"
  conversationId := "c1"

def sampleStepId (index : Nat) : String := if index = 0 then "s1" else "s2"

def sampleGoal (titles : List String) : NewGoal where
  goalId := "g1"
  owner := sampleOwner
  objective := "Ship"
  titles := titles
  stepIds := sampleStepId
  stepIdsFit := by
    intro index
    unfold sampleStepId
    split <;> decide
  foreignSteps := []

def sampleCreated (titles : List String) : GoalStore :=
  conclude (commit (create sampleWorld.texts (sampleGoal titles))) (bareGoal (sampleGoal titles) "")

theorem created_of_ok {world : World} {input : NewGoal} {before : GoalStore}
    (completed : ((create world.texts input).run before).isOk = true) :
    Created world (conclude (commit (create world.texts input)) before) := by
  refine ⟨input, before, ?_⟩
  unfold conclude
  rw [run_commit]
  cases ran : (create world.texts input).run before with
  | error failure =>
    rw [ran] at completed
    contradiction
  | ok pair => rfl

theorem sample_created : Created sampleWorld (sampleCreated ["Draft"]) :=
  created_of_ok (by decide +kernel)

def sampleCall (op : GoalOp) (sent : Option String) : GoalCall where
  op := op
  blockerId := "b1"
  sent := sent
  blockerIdFits := by decide

def sampleRunning : GoalStore where
  goal :=
    { goalId := "g1"
      owner := sampleOwner
      objective := "Ship"
      status := .active
      lastNote := none
      blockerFingerprint := none
      consecutiveBlockerCount := 0
      planRevision := 1
      revision := 1 }
  planSteps :=
    { rows :=
        [ { stepId := "s1"
            ordinal := 1
            title := "Draft"
            status := .inProgress
            note := none
            revision := 2 } ]
      keysNodup := by decide }
  foreignSteps := []
  planRevisions :=
    { steps :=
        { rows :=
            [ { planRevision := 1
                stepId := "s1"
                ordinal := 1
                title := "Draft"
                required := true
                retryMode := .manual
                maxAttempts := 3 } ]
          keysNodup := by decide }
      placesNodup := by decide }
  execution := some
    { owner := sampleOwner
      planRevision := 1
      controllerId := "goal-plan-executor:g1"
      status := .running
      currentStepId := some "s1"
      revision := 2 }
  stepExecutions :=
    { rows :=
        [ { stepId := "s1"
            planRevision := 1
            ordinal := 1
            status := .running
            currentTaskId := some "t1"
            attemptCount := 1
            lastTerminalOutcome := none
            lastSummary := none
            retryMode := .manual
            maxAttempts := 3
            lastRetryReason := none
            revision := 2 } ]
      keysNodup := by decide }
  blockers := Table.empty
  flow := some
    { owner := sampleOwner
      controllerId := "goal-plan-executor:g1"
      goal := "Ship"
      status := .running
      currentStep := some "s1"
      blockedTaskId := none
      blockedSummary := none
      state :=
        { goalId := "g1"
          planRevision := 1
          executionStatus := .running
          currentStepId := some "s1"
          nextStep := none
          steps :=
            [ { stepId := "s1"
                ordinal := 1
                status := .running
                currentTaskId := none
                attemptCount := 1
                terminalOutcome := none
                summary := none } ] }
      wait := none
      cancelRequested := false
      revision := 2 }
  children :=
    { rows :=
        [ { taskId := "t1"
            requestKey := "goal-step:g1:1:s1:1"
            stepKey := "s1"
            text := "Goal: Ship\nPlan step 1/1: Draft\n" ++
              "Complete this single step and return a concrete final deliverable. " ++
              "Do not return only a progress promise."
            status := .queued
            terminalOutcome := none
            terminalSummary := none
            errorCode := none } ]
      keysNodup := by decide }

theorem sample_started :
    reach sampleWorld (sampleCreated ["Draft"])
      [sampleCall (.start sampleOwner 1) (some "t1")] = sampleRunning := by
  decide +kernel

theorem sample_continued (calls : List GoalCall) :
    reach sampleWorld (sampleCreated ["Draft"])
        (sampleCall (.start sampleOwner 1) (some "t1") :: calls) =
      reach sampleWorld sampleRunning calls := by
  rw [← sample_started]
  exact reach_append sampleWorld (sampleCreated ["Draft"])
    [sampleCall (.start sampleOwner 1) (some "t1")] calls

def sampleDelivery : GoalCall :=
  sampleCall
    (.childMoves
      { taskId := "t1"
        status := .succeeded
        terminalOutcome := some .succeeded
        terminalSummary := some "done"
        errorCode := none }) none

def sampleFinished : List GoalCall :=
  [sampleCall (.start sampleOwner 1) (some "t1"), sampleDelivery,
    sampleCall (.reconcileTask "t1") none, sampleCall (.finish sampleOwner 3 3) none]

def sampleStopped : List GoalCall :=
  [sampleCall (.start sampleOwner 1) (some "t1"),
    sampleCall
      (.childMoves
        { taskId := "t1"
          status := .failed
          terminalOutcome := none
          terminalSummary := none
          errorCode := some "ERROR" }) none,
    sampleCall (.reconcileTask "t1") none]

end OpenRill.Goals.Operations
