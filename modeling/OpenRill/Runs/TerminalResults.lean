import OpenRill.Runs.CoordinatorSteps

/-!
# What is told of a run that has ended

A promise of `executeUntilTerminal` is resolved with the terminal status of its run, no
report calls a completed run failed, and nobody is left waiting for a run that has ended,
in every run of the coordinator whose steps meet the condition of `AwaitedRuns`. Two
steps that do not meet it: the execution of a completed run begins again, and fails
where it reports its own failure; and another service ends an idle run that is waited
for.
-/

namespace OpenRill.Runs.TerminalResults

open Lib.Runs
open OpenRill.Runs.Lifecycle (RunOptions)
open OpenRill.Runs.Operations (RunOp callAt mainHost delegatedOps)
open Coordinator AwaitedRuns CoordinatorSteps

/-- Every report was true, and nobody waits in vain. -/
def TellsTheTruth (options : RunOptions) (history : List RunOp) (ops : List HostOp) : Prop :=
  (∀ told ∈ (reach options history ops).told, Truthful told) ∧
    ∀ runId, ¬ Hangs (reach options history ops) runId

theorem reach_steady (options : RunOptions) (history : List RunOp) (ops : List HostOp)
    (meets : EveryStep (step options) (Meets options)
      (Host.start (Operations.reach options history)) ops) :
    Steady (reach options history ops) :=
  run_invariant_of_everyStep (step options) (Meets options) Steady
    (fun _ op meets steady => step_steady op meets steady)
    (Host.start (Operations.reach options history)) ops (steady_start _) meets

theorem results_told (options : RunOptions) (history : List RunOp) (ops : List HostOp)
    (meets : EveryStep (step options) (Meets options)
      (Host.start (Operations.reach options history)) ops) :
    TellsTheTruth options history ops := by
  have steady : Steady (reach options history ops) := reach_steady options history ops meets
  exact ⟨steady.truthful, not_hanging steady⟩

def admittedOps : List RunOp :=
  [ .createConversation
      { conversationId := "c1"
        workspaceId := "main" },
    .send
      { workspaceId := "main", conversationId := "c1", submissionKey := "s1", text := "go" }
      (callAt 1 ["m1", "r1", "a1", "e1"]) ]

def smallModel : ModelResolution where
  provider := "local"
  model := "small"
  maxOutputTokens := 100
  toolNames := []

def approvedOps : List HostOp :=
  [ .executeUntilTerminal "r1" (callAt 2 []),
    .prepared "r1" none (callAt 3 []),
    .resolved "r1" (some smallModel) (callAt 4 ["a2", "e2"]),
    .ends "r1" 0 (.approval "q1") (callAt 5 ["a3", "e3"]),
    .reported "r1",
    .resume "r1" (callAt 6 []),
    .finished "r1" (callAt 7 []),
    .prepared "r1" none (callAt 8 []),
    .resolved "r1" (some smallModel) (callAt 9 ["e4"]),
    .ends "r1" 0 (.complete "stop" "done") (callAt 10 ["a5", "e5"]),
    .reported "r1",
    .handled "r1" false,
    .finished "r1" (callAt 11 []) ]

theorem approved_meets :
    EveryStep (step mainHost) (Meets mainHost)
      (Host.start (Operations.reach mainHost admittedOps)) approvedOps := by
  decide +kernel

theorem approved_told : TellsTheTruth mainHost admittedOps approvedOps :=
  results_told mainHost admittedOps approvedOps approved_meets

def replayedOps : List HostOp :=
  approvedOps ++
    [ .executeUntilTerminal "r1" (callAt 12 ["a6", "e6"]), .caught "r1" ]

/-- A delegated run `r2` waits for an approval when its delegation is cancelled. -/
def unattendedOps : List HostOp :=
  [ .executeUntilTerminal "r2" (callAt 4 []),
    .prepared "r2" none (callAt 5 []),
    .resolved "r2" (some smallModel) (callAt 6 ["a3", "e3"]),
    .ends "r2" 0 (.approval "q1") (callAt 7 ["a4", "e4"]),
    .reported "r2",
    .finished "r2" (callAt 8 []),
    .cancel "r2",
    .other (.terminateChild "r2" .cancelled "OPERATOR_CANCELLED" (callAt 9 ["e5"])) ]

theorem replay_misreported :
    ∃ told ∈ (reach mainHost admittedOps replayedOps).told, ¬ Truthful told := by
  decide +kernel

theorem unattended_hangs : Hangs (reach mainHost delegatedOps unattendedOps) "r2" := by
  decide +kernel

/-- The completed run is reported as failed, and the waiter of the cancelled one is left. -/
theorem completed_reported_failed :
    ¬ TellsTheTruth mainHost admittedOps replayedOps ∧
      ¬ TellsTheTruth mainHost delegatedOps unattendedOps := by
  refine ⟨fun told => ?_, fun told => told.2 "r2" unattended_hangs⟩
  obtain ⟨report, reportIn, untrue⟩ := replay_misreported
  exact untrue (told.1 report reportIn)

end OpenRill.Runs.TerminalResults
