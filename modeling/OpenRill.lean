import OpenRill.Automation.LeaseProtocol
import OpenRill.Automation.OccurrencesOnce
import OpenRill.Connectors.OutputOnce
import OpenRill.Runs.CrashRecovery
import OpenRill.Goals.ActiveStep
import OpenRill.Goals.WakeDecisions
import OpenRill.Goals.RetryBound
import OpenRill.Goals.FlowState
import OpenRill.Goals.NextStep
import OpenRill.Goals.DeadEnds
import OpenRill.Wakes.DeliveryStatus
import OpenRill.Runs.ResultOnce
import OpenRill.Runs.UsageTotals
import OpenRill.Automation.ExpiredClaims
import OpenRill.Approvals.ProcessAuthorization
import OpenRill.Approvals.EndedRequests
import OpenRill.Goals.ManualGoals
import OpenRill.Locks.Exclusion
import OpenRill.Provider.StreamDecoding
import OpenRill.Provider.SurfacedCalls
import OpenRill.Config.IncludeCycles
import OpenRill.Config.FailedWrites
import OpenRill.Config.ChangedPaths
import OpenRill.Tools.ToolScope
import OpenRill.Automation.OneRun
import OpenRill.Protocol.ClosedConnections
import OpenRill.Protocol.IdempotentCalls
import OpenRill.Retention.FairSweeps
import OpenRill.Runs.TerminalResults
import OpenRill.Automation.StartPass
import OpenRill.Sandbox.HostHandle
import OpenRill.Sandbox.OutputTails
import OpenRill.Browser.FaithfulLedger
import OpenRill.Browser.ElementRefs
import OpenRill.Automation.JobUpdates
import OpenRill.Automation.LastOccurrence
import OpenRill.Runs.Admission
import OpenRill.Runs.CancellationOrder
import OpenRill.Flows.CancelFootprint
import OpenRill.Flows.CreationReplay
import OpenRill.Connectors.PayloadReplays
import OpenRill.Connectors.PostCertainty
import OpenRill.Protocol.FrameStream
import OpenRill.Tools.ReadPages
