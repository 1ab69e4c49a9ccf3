import IncidentPilot.Library.Machine
import IncidentPilot.Library.RowLock
import IncidentPilot.Library.Fencing
import IncidentPilot.Library.UniqueTable
import IncidentPilot.Library.Interaction
import IncidentPilot.Library.Answers
import IncidentPilot.Library.Json
import IncidentPilot.RunJobs
import IncidentPilot.ApprovalService
import IncidentPilot.FencedWrites
import IncidentPilot.RunLifecycle
import IncidentPilot.StatusTransitions
import IncidentPilot.LeaseFencing
import IncidentPilot.StrandedRuns
import IncidentPilot.ApprovalResume
import IncidentPilot.PullRequestApproval
import IncidentPilot.SideEffectRecord
import IncidentPilot.SideEffectDurability
import IncidentPilot.SandboxPatch
import IncidentPilot.Redaction
import IncidentPilot.GithubIntegration
import IncidentPilot.GithubRemote
import IncidentPilot.ApprovedTree
import IncidentPilot.PullRequestOnce
import IncidentPilot.PullRequestReconcile
import IncidentPilot.AgentState
import IncidentPilot.ToolGateway
import IncidentPilot.Evidence
import IncidentPilot.WorkflowGraph
import IncidentPilot.Investigation
import IncidentPilot.WorkflowRequests
import IncidentPilot.WorkflowExecution
import IncidentPilot.WorkflowInvariant
import IncidentPilot.WorkflowReplay
import IncidentPilot.PatchRecord
import IncidentPilot.PatchedWorkspace
import IncidentPilot.GraphExecution
import IncidentPilot.GraphOutcome
import IncidentPilot.StepBudget
import IncidentPilot.GraphEnds
import IncidentPilot.EvidenceGate
import IncidentPilot.ToolBudget
import IncidentPilot.TerminalRuns
import IncidentPilot.ConcurrentDecisions
import IncidentPilot.InvestigationRecord
import IncidentPilot.ProgressReports
import IncidentPilot.FinishedRuns
import IncidentPilot.TestedFiles
import IncidentPilot.SqlConfidentiality
import IncidentPilot.Library.SqlDistinction
import IncidentPilot.RetryOffset
import IncidentPilot.Heartbeat
import IncidentPilot.SecretFields
import IncidentPilot.InlineCredentials
import IncidentPilot.GatewayDiscipline
import IncidentPilot.QueueAdmission
import IncidentPilot.StructuredOutput
import IncidentPilot.RunExecutor
import IncidentPilot.ReportedHead
import IncidentPilot.Library.SqlBounds
import IncidentPilot.RowBound
import IncidentPilot.Library.JsonText
import IncidentPilot.UntrustedContext
import IncidentPilot.TrimmedLists
import IncidentPilot.NewestEntries
import IncidentPilot.TestedPatch
import IncidentPilot.ExportedPatch
import IncidentPilot.ExportedArtifacts
import IncidentPilot.ApprovableRuns
import IncidentPilot.ReadonlyServer
import IncidentPilot.SourcePaging
import IncidentPilot.GitDiff
import IncidentPilot.Library.Delimited
import IncidentPilot.GitHistory
import IncidentPilot.Library.KeepFirst
import IncidentPilot.EvidenceFilter
import IncidentPilot.Library.Latest
import IncidentPilot.LogReading
import IncidentPilot.LogTolerance
import IncidentPilot.Library.Cleanup
import IncidentPilot.EvaluationHarness
import IncidentPilot.FaultLeaks
import IncidentPilot.Library.JsonAscii
import IncidentPilot.DecisionPrompts
import IncidentPilot.PromptBudget
import IncidentPilot.Library.Pool
import IncidentPilot.ControlApi
import IncidentPilot.ApiService
import IncidentPilot.ApiGrowth
import IncidentPilot.ApiAuthority
import IncidentPilot.ApiRoutes
import IncidentPilot.ApiGuarantees
import IncidentPilot.WorkerTask
import IncidentPilot.DurableWorker
import IncidentPilot.ExclusiveExecution
import IncidentPilot.SandboxProcess
import IncidentPilot.SandboxContainment
import IncidentPilot.SandboxedTests
import IncidentPilot.Library.SessionLock
import IncidentPilot.WorkflowLock
import IncidentPilot.WorkflowExclusion
import IncidentPilot.LlmProvider
import IncidentPilot.LlmTranscripts
import IncidentPilot.AuthorisedPullRequests
import IncidentPilot.ReadonlyQuery
import IncidentPilot.ReadonlyQueryGuard
import IncidentPilot.ReadonlySecrecy
