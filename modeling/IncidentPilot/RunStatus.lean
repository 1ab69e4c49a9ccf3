/-!
# Statuses and the transition table

The enumerations of `models/enums.py` that the control plane branches on, and
`RUN_TRANSITIONS`, the table of legal run status changes.
-/

namespace IncidentPilot

/-- `AgentRunStatus`. -/
inductive AgentRunStatus where
  | pending
  | running
  | investigationComplete
  | waitingApproval
  | resolved
  | insufficientEvidence
  | needsHumanIntervention
  | failed
  deriving Repr, DecidableEq

/-- `WorkflowState`. -/
inductive WorkflowState where
  | incidentReceived
  | plan
  | collectEvidence
  | formHypothesis
  | verifyHypothesis
  | rootCauseFound
  | insufficientEvidence
  | createSandbox
  | generatePatch
  | runTests
  | reflect
  | exportPatchArtifact
  | destroySandbox
  | waitForApproval
  | createPullRequest
  | resolved
  | needsHumanIntervention
  | failed
  deriving Repr, DecidableEq

/-- `ApprovalDecision`. -/
inductive ApprovalDecision where
  | approve
  | reject
  deriving Repr, DecidableEq

/-- `ToolCallStatus`. -/
inductive ToolCallStatus where
  | pending
  | succeeded
  | failed
  | timeout
  | denied
  deriving Repr, DecidableEq

/-- `TestRunStatus`. -/
inductive TestRunStatus where
  | pending
  | passed
  | failed
  | error
  | timeout
  deriving Repr, DecidableEq

/-- The values written to `ExternalSideEffect.status`. -/
inductive SideEffectStatus where
  | pending
  | inProgress
  | completed
  | failed
  deriving Repr, DecidableEq

namespace AgentRunStatus

/-- The string stored in the `status` column. -/
def value : AgentRunStatus → String
  | pending => "PENDING"
  | running => "RUNNING"
  | investigationComplete => "INVESTIGATION_COMPLETE"
  | waitingApproval => "WAITING_APPROVAL"
  | resolved => "RESOLVED"
  | insufficientEvidence => "INSUFFICIENT_EVIDENCE"
  | needsHumanIntervention => "NEEDS_HUMAN_INTERVENTION"
  | failed => "FAILED"

end AgentRunStatus

/-- `TERMINAL_RUN_STATUSES`. -/
def terminalRunStatuses : List AgentRunStatus :=
  [.investigationComplete, .resolved, .insufficientEvidence,
    .needsHumanIntervention, .failed]

/-- `RUN_TRANSITIONS`: the statuses a run may be given next. -/
def runTransitions : AgentRunStatus → List AgentRunStatus
  | .pending => [.running, .failed]
  | .running =>
      [.running, .pending, .waitingApproval] ++ terminalRunStatuses
  | .waitingApproval => [.pending, .running, .needsHumanIntervention]
  | .investigationComplete => [.investigationComplete]
  | .resolved => [.resolved]
  | .insufficientEvidence => [.insufficientEvidence]
  | .needsHumanIntervention => [.needsHumanIntervention]
  | .failed => [.failed]

/-- A terminal status has itself as its only successor. -/
theorem runTransitions_of_terminal
    {status next : AgentRunStatus}
    (terminal : status ∈ terminalRunStatuses)
    (allowed : next ∈ runTransitions status) :
    next = status := by
  cases status <;>
    simp_all [terminalRunStatuses, runTransitions]

/-- A running run may be given every status. -/
theorem mem_runTransitions_running
    (status : AgentRunStatus) :
    status ∈ runTransitions .running := by
  cases status <;> decide

end IncidentPilot
