import IncidentPilot.Library.UniqueTable
import IncidentPilot.RunStatus

/-!
# Rows of the control plane

The tables of `models/db.py` that runs, approvals and side effects are made of.
Instants are integers, since only their order and the addition of a duration
matter; identifiers made by `uuid4` are natural numbers.  The keys of the JSON
column `result` are fields, so that `{**result, key: value}` is a record
update.
-/

namespace IncidentPilot

/-- An instant of a `DateTime(timezone=True)` column. -/
abbrev Instant := Int

/-- An identifier made from `uuid4`. -/
abbrev Uuid := Nat

/-- The stored description of a pull request. -/
structure PullRequest where
  url : String
  number : Option Nat
  branch : String
  mode : String
  deriving Repr, DecidableEq

/-- The keys of `AgentRun.result` and of the graph state's `result`. -/
structure RunResult where
  planFocus : Option String := none
  stopReason : Option String := none
  message : Option String := none
  investigationSteps : Option Nat := none
  testRunId : Option Uuid := none
  testStatus : Option TestRunStatus := none
  testExitCode : Option Int := none
  patchArtifactId : Option Uuid := none
  patchHash : Option String := none
  pullRequest : Option PullRequest := none
  deriving Repr, DecidableEq

/-- The `root_cause` dictionary. -/
structure RootCause where
  statement : String
  faultCategory : String
  affectedComponent : String
  causalFacts : List String
  evidenceIds : List Uuid
  confidence : String
  verified : Bool
  deriving Repr, DecidableEq

/-- A row of `agent_runs`. -/
structure AgentRun where
  id : String
  runId : String
  incidentPk : String
  status : AgentRunStatus
  workflowState : WorkflowState
  plan : List String
  rootCause : Option RootCause
  toolCallCount : Nat
  patchAttemptCount : Nat
  error : Option String
  result : RunResult
  workerId : Option String
  leaseExpiresAt : Option Instant
  attemptCount : Nat
  nextAttemptAt : Option Instant
  lastHeartbeatAt : Option Instant
  failureCategory : Option String
  startedAt : Instant
  finishedAt : Option Instant
  deriving Repr, DecidableEq

/-- Nothing of a lease is left in the row. -/
structure AgentRun.Unleased (run : AgentRun) : Prop where
  workerId : run.workerId = none
  leaseExpiresAt : run.leaseExpiresAt = none
  lastHeartbeatAt : run.lastHeartbeatAt = none

/-- A row of `patch_artifacts`. -/
structure PatchArtifact where
  patchArtifactId : Uuid
  runPk : String
  baseCommitSha : String
  patchDiff : String
  patchHash : String
  testRunId : Option Uuid
  immutable : Bool
  deriving Repr, DecidableEq

/-- A row of `test_runs`. -/
structure TestRun where
  testRunId : Uuid
  runPk : String
  status : TestRunStatus
  exitCode : Option Int
  patchHash : String
  baseCommitSha : String
  deriving Repr, DecidableEq

/-- The four attributes an approval is bound to. -/
structure Binding where
  patchArtifactId : Uuid
  patchHash : String
  baseCommitSha : String
  testRunId : Option Uuid
  deriving Repr, DecidableEq

/-- A row of `approvals`. -/
structure Approval where
  runPk : String
  patchArtifactId : Option Uuid
  decision : ApprovalDecision
  actor : String
  reason : String
  payload : Binding
  decidedAt : Instant
  deriving Repr, DecidableEq

/-- A row of `external_side_effects`. -/
structure ExternalSideEffect where
  runPk : String
  effectType : String
  idempotencyKey : String
  status : SideEffectStatus
  attemptCount : Nat
  result : Option PullRequest
  error : Option String
  deriving Repr, DecidableEq

/-- The unique index on `approvals.run_pk`. -/
def Approval.conflicts (first second : Approval) : Bool :=
  first.runPk = second.runPk

/-- The unique index on `patch_artifacts.patch_artifact_id`. -/
def PatchArtifact.conflicts (first second : PatchArtifact) : Bool :=
  first.patchArtifactId = second.patchArtifactId

/-- The unique index on `test_runs.test_run_id`. -/
def TestRun.conflicts (first second : TestRun) : Bool :=
  first.testRunId = second.testRunId

/--
The unique index on `idempotency_key` and the constraint
`ux_side_effect_run_type` of `external_side_effects`.
-/
def ExternalSideEffect.conflicts
    (first second : ExternalSideEffect) : Bool :=
  decide (first.idempotencyKey = second.idempotencyKey) ||
    (decide (first.runPk = second.runPk) &&
      decide (first.effectType = second.effectType))

/--
The run the development follows, and the tables its transactions write.  The
tables hold rows of other runs too.
-/
structure Store where
  run : AgentRun
  approvals : UniqueTable Approval Approval.conflicts
  patchArtifacts : UniqueTable PatchArtifact PatchArtifact.conflicts
  testRuns : UniqueTable TestRun TestRun.conflicts
  sideEffects :
    UniqueTable ExternalSideEffect ExternalSideEffect.conflicts

/-- The row that `create_incident_and_run` inserts. -/
def newRun
    (id runId incidentPk : String)
    (startedAt : Instant) : AgentRun where
  id := id
  runId := runId
  incidentPk := incidentPk
  status := .pending
  workflowState := .incidentReceived
  plan := []
  rootCause := none
  toolCallCount := 0
  patchAttemptCount := 0
  error := none
  result := {}
  workerId := none
  leaseExpiresAt := none
  attemptCount := 0
  nextAttemptAt := none
  lastHeartbeatAt := none
  failureCategory := none
  startedAt := startedAt
  finishedAt := none

end IncidentPilot
