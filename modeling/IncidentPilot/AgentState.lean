import IncidentPilot.FencedWrites
import IncidentPilot.Library.Interaction
import IncidentPilot.Library.Json
import IncidentPilot.SandboxPatch

/-!
# The state of the workflow graph

`AgentState` with what it is made of, what a process keeps outside of it, and
the requests the nodes of the graph ask: of the model, of tools, of the sandbox
and of the database.  Times, traces and token counts are left out, and an
identifier made from `uuid4` is a number.
-/

namespace IncidentPilot

/-- `ToolResult.to_dict`. -/
structure ToolCall where
  toolCallId : Uuid
  toolName : String
  status : ToolCallStatus
  output : Json := .object []
  error : Option String := none
  input : Json
  attemptCount : Nat := 0
  errorCategory : Option String := none

/-- An item of `s["evidence"]`. -/
structure EvidenceItem where
  evidenceId : Uuid
  runId : String
  source : String
  sourceType : String
  toolCallId : Uuid
  summary : String
  hash : String
  result : Json

/-- The `status` of an item of `s["hypotheses"]`. -/
inductive HypothesisStatus where
  | opened
  | verified
  | rejected
  deriving Repr, DecidableEq

/-- `HypothesisProposal`. -/
structure HypothesisProposal where
  statement : String
  evidenceIds : List Uuid
  confidence : String
  deriving Repr, DecidableEq

/-- An item of `s["hypotheses"]`. -/
structure Hypothesis where
  proposal : HypothesisProposal
  status : HypothesisStatus
  verified : Bool
  verificationNotes : String := ""
  deriving Repr, DecidableEq

/-- The `status` of an item of `s["patch_attempts"]`. -/
inductive PatchAttemptStatus where
  | applied
  | applyFailed
  | testsPassed
  | testsFailed
  deriving Repr, DecidableEq

/-- An item of `s["patch_attempts"]`. -/
structure PatchAttempt where
  attempt : Nat
  summary : String
  patchDiff : Option String := none
  status : Option PatchAttemptStatus := none
  error : Option String := none
  baseCommitSha : Option String := none
  testRunId : Option Uuid := none
  testOk : Option Bool := none
  testExitCode : Option Int := none
  reflection : Option String := none
  deriving Repr, DecidableEq

/-- `PatchArtifactData`. -/
structure PatchArtifactData where
  patchArtifactId : Uuid
  baseCommitSha : String
  patchDiff : String
  patchHash : String
  testRunId : Option Uuid
  immutable : Bool
  deriving Repr, DecidableEq

/-- `AgentState`. -/
structure AgentState where
  runId : String
  service : String
  repository : String
  workflowState : WorkflowState := .incidentReceived
  plan : List String := []
  evidence : List EvidenceItem := []
  hypotheses : List Hypothesis := []
  rootCause : Option RootCause := none
  toolCalls : List ToolCall := []
  patchAttempts : List PatchAttempt := []
  patchArtifact : Option PatchArtifactData := none
  approvalRequired : Bool := false
  status : AgentRunStatus := .running
  error : Option String := none
  result : RunResult := {}

/-- `BudgetTracker`. -/
structure BudgetTracker where
  maxToolCalls : Nat
  maxSteps : Nat
  toolCallCount : Nat := 0
  stepCount : Nat := 0
  deriving Repr, DecidableEq

namespace BudgetTracker

/-- `can_call_tool`. -/
def canCallTool (budget : BudgetTracker) : Bool :=
  budget.toolCallCount < budget.maxToolCalls

/-- `can_step`. -/
def canStep (budget : BudgetTracker) : Bool :=
  budget.stepCount < budget.maxSteps

/-- `record_tool_call`. -/
def recordToolCall (budget : BudgetTracker) : BudgetTracker :=
  { budget with toolCallCount := budget.toolCallCount + 1 }

/-- `record_step`. -/
def recordStep (budget : BudgetTracker) : BudgetTracker :=
  { budget with stepCount := budget.stepCount + 1 }

end BudgetTracker

/-- The workspace of a `SandboxManager`, with the base commit it recorded. -/
structure Workspace where
  files : Files
  baseCommitSha : String

/-- `runtime[run_id]`: the sandbox manager, and the outcome of the tests. -/
structure SandboxRuntime where
  workspace : Option Workspace := none
  testOk : Bool := false

/-- What a process has in hand while it executes the graph. -/
structure Session where
  state : AgentState
  budget : BudgetTracker
  runtime : Option SandboxRuntime := none

/-- `Settings.evaluation_strategy`. -/
inductive EvaluationStrategy where
  | autonomous
  | fixed
  | direct
  deriving Repr, DecidableEq

/-- The settings the graph reads, and whether its model is the fake one. -/
structure WorkflowSettings where
  maxInvestigationSteps : Nat
  maxToolCalls : Nat
  maxPatchAttempts : Nat
  investigationOnly : Bool
  evaluationStrategy : EvaluationStrategy
  sandboxFaultType : Option String
  registeredFaultTypes : List String
  protectedEnvironment : Bool
  sandboxEnabled : Bool
  sandboxNetwork : String
  deterministic : Bool

/-- `InvestigationPlan`. -/
structure InvestigationPlan where
  steps : List String
  focus : String

/-- `ToolSelection`. -/
structure ToolSelection where
  toolName : String
  reason : String
  arguments : Json

/-- `NextAction.action`. -/
inductive ActionKind where
  | collectEvidence
  | formHypothesis
  | verifyHypothesis
  | declareRootCause
  | insufficientEvidence
  | needsHuman
  deriving Repr, DecidableEq

/-- `NextAction`. -/
structure NextAction where
  action : ActionKind
  toolSelection : Option ToolSelection := none
  reason : String := ""

/-- `VerificationDecision`. -/
structure VerificationDecision where
  hypothesisSupported : Bool
  notes : String

/-- `RootCauseConclusion`. -/
structure RootCauseConclusion where
  statement : String
  faultCategory : String
  affectedComponent : String
  causalFacts : List String
  supportingEvidenceIds : List Uuid
  confidence : String

/-- The exceptions that leave a node. -/
inductive GraphError where
  | run (error : RunError)
  | structuredOutput (message : String)
  | value (message : String)
  | other (message : String)
  deriving Repr, DecidableEq

/-- The exceptions `classify_tool_error` tells apart. -/
inductive ToolException where
  | timeout
  | connection
  | httpStatus (code : Nat)
  | permission
  | typeOrValue
  | other
  deriving Repr, DecidableEq

/-- How one invocation of a tool handler ends. -/
inductive HandlerOutcome where
  | returned (output : Json)
  | timedOut
  | raised (kind : ToolException) (message : String)

/-- The sandbox source when a workspace is made from it. -/
structure Checkout where
  files : Files
  head : Option String
  dirty : Bool

/-- A finished test execution, with the id it is recorded under. -/
structure TestReport where
  exitCode : Int
  testRunId : Uuid

/-- What the nodes of the graph ask of the world. -/
inductive WorkflowRequest where
  | plan
  | nextAction (evidence : List EvidenceItem)
  | proposeHypothesis (evidence : List EvidenceItem)
  | directConclusion (evidence : List EvidenceItem)
  | verificationAction
      (evidence : List EvidenceItem)
      (proposal : HypothesisProposal)
  | verify
      (proposal : HypothesisProposal)
      (evidence : List EvidenceItem)
  | conclude
      (proposal : HypothesisProposal)
      (evidence : List EvidenceItem)
  | patch
      (rootCause : Option RootCause)
      (evidence : List EvidenceItem)
      (previousAttempts : List PatchAttempt)
  | invokeTool (name : String) (arguments : Json)
  | freshId
  | readSource
  | patchFault (files : Files) (patchDiff : String)
  | runTests (workspace : Workspace) (attempt : Option PatchAttempt)
  | transact (write : FencedWrite)
  | persistArtifact (artifact : PatchArtifactData)

/--
The answers to each request.  The model, the sandbox and the database may raise;
`patchFault` tells whether a subprocess of `apply_patch` fails, and what it
leaves behind.
-/
@[reducible] def WorkflowAnswer : WorkflowRequest → Type
  | .plan => Except GraphError InvestigationPlan
  | .nextAction _ => Except GraphError NextAction
  | .proposeHypothesis _ => Except GraphError HypothesisProposal
  | .directConclusion _ => Except GraphError RootCauseConclusion
  | .verificationAction .. => Except GraphError NextAction
  | .verify .. => Except GraphError VerificationDecision
  | .conclude .. => Except GraphError RootCauseConclusion
  | .patch .. => Except GraphError String
  | .invokeTool .. => HandlerOutcome
  | .freshId => Uuid
  | .readSource => Except String Checkout
  | .patchFault .. => Option (Files × String)
  | .runTests .. => Except String TestReport
  | .transact _ => Except GraphError Unit
  | .persistArtifact _ => Except GraphError Uuid

/-- Programs of the graph. -/
abbrev WorkflowProgram :=
  Program WorkflowRequest WorkflowAnswer GraphError

/-- An answer, or the exception it is. -/
def raiseOr {Value : Type} :
    Except GraphError Value → WorkflowProgram Value
  | .ok value => .done value
  | .error error => .raise error

/-- A new identifier. -/
def freshId : WorkflowProgram Uuid :=
  .ask .freshId .done

/-- A transaction behind the fence. -/
def transact (write : FencedWrite) : WorkflowProgram Unit :=
  .ask (.transact write) raiseOr

/-- A new identifier may be any. -/
theorem freshId_always
    {holds : Uuid → Prop}
    (always : ∀ id, holds id) :
    freshId.Always holds :=
  always

end IncidentPilot
