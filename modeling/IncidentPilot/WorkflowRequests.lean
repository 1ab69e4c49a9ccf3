import IncidentPilot.Library.Answers
import IncidentPilot.WorkflowGraph

/-!
# What the nodes of the graph ask

Which requests a node can make of the world, whatever it is answered.  Only
`run_tests` and `export_patch_artifact` execute tests, only the latter persists
an artifact, and the transactions of the guard around each node check the lease
and report progress.
-/

namespace IncidentPilot

/-- A request that leaves the database and the tests alone. -/
def WorkflowRequest.passive : WorkflowRequest → Bool
  | .runTests _ _ => false
  | .transact _ => false
  | .persistArtifact _ => false
  | _ => true

/-- What the guard of a node writes. -/
def FencedWrite.reports : FencedWrite → Bool
  | .check => true
  | .progress .. => true
  | _ => false

/-- A request whose transaction, if it is one, is one of the guard. -/
def WorkflowRequest.quiet : WorkflowRequest → Bool
  | .transact write => write.reports
  | _ => true

/-- A request that makes no transaction but that of an artifact. -/
def WorkflowRequest.silent : WorkflowRequest → Bool
  | .transact _ => false
  | _ => true

/-- A passive request is silent. -/
theorem WorkflowRequest.silent_of_passive
    (request : WorkflowRequest)
    (passive : request.passive = true) :
    request.silent = true := by
  cases request with
  | transact write => cases passive
  | _ => rfl

/-- A silent request is quiet. -/
theorem WorkflowRequest.quiet_of_silent
    (request : WorkflowRequest)
    (silent : request.silent = true) :
    request.quiet = true := by
  cases request with
  | transact write => cases silent
  | _ => rfl

/-- Programs that only ask passive requests. -/
abbrev WorkflowProgram.Passive
    {Value : Type}
    (program : WorkflowProgram Value) : Prop :=
  program.Asks fun request => request.passive = true

/-- Programs that only ask silent requests. -/
abbrev WorkflowProgram.Silent
    {Value : Type}
    (program : WorkflowProgram Value) : Prop :=
  program.Asks fun request => request.silent = true

/-- Programs that only ask quiet requests. -/
abbrev WorkflowProgram.Quiet
    {Value : Type}
    (program : WorkflowProgram Value) : Prop :=
  program.Asks fun request => request.quiet = true

/-- What is passive is silent. -/
theorem WorkflowProgram.Passive.silent
    {Value : Type}
    {program : WorkflowProgram Value}
    (passive : WorkflowProgram.Passive program) :
    WorkflowProgram.Silent program :=
  Program.Asks.mono passive WorkflowRequest.silent_of_passive

/-- What is silent is quiet. -/
theorem WorkflowProgram.Silent.quiet
    {Value : Type}
    {program : WorkflowProgram Value}
    (silent : WorkflowProgram.Silent program) :
    WorkflowProgram.Quiet program :=
  Program.Asks.mono silent WorkflowRequest.quiet_of_silent

/-- An answer or its exception asks for nothing. -/
theorem raiseOr_asks
    {Value : Type}
    {kind : WorkflowRequest → Prop}
    (answer : Except GraphError Value) :
    (raiseOr answer).Asks kind := by
  cases answer <;> trivial

/-- A request whose answer is returned is all that is asked. -/
theorem asksRaiseOr
    {Value : Type}
    {kind : WorkflowRequest → Prop}
    {request : WorkflowRequest}
    {answered : WorkflowAnswer request → Except GraphError Value}
    (asked : kind request) :
    Program.Asks kind
      (.ask request fun answer => raiseOr (answered answer) :
        WorkflowProgram Value) :=
  ⟨asked, fun answer => raiseOr_asks (answered answer)⟩

/-- A new identifier is a passive request. -/
theorem freshId_passive : WorkflowProgram.Passive freshId :=
  ⟨rfl, fun _ => trivial⟩

section Investigation

variable (tools : WorkflowTools) (settings : WorkflowSettings)

/-- Planning asks at most the model. -/
theorem planNode_passive (session : Session) :
    WorkflowProgram.Passive (planNode settings session) := by
  unfold planNode
  refine .bind ?_ fun plan => trivial
  unfold investigationPlan
  split
  · exact asksRaiseOr rfl
  · trivial

/-- Invoking a handler asks the handler. -/
theorem invokeHandler_passive
    (tools : JsonTools)
    (spec : ToolSpec)
    (arguments : Json)
    (retries executed : Nat)
    (budget : BudgetTracker) :
    WorkflowProgram.Passive
      (invokeHandler tools spec arguments retries executed budget) := by
  induction retries generalizing executed budget with
  | zero =>
      unfold invokeHandler
      refine ⟨rfl, fun outcome => ?_⟩
      beta_reduce
      split
      · trivial
      · split <;> trivial
  | succ retries inductionHypothesis =>
      unfold invokeHandler
      refine ⟨rfl, fun outcome => ?_⟩
      beta_reduce
      split
      · trivial
      · split
        · simp only
          split
          · exact inductionHypothesis _ _
          · trivial
        · trivial

/-- A tool call asks for an identifier and its handler. -/
theorem call_passive
    (tools : JsonTools)
    (registry : ToolRegistry)
    (budget : BudgetTracker)
    (name : String)
    (payload : Json) :
    WorkflowProgram.Passive
      (ToolGateway.call tools registry budget name payload) := by
  unfold ToolGateway.call
  refine .bind freshId_passive fun toolCallId => ?_
  split
  · trivial
  · split
    · split
      · trivial
      · trivial
      · trivial
      · exact
          .bind (invokeHandler_passive tools _ _ _ _ _) fun _ => trivial
    · trivial

/-- An observation asks for its tool. -/
theorem observe_passive
    (collection : Collection)
    (selection : ToolSelection) :
    WorkflowProgram.Passive
      (observe tools settings collection selection) := by
  unfold observe
  refine .bind (call_passive tools.json _ _ _ _) ?_
  rintro ⟨call, budget⟩
  dsimp only
  split
  · trivial
  · refine .bind ?_ fun evidence => ?_
    · unfold withObservation
      split
      · exact .bind freshId_passive fun _ => trivial
      · trivial
    · split <;> trivial

/-- An iteration of the loop asks the model and a tool. -/
theorem collectStep_passive (collection : Collection) :
    WorkflowProgram.Passive
      (collectStep tools settings collection) := by
  unfold collectStep
  refine .bind ?_ fun action => ?_
  · unfold nextAction
    split
    · exact asksRaiseOr rfl
    · split <;> trivial
  · split
    · trivial
    · trivial
    · trivial
    · trivial
    · trivial
    · split
      · trivial
      · exact observe_passive tools settings collection _

/-- The loop asks what its iterations ask. -/
theorem collectLoop_passive
    (remaining : Nat)
    (collection : Collection) :
    WorkflowProgram.Passive
      (collectLoop tools settings remaining collection) := by
  induction remaining generalizing collection with
  | zero =>
      trivial
  | succ remaining inductionHypothesis =>
      refine .bind (collectStep_passive tools settings _) fun step => ?_
      cases step with
      | done last => trivial
      | yield next => exact inductionHypothesis next

/-- Collecting evidence asks what its loop asks. -/
theorem collectEvidenceNode_passive (session : Session) :
    WorkflowProgram.Passive
      (collectEvidenceNode tools settings session) :=
  .bind (collectLoop_passive tools settings _ _) fun _ => trivial

/-- Forming a hypothesis asks the model. -/
theorem formHypothesisNode_passive (session : Session) :
    WorkflowProgram.Passive
      (formHypothesisNode tools settings session) := by
  unfold formHypothesisNode
  refine .bind ?_ fun state => trivial
  unfold formHypothesis
  split
  · trivial
  · dsimp only
    split
    · trivial
    · split
      · unfold directDiagnosis
        refine .bind (asksRaiseOr rfl) fun conclusion => ?_
        split <;> trivial
      · unfold proposeHypothesis
        refine .bind (asksRaiseOr rfl) fun proposal => ?_
        split <;> trivial

/-- Selecting an observation asks the model. -/
theorem verificationSelection_passive
    (state : AgentState)
    (proposal : HypothesisProposal) :
    WorkflowProgram.Passive
      (verificationSelection settings state proposal) := by
  unfold verificationSelection
  split
  · trivial
  · refine ⟨rfl, fun answer => ?_⟩
    cases answer with
    | error error => trivial
    | ok action =>
        dsimp only
        split <;> trivial

/-- Judging a hypothesis asks the model. -/
theorem judgeHypothesis_passive
    (state : AgentState)
    (budget : BudgetTracker)
    (earlier : List Hypothesis)
    (hypothesis : Hypothesis) :
    WorkflowProgram.Passive
      (judgeHypothesis settings state budget earlier hypothesis) := by
  unfold judgeHypothesis
  refine .bind (asksRaiseOr rfl) fun decision => ?_
  dsimp only
  split
  · unfold concludeRootCause
    refine .bind (asksRaiseOr rfl) fun conclusion => ?_
    split <;> trivial
  · trivial

/-- Verifying a hypothesis asks a tool and the model. -/
theorem verifyHypothesisNode_passive (session : Session) :
    WorkflowProgram.Passive
      (verifyHypothesisNode tools settings session) := by
  unfold verifyHypothesisNode
  dsimp only
  split
  · trivial
  · split
    · trivial
    · unfold verifyHypothesis
      refine
        .bind (verificationSelection_passive settings _ _)
          fun selection => ?_
      refine .bind (call_passive tools.json _ _ _ _) ?_
      rintro ⟨source, budget⟩
      refine .bind ?_ fun state => trivial
      unfold verifyWith
      split
      · trivial
      · exact
          .bind freshId_passive fun evidenceId =>
            judgeHypothesis_passive settings _ _ _ _

end Investigation

section Repair

variable (tools : WorkflowTools) (settings : WorkflowSettings)

/-- Creating a sandbox reads the source. -/
theorem createSandboxNode_passive (session : Session) :
    WorkflowProgram.Passive
      (createSandboxNode tools settings session) := by
  unfold createSandboxNode
  dsimp only
  split
  · trivial
  · refine .bind ?_ fun created => ?_
    · unfold createWorkspace
      refine ⟨rfl, fun answer => ?_⟩
      cases answer <;> trivial
    · cases created <;> trivial

/-- Applying a patch asks whether its subprocesses fail. -/
theorem applyPatch_passive
    (runtime : SandboxRuntime)
    (patchDiff : String) :
    WorkflowProgram.Passive (runtime.applyPatch tools patchDiff) := by
  unfold SandboxRuntime.applyPatch
  split
  · trivial
  · refine ⟨rfl, fun fault => ?_⟩
    cases fault <;> trivial

/-- Replaying a patch applies it. -/
theorem replayPatch_passive
    (session : Session)
    (runtime : SandboxRuntime) :
    WorkflowProgram.Passive (replayPatch tools session runtime) := by
  unfold replayPatch
  split
  · split
    · trivial
    · refine .bind (applyPatch_passive tools runtime _) ?_
      rintro ⟨applied, outcome⟩
      cases outcome <;> trivial
  · trivial

/-- Ensuring a workspace creates it and replays a patch. -/
theorem ensureWorkspace_passive
    (replay : Bool)
    (session : Session) :
    WorkflowProgram.Passive
      (ensureWorkspace tools settings replay session) := by
  unfold ensureWorkspace
  split
  · trivial
  · refine
      .bind (createSandboxNode_passive tools settings session)
        fun created => ?_
    split
    · trivial
    · split
      · trivial
      · split
        · exact
            .bind (replayPatch_passive tools created _) fun _ => trivial
        · trivial

/-- An attempt asks the model for a patch and applies it. -/
theorem attemptPatch_passive
    (session : Session)
    (runtime : SandboxRuntime) :
    WorkflowProgram.Passive
      (attemptPatch tools settings session runtime) := by
  unfold attemptPatch
  dsimp only
  split
  · trivial
  · refine .bind ?_ fun patchDiff => ?_
    · unfold proposePatch
      split
      · trivial
      · exact asksRaiseOr rfl
    · refine .bind (applyPatch_passive tools runtime patchDiff) ?_
      rintro ⟨applied, outcome⟩
      cases outcome <;> trivial

/-- Generating a patch ensures a workspace and attempts a patch in it. -/
theorem generatePatchNode_passive (session : Session) :
    WorkflowProgram.Passive
      (generatePatchNode tools settings session) := by
  unfold generatePatchNode
  refine .bind (ensureWorkspace_passive tools settings false _) ?_
  rintro ⟨ensured, manager⟩
  cases manager with
  | none =>
      trivial
  | some runtime =>
      dsimp only
      split
      · exact attemptPatch_passive tools settings ensured runtime
      · split
        · trivial
        · exact attemptPatch_passive tools settings ensured runtime

/-- Running the tests writes nothing. -/
theorem runTestsNode_silent (session : Session) :
    WorkflowProgram.Silent (runTestsNode tools settings session) := by
  unfold runTestsNode
  refine
    .bind (ensureWorkspace_passive tools settings true _).silent ?_
  rintro ⟨ensured, manager⟩
  cases manager with
  | none =>
      trivial
  | some runtime =>
      refine .bind ?_ fun report => ?_
      · unfold SandboxRuntime.runTests
        split
        · trivial
        · split
          · trivial
          · split
            · trivial
            · exact ⟨rfl, fun _ => trivial⟩
      · cases report <;> trivial

/-- Exporting an artifact persists it. -/
theorem exportArtifact_silent
    (session : Session)
    (runtime : SandboxRuntime) :
    WorkflowProgram.Silent (exportArtifact tools session runtime) := by
  unfold exportArtifact
  refine .bind freshId_passive.silent fun patchArtifactId => ?_
  exact .bind (asksRaiseOr rfl) fun persistedId => trivial

/-- Exporting writes nothing but the artifact. -/
theorem exportArtifactNode_silent (session : Session) :
    WorkflowProgram.Silent
      (exportArtifactNode tools settings session) := by
  unfold exportArtifactNode
  dsimp only
  split
  · exact exportArtifact_silent tools _ _
  · refine
      .bind (runTestsNode_silent tools settings _) fun tested => ?_
    split
    · trivial
    · split
      · trivial
      · exact exportArtifact_silent tools tested _

/-- The guard around a node checks and reports. -/
theorem guarded_quiet
    {node : Session → WorkflowProgram Session}
    {session : Session}
    (silent : WorkflowProgram.Silent (node session.syncBudget)) :
    WorkflowProgram.Quiet (guarded node session) := by
  unfold guarded
  split
  · trivial
  · refine .bind (asksRaiseOr rfl) fun _ => ?_
    refine .bind silent.quiet fun outcome => ?_
    exact .bind (asksRaiseOr rfl) fun _ => trivial

/-- Every node but the one that interrupts is silent behind its guard. -/
theorem node_guarded
    (node : WorkflowNode)
    (other : node ≠ .waitForApproval) :
    ∃ body : Session → WorkflowProgram Session,
      node.program tools settings = guarded body ∧
        ∀ session, WorkflowProgram.Silent (body session) := by
  cases node with
  | plan =>
      exact ⟨_, rfl, fun _ => (planNode_passive settings _).silent⟩
  | collectEvidence =>
      exact
        ⟨_, rfl, fun _ =>
          (collectEvidenceNode_passive tools settings _).silent⟩
  | formHypothesis =>
      exact
        ⟨_, rfl, fun _ =>
          (formHypothesisNode_passive tools settings _).silent⟩
  | verifyHypothesis =>
      exact
        ⟨_, rfl, fun _ =>
          (verifyHypothesisNode_passive tools settings _).silent⟩
  | createSandbox =>
      exact
        ⟨_, rfl, fun _ =>
          (createSandboxNode_passive tools settings _).silent⟩
  | generatePatch =>
      exact
        ⟨_, rfl, fun _ =>
          (generatePatchNode_passive tools settings _).silent⟩
  | runTests =>
      exact ⟨_, rfl, fun _ => runTestsNode_silent tools settings _⟩
  | reflect =>
      exact ⟨_, rfl, fun _ => trivial⟩
  | exportPatchArtifact =>
      exact ⟨_, rfl, fun _ => exportArtifactNode_silent tools settings _⟩
  | waitForApproval =>
      exact absurd rfl other
  | needsHuman =>
      exact ⟨_, rfl, fun _ => trivial⟩

/-- Every node is quiet. -/
theorem node_quiet
    (node : WorkflowNode)
    (session : Session) :
    WorkflowProgram.Quiet (node.program tools settings session) := by
  by_cases interrupts : node = .waitForApproval
  · subst interrupts
    exact .bind (asksRaiseOr rfl) fun _ => trivial
  · obtain ⟨body, same, silent⟩ :=
      node_guarded tools settings node interrupts
    rw [same]
    exact guarded_quiet (silent _)

end Repair

end IncidentPilot
