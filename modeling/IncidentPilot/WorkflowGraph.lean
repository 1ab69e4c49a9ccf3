import IncidentPilot.Evidence
import Mathlib.Algebra.GroupWithZero.Nat

/-!
# The workflow graph

The nodes of `agent/graph.py` as programs on what a process has in hand, the
guard every node runs behind, and the edges between them.  A node mutates its
state as it goes; an exception that leaves it loses what it had changed.
-/

namespace IncidentPilot

/-- The library functions the graph rests on. -/
structure WorkflowTools where
  json : JsonTools
  patch : PatchTools
  dumpsIndented : Json → String

/-- The columns of the incident that the graph reads. -/
structure IncidentFields where
  service : String
  repository : String

/-- The nodes of the graph. -/
inductive WorkflowNode where
  | plan
  | collectEvidence
  | formHypothesis
  | verifyHypothesis
  | createSandbox
  | generatePatch
  | runTests
  | reflect
  | exportPatchArtifact
  | waitForApproval
  | needsHuman
  deriving Repr, DecidableEq

namespace AgentState

/-- A state that stops the run. -/
def stop
    (state : AgentState)
    (status : AgentRunStatus)
    (workflowState : WorkflowState) : AgentState :=
  { state with status := status, workflowState := workflowState }

/-- A state that stops the run for want of evidence. -/
def insufficient (state : AgentState) : AgentState :=
  state.stop .insufficientEvidence .insufficientEvidence

/-- A state that hands the run to a human. -/
def handedOver (state : AgentState) : AgentState :=
  state.stop .needsHumanIntervention .needsHumanIntervention

/-- A state with the reason why it stops. -/
def because (state : AgentState) (reason : String) : AgentState :=
  { state with result := { state.result with stopReason := some reason } }

end AgentState

/-- A session with another state. -/
def Session.withState (session : Session) (state : AgentState) : Session :=
  { session with state := state }

section Investigation

variable (tools : WorkflowTools) (settings : WorkflowSettings)

/-- The plan, for which only the autonomous strategy asks the model. -/
def investigationPlan : WorkflowProgram InvestigationPlan :=
  match settings.evaluationStrategy with
  | .autonomous => .ask .plan raiseOr
  | _ =>
      .done
        { steps := ["Collect fixed context", "Diagnose from observations"]
          focus := "controlled evaluation baseline" }

/-- `plan_node`. -/
def planNode (session : Session) : WorkflowProgram Session := do
  let plan ← investigationPlan settings
  .done
    (session.withState
      { session.state with
        workflowState := .plan
        plan := plan.steps
        result :=
          { session.state.result with planFocus := some plan.focus } })

/-- The reading of `app.py` that needs no model. -/
def sourceSelection (repository reason : String) : ToolSelection where
  toolName := "read_source_code"
  reason := reason
  arguments :=
    .object [("repository", .string repository), ("path", .string "app.py")]

/-- The observations of the strategies without a model. -/
def fixedObservations (state : AgentState) : List ToolSelection :=
  let reason := "fixed baseline observation"
  [{ toolName := "read_metrics"
     reason := reason
     arguments := .object [("service", .string state.service)] },
    { toolName := "read_logs"
      reason := reason
      arguments := .object [("service", .string state.service)] },
    { toolName := "inspect_git_history"
      reason := reason
      arguments :=
        .object
          [("repository", .string state.repository),
            ("limit", .int 5)] }] ++
    if settings.evaluationStrategy = .direct then
      [sourceSelection state.repository reason]
    else
      []

/-- What the loop of `collect_evidence_node` changes. -/
structure Collection where
  state : AgentState
  budget : BudgetTracker
  toolCalls : List ToolCall
  evidence : List EvidenceItem

/-- The next action of the loop. -/
def nextAction (collection : Collection) : WorkflowProgram NextAction :=
  match settings.evaluationStrategy with
  | .autonomous => .ask (.nextAction collection.evidence) raiseOr
  | _ =>
      match
        (fixedObservations settings collection.state)[
          collection.toolCalls.length]? with
      | none => .done { action := .formHypothesis }
      | some selection =>
          .done
            { action := .collectEvidence
              toolSelection := some selection }

/-- `text.removeprefix(pattern)`. -/
def removePrefix (pattern text : String) : String :=
  if startsWith text pattern = true then
    String.ofList (text.toList.drop pattern.length)
  else
    text

/-- The item of evidence that a call was observed as. -/
def observationOf
    (runId : String)
    (selection : ToolSelection)
    (sourceType : String)
    (call : ToolCall)
    (evidenceId : Uuid) : EvidenceItem where
  evidenceId := evidenceId
  runId := runId
  source := selection.toolName
  sourceType := sourceType
  toolCallId := call.toolCallId
  summary := selection.reason
  hash := contentHash tools.json call.output
  result := call.output

/-- The evidence with the observation of a call, when the call succeeded. -/
def withObservation
    (collection : Collection)
    (selection : ToolSelection)
    (call : ToolCall) : WorkflowProgram (List EvidenceItem) :=
  if call.status = .succeeded then do
    let evidenceId ← freshId
    .done
      (collection.evidence ++
        [observationOf tools collection.state.runId selection
          (removePrefix "inspect_"
            (removePrefix "read_" selection.toolName))
          call evidenceId])
  else
    .done collection.evidence

/-- The call of the tool the loop has selected, and whether it goes on. -/
def observe
    (collection : Collection)
    (selection : ToolSelection) :
    WorkflowProgram (ForInStep Collection) := do
  let (call, budget) ←
    ToolGateway.call tools.json readonlyRegistry collection.budget
      selection.toolName selection.arguments
  let called :=
    { collection with
      budget := budget
      toolCalls := collection.toolCalls ++ [call] }
  if selection.toolName ∉ readonlyTools then
    .done
      (.done
        { called with
          state :=
            called.state.handedOver.because
              "model selected an unregistered tool" })
  else do
    let evidence ← withObservation tools collection selection call
    let observed := { called with evidence := evidence }
    if settings.maxToolCalls ≤ observed.toolCalls.length then
      .done (.done { observed with state := observed.state.handedOver })
    else
      .done (.yield observed)

/-- One iteration of the loop, once its step is recorded. -/
def collectStep
    (collection : Collection) :
    WorkflowProgram (ForInStep Collection) := do
  let action ← nextAction settings collection
  match action.action with
  | .formHypothesis => .done (.done collection)
  | .verifyHypothesis => .done (.done collection)
  | .declareRootCause => .done (.done collection)
  | .insufficientEvidence =>
      .done
        (.done
          { collection with
            state := collection.state.insufficient.because action.reason })
  | .needsHuman =>
      .done
        (.done
          { collection with
            state := collection.state.handedOver.because action.reason })
  | .collectEvidence =>
      match action.toolSelection with
      | none =>
          .done
            (.done
              { collection with
                state :=
                  collection.state.insufficient.because
                    ("model asked to collect evidence with no tool " ++
                      "selection") })
      | some selection => observe tools settings collection selection

/-- The steps a budget has left. -/
def BudgetTracker.remainingSteps (budget : BudgetTracker) : Nat :=
  budget.maxSteps - budget.stepCount

/--
The loop of `collect_evidence_node`, with the steps its budget has left: an
iteration records one, and nothing else in it does.
-/
def collectLoop : Nat → Collection → WorkflowProgram Collection
  | 0, collection => .done collection
  | remaining + 1, collection => do
      let step ←
        collectStep tools settings
          { collection with budget := collection.budget.recordStep }
      match step with
      | .done last => .done last
      | .yield next => collectLoop remaining next

/-- What `collect_evidence_node` does after its loop. -/
def closeCollection (collection : Collection) : AgentState :=
  let collected :=
    { collection.state with
      toolCalls := collection.toolCalls
      evidence := collection.evidence
      result :=
        { collection.state.result with
          investigationSteps := some collection.budget.stepCount } }
  let bounded :=
    if collection.budget.canStep = false ∧
        collected.status = .running then
      collected.handedOver
    else
      collected
  if collection.evidence = [] then
    { bounded.insufficient with
      result := { message := some "no evidence collected" } }
  else
    bounded

/-- `collect_evidence_node`. -/
def collectEvidenceNode (session : Session) : WorkflowProgram Session := do
  let collection ←
    collectLoop tools settings session.budget.remainingSteps
      { state := { session.state with workflowState := .collectEvidence }
        budget := session.budget
        toolCalls := session.state.toolCalls
        evidence := session.state.evidence }
  .done
    { session with
      state := closeCollection collection
      budget := collection.budget }

/-- The ids of some evidence. -/
def evidenceIds (evidence : List EvidenceItem) : List Uuid :=
  evidence.map EvidenceItem.evidenceId

/-- Some ids are cited, and each of them is known. -/
def citesKnown (cited : List Uuid) (evidence : List EvidenceItem) : Bool :=
  !cited.isEmpty && cited.all fun id => (evidenceIds evidence).contains id

/-- The root cause a conclusion is turned into. -/
def RootCauseConclusion.rootCause
    (conclusion : RootCauseConclusion)
    (verified : Bool) : RootCause where
  statement := conclusion.statement
  faultCategory := conclusion.faultCategory
  affectedComponent := conclusion.affectedComponent
  causalFacts := conclusion.causalFacts
  evidenceIds := conclusion.supportingEvidenceIds
  confidence := conclusion.confidence
  verified := verified

/-- The diagnosis of the direct strategy. -/
def directDiagnosis (state : AgentState) : WorkflowProgram AgentState := do
  let conclusion ←
    (.ask (.directConclusion state.evidence) raiseOr :
      WorkflowProgram RootCauseConclusion)
  if citesKnown conclusion.supportingEvidenceIds state.evidence = true then
    .done
      { state.stop .investigationComplete .rootCauseFound with
        rootCause := some (conclusion.rootCause false) }
  else
    .done state.insufficient

/-- A hypothesis is proposed on filtered evidence. -/
def proposeHypothesis (state : AgentState) : WorkflowProgram AgentState := do
  let proposal ←
    (.ask (.proposeHypothesis state.evidence) raiseOr :
      WorkflowProgram HypothesisProposal)
  if citesKnown proposal.evidenceIds state.evidence = true then
    .done
      { state with
        hypotheses :=
          state.hypotheses ++
            [{ proposal := proposal
               status := .opened
               verified := false }] }
  else
    .done
      { state.insufficient with
        result :=
          { message :=
              some "model hypothesis cited unknown or no evidence" } }

/-- `form_hypothesis_node` on its state. -/
def formHypothesis (entered : AgentState) : WorkflowProgram AgentState :=
  if entered.status ≠ .running then
    .done entered
  else
    let state :=
      { entered with
        evidence :=
          validEvidence tools.json entered.evidence entered.toolCalls
            entered.runId }
    if state.evidence.length < 2 then
      .done
        { state.insufficient with
          result := { message := some "insufficient evidence" } }
    else if settings.evaluationStrategy = .direct then
      directDiagnosis state
    else
      proposeHypothesis state

/-- `form_hypothesis_node`. -/
def formHypothesisNode (session : Session) : WorkflowProgram Session := do
  let state ←
    formHypothesis tools settings
      { session.state with workflowState := .formHypothesis }
  .done (session.withState state)

/-- The observation that is to verify a hypothesis. -/
def verificationSelection
    (state : AgentState)
    (proposal : HypothesisProposal) : WorkflowProgram ToolSelection :=
  match settings.evaluationStrategy with
  | .fixed =>
      .done
        (sourceSelection state.repository "fixed independent verification")
  | _ =>
      .ask (.verificationAction state.evidence proposal) fun answer =>
        match answer with
        | .error error => .raise error
        | .ok action =>
            match action.toolSelection with
            | none =>
                .raise (.value "verification requires a tool selection")
            | some selection => .done selection

/-- The categories a model that is not the fake one must choose from. -/
def faultCategories : List String :=
  ["database_performance", "application_bug", "dependency",
    "data_contract", "configuration", "code_regression"]

/-- The tools that the cited evidence comes from. -/
def citedSources
    (cited : List Uuid)
    (evidence : List EvidenceItem) : List String :=
  (evidence.filter fun item => cited.contains item.evidenceId).map
    EvidenceItem.source

/-- A conclusion passes the gate before it becomes the root cause. -/
def acceptsConclusion
    (conclusion : RootCauseConclusion)
    (evidence : List EvidenceItem) : Bool :=
  let cited := conclusion.supportingEvidenceIds
  citesKnown cited evidence &&
    (evidence.getLast?.any fun last => cited.contains last.evidenceId) &&
    decide (2 ≤ (citedSources cited evidence).dedup.length) &&
    (settings.deterministic ||
      faultCategories.contains conclusion.faultCategory)

/-- The number of rejected hypotheses. -/
def rejectedCount (hypotheses : List Hypothesis) : Nat :=
  (hypotheses.filter fun hypothesis =>
    hypothesis.status = .rejected).length

/-- The hypothesis once the model has judged it. -/
def Hypothesis.judged
    (hypothesis : Hypothesis)
    (decision : VerificationDecision)
    (evidence : List EvidenceItem) : Hypothesis where
  proposal :=
    { hypothesis.proposal with evidenceIds := evidenceIds evidence }
  status := if decision.hypothesisSupported then .verified else .rejected
  verified := decision.hypothesisSupported
  verificationNotes := decision.notes

/-- What a rejection leaves of the state. -/
def rejectHypothesis
    (state : AgentState)
    (budget : BudgetTracker)
    (notes : String) : AgentState :=
  let rejected := { state with result := { message := some notes } }
  if 3 ≤ rejectedCount state.hypotheses ∨ budget.canStep = false then
    rejected.insufficient
  else
    rejected

/-- The conclusion is asked for, and taken when it passes the gate. -/
def concludeRootCause
    (state : AgentState)
    (proposal : HypothesisProposal) : WorkflowProgram AgentState := do
  let conclusion ←
    (.ask (.conclude proposal state.evidence) raiseOr :
      WorkflowProgram RootCauseConclusion)
  if acceptsConclusion settings conclusion state.evidence = true then
    .done
      { state with
        rootCause := some (conclusion.rootCause true)
        workflowState := .rootCauseFound
        status :=
          if settings.investigationOnly then .investigationComplete
          else state.status }
  else
    .done state.insufficient

/-- The model judges the hypothesis on the filtered evidence. -/
def judgeHypothesis
    (state : AgentState)
    (budget : BudgetTracker)
    (earlier : List Hypothesis)
    (hypothesis : Hypothesis) : WorkflowProgram AgentState := do
  let decision ←
    (.ask (.verify hypothesis.proposal state.evidence) raiseOr :
      WorkflowProgram VerificationDecision)
  let judged := hypothesis.judged decision state.evidence
  let state := { state with hypotheses := earlier ++ [judged] }
  if decision.hypothesisSupported = true then
    concludeRootCause settings state judged.proposal
  else
    .done (rejectHypothesis state budget decision.notes)

/-- What `verify_hypothesis_node` does with the observation it has made. -/
def verifyWith
    (state : AgentState)
    (budget : BudgetTracker)
    (earlier : List Hypothesis)
    (hypothesis : Hypothesis)
    (selection : ToolSelection)
    (source : ToolCall) : WorkflowProgram AgentState :=
  if source.status ≠ .succeeded ∨
      contentHash tools.json source.output ∈
        state.evidence.map EvidenceItem.hash then
    .done
      (state.insufficient.because
        ("verification failed or supplied no independent " ++
          "observation"))
  else do
    let evidenceId ← freshId
    let evidence :=
      state.evidence ++
        [observationOf tools state.runId selection "verification" source
          evidenceId]
    judgeHypothesis settings
      { state with
        evidence :=
          validEvidence tools.json evidence state.toolCalls state.runId }
      budget earlier hypothesis

/-- `verify_hypothesis_node` on a state whose last hypothesis is given. -/
def verifyHypothesis
    (session : Session)
    (earlier : List Hypothesis)
    (hypothesis : Hypothesis) : WorkflowProgram Session := do
  let selection ←
    verificationSelection settings session.state hypothesis.proposal
  let (source, budget) ←
    ToolGateway.call tools.json readonlyRegistry session.budget
      selection.toolName selection.arguments
  let state ←
    verifyWith tools settings
      { session.state with
        toolCalls := session.state.toolCalls ++ [source] }
      budget earlier hypothesis selection source
  .done { session with state := state, budget := budget }

/-- `verify_hypothesis_node`. -/
def verifyHypothesisNode (session : Session) : WorkflowProgram Session :=
  let entered :=
    session.withState
      { session.state with workflowState := .verifyHypothesis }
  if entered.state.status ≠ .running then
    .done entered
  else
    match entered.state.hypotheses.getLast? with
    | none => .done (entered.withState entered.state.insufficient)
    | some hypothesis =>
        verifyHypothesis tools settings entered
          entered.state.hypotheses.dropLast hypothesis

end Investigation

section Repair

variable (tools : WorkflowTools) (settings : WorkflowSettings)

/-- A file or directory name that the copy of the source leaves out. -/
def excludedName (tools : PatchTools) (name : String) : Bool :=
  sensitivePath tools name ||
    ["__pycache__", "var", ".pytest_cache"].contains name ||
    endsWith name ".db" ||
    endsWith name ".log"

/-- `shutil.copytree` with `excluded`, which looks at every part of a path. -/
def sandboxCopy (tools : PatchTools) (files : Files) : Files :=
  files.filter fun file =>
    !(splitText '/' file.1).any (excludedName tools)

/-- The base commit of a checkout. -/
def Checkout.baseCommitSha (checkout : Checkout) : String :=
  match checkout.head with
  | none => "UNVERSIONED"
  | some sha => if checkout.dirty then "UNVERSIONED" else sha

/-- The checks of `create_workspace` on the source. -/
def checkSource (checkout : Checkout) : Except String Unit :=
  if checkout.head ≠ none ∧ checkout.dirty = true ∧
      settings.protectedEnvironment = true then
    .error "protected sandbox source must match a clean Git base"
  else
    match settings.sandboxFaultType with
    | none => .ok ()
    | some faultType =>
        if settings.registeredFaultTypes.contains faultType then
          .ok ()
        else
          .error "unknown fault oracle"

/-- `SandboxManager.create_workspace`, or the text of its exception. -/
def createWorkspace : WorkflowProgram (Except String Workspace) :=
  .ask .readSource fun answer =>
    match answer with
    | .error message => .done (.error message)
    | .ok checkout =>
        .done
          ((checkSource settings checkout).map fun _ =>
            { files := sandboxCopy tools.patch checkout.files
              baseCommitSha := checkout.baseCommitSha })

/-- `create_sandbox_node_r`. -/
def createSandboxNode (session : Session) : WorkflowProgram Session :=
  let entered := { session.state with workflowState := .createSandbox }
  if entered.rootCause = none then
    .done
      (session.withState { entered with status := .insufficientEvidence })
  else do
    let created ← createWorkspace tools settings
    match created with
    | .ok workspace =>
        .done
          { session with
            state := entered
            runtime := some { workspace := some workspace } }
    | .error message =>
        .done
          { session with
            state :=
              { entered.stop .failed .failed with
                error := some ("sandbox create failed: " ++ message) }
            runtime := some {} }

/-- `manager.base_commit_sha`. -/
def SandboxRuntime.baseCommitSha (runtime : SandboxRuntime) : String :=
  (runtime.workspace.map Workspace.baseCommitSha).getD "UNVERSIONED"

/-- `manager.apply_patch`, whose subprocesses may fail on their own account. -/
def SandboxRuntime.applyPatch
    (runtime : SandboxRuntime)
    (patchDiff : String) :
    WorkflowProgram (SandboxRuntime × Except String Unit) :=
  match runtime.workspace with
  | none => .done (runtime, .error "workspace not created")
  | some workspace =>
      .ask (.patchFault workspace.files patchDiff) fun fault =>
        match fault with
        | some (files, message) =>
            .done
              ({ runtime with
                  workspace := some { workspace with files := files } },
                .error message)
        | none =>
            let applied :=
              IncidentPilot.applyPatch tools.patch workspace.files
                patchDiff
            .done
              ({ runtime with
                  workspace :=
                    some { workspace with files := applied.1 } },
                applied.2)

/-- `manager.destroy_workspace`. -/
def SandboxRuntime.destroyWorkspace
    (runtime : SandboxRuntime) : SandboxRuntime :=
  { runtime with workspace := none }

/-- The patch of the last attempt, when it has one. -/
def AgentState.lastPatch (state : AgentState) : Option String :=
  (state.patchAttempts.getLast?.bind PatchAttempt.patchDiff).filter
    fun patchDiff => patchDiff ≠ ""

/-- The patch of the last attempt is applied to a new workspace. -/
def replayPatch
    (session : Session)
    (runtime : SandboxRuntime) : WorkflowProgram Session :=
  match session.state.patchAttempts.getLast?,
    session.state.lastPatch with
  | some attempt, some patchDiff =>
      if attempt.baseCommitSha ≠ some runtime.baseCommitSha then
        .raise
          (.value "checkpoint patch base changed; revalidation required")
      else do
        let (applied, outcome) ←
          runtime.applyPatch tools patchDiff
        match outcome with
        | .error message => .raise (.other message)
        | .ok () => .done { session with runtime := some applied }
  | _, _ => .done session

/-- `ensure_workspace`; the manager it returns is the one of the session. -/
def ensureWorkspace
    (replay : Bool)
    (session : Session) :
    WorkflowProgram (Session × Option SandboxRuntime) :=
  match session.runtime with
  | some runtime => .done (session, some runtime)
  | none => do
      let created ← createSandboxNode tools settings session
      if created.state.status ≠ .running then
        .done (created, none)
      else
        match created.runtime with
        | none => .done (created, none)
        | some runtime =>
            if replay = true then do
              let replayed ← replayPatch tools created runtime
              .done (replayed, replayed.runtime)
            else
              .done (created, some runtime)

/-- The edits of `generate_deterministic_patch`. -/
def deterministicEdits : List PatchEdit :=
  [{ path := "app.py"
     find :=
      "            if ftype in \x7b\"n_plus_one_query\", " ++
        "\"missing_index\", \"bad_query_refactor\", " ++
        "\"cache_failure\"\x7d:\n" ++
        "                time.sleep(float(params.get(" ++
        "\"per_row_delay\", 0.03)))\n"
     replace :=
      "            # Fixed: remove per-row delay after batching item " ++
        "loads\n" ++
        "            # (n_plus_one_query / missing_index / " ++
        "bad_query_refactor / cache_failure)\n" },
    { path := "app.py"
      find :=
      "        if ftype in \x7b\"slow_database_query\", " ++
        "\"dependency_timeout\", " ++
        "\"connection_pool_exhaustion\"\x7d:\n" ++
        "            time.sleep(float(params.get(" ++
        "\"delay_seconds\", 0.5)))\n"
      replace :=
      "        # Fixed: remove injected slow dependency delay\n" }]

/-- `generate_deterministic_patch`. -/
def generateDeterministicPatch (rootCauseSummary : String) : String :=
  tools.dumpsIndented
    (.object
      [("type", .string "simple_replace"),
        ("reason", .string rootCauseSummary),
        ("edits",
          .array
            (deterministicEdits.map fun edit =>
              .object
                [("path", .string edit.path),
                  ("find", .string edit.find),
                  ("replace", .string edit.replace)]))])

/-- The patch of a new attempt. -/
def proposePatch
    (state : AgentState)
    (previousAttempts : List PatchAttempt)
    (summary : String) : WorkflowProgram String :=
  if settings.deterministic = true then
    .done (generateDeterministicPatch tools summary)
  else
    .ask (.patch state.rootCause state.evidence previousAttempts) raiseOr

/-- A new attempt is made in a workspace. -/
def attemptPatch
    (session : Session)
    (runtime : SandboxRuntime) : WorkflowProgram Session := do
  let previous := session.state.patchAttempts
  let summary :=
    (session.state.rootCause.map RootCause.statement).getD "regression"
  let attempt : PatchAttempt :=
    { attempt := previous.length + 1, summary := summary }
  let state :=
    { session.state with patchAttempts := previous ++ [attempt] }
  if settings.maxPatchAttempts < state.patchAttempts.length then
    .done
      (session.withState
        { state.handedOver with
          error := some "max patch attempts exceeded" })
  else do
    let patchDiff ← proposePatch tools settings state previous summary
    let (applied, outcome) ← runtime.applyPatch tools patchDiff
    match outcome with
    | .ok () =>
        .done
          { session with
            state :=
              { state with
                patchAttempts :=
                  previous ++
                    [{ attempt with
                        patchDiff := some patchDiff
                        status := some .applied
                        baseCommitSha := some applied.baseCommitSha }] }
            runtime := some applied }
    | .error message =>
        .done
          { session with
            state :=
              { state with
                patchAttempts :=
                  previous ++
                    [{ attempt with
                        status := some .applyFailed
                        error := some message }]
                status := .failed
                error := some ("apply patch failed: " ++ message) }
            runtime := some applied }

/-- `generate_patch_node_r`, which starts every attempt from a new copy. -/
def generatePatchNode (entering : Session) : WorkflowProgram Session := do
  let entered :=
    { entering with
      state := { entering.state with workflowState := .generatePatch }
      runtime :=
        if entering.state.patchAttempts = [] then entering.runtime
        else none }
  let (session, manager) ← ensureWorkspace tools settings false entered
  match manager with
  | none =>
      .done
        (session.withState
          { session.state with
            status := .failed
            error := some "sandbox manager missing" })
  | some runtime =>
      match session.state.patchAttempts with
      | [] => attemptPatch tools settings session runtime
      | first :: _ =>
          if first.baseCommitSha ≠ some runtime.baseCommitSha then
            .raise (.value "base changed between patch attempts")
          else
            attemptPatch tools settings session runtime

/-- `manager.run_tests_async`, or the text of its exception. -/
def SandboxRuntime.runTests
    (runtime : SandboxRuntime)
    (attempt : Option PatchAttempt) :
    WorkflowProgram (Except String TestReport) :=
  match runtime.workspace with
  | none => .done (.error "workspace not created")
  | some workspace =>
      if settings.protectedEnvironment = true ∧
          settings.sandboxEnabled = false then
        .done
          (.error "protected environment requires Docker sandbox")
      else if settings.sandboxEnabled = true ∧
          settings.sandboxNetwork ≠ "none" then
        .done (.error "sandbox network must be none")
      else
        .ask (.runTests workspace attempt) .done

/-- `SandboxResult.ok`. -/
def TestReport.passed (report : TestReport) : Bool :=
  decide (report.exitCode = 0)

/-- What the tests add to the attempt they were run for. -/
def PatchAttempt.tested
    (attempt : PatchAttempt)
    (report : TestReport)
    (baseCommitSha : String) : PatchAttempt :=
  { attempt with
    testRunId := some report.testRunId
    testOk := some report.passed
    testExitCode := some report.exitCode
    baseCommitSha := some baseCommitSha
    status :=
      some (if report.passed then .testsPassed else .testsFailed) }

/-- What the tests add to the state. -/
def AgentState.tested
    (state : AgentState)
    (report : TestReport)
    (baseCommitSha : String) : AgentState :=
  { state with
    patchAttempts :=
      state.patchAttempts.dropLast ++
        (state.patchAttempts.getLast?.map fun attempt =>
          attempt.tested report baseCommitSha).toList
    result :=
      { state.result with
        testRunId := some report.testRunId
        testStatus := some (if report.passed then .passed else .failed)
        testExitCode := some report.exitCode } }

/-- `run_tests_node_r`. -/
def runTestsNode (entering : Session) : WorkflowProgram Session := do
  let (session, manager) ←
    ensureWorkspace tools settings true
      (entering.withState
        { entering.state with workflowState := .runTests })
  match manager with
  | none =>
      .done (session.withState { session.state with status := .failed })
  | some runtime => do
      let report ←
        runtime.runTests settings session.state.patchAttempts.getLast?
      match report with
      | .error message =>
          .done
            (session.withState
              { session.state with
                status := .failed
                error := some ("run tests failed: " ++ message) })
      | .ok report =>
          .done
            { session with
              state := session.state.tested report runtime.baseCommitSha
              runtime := some { runtime with testOk := report.passed } }

/-- `reflect_node`. -/
def reflectNode (session : Session) : WorkflowProgram Session :=
  let attempts := session.state.patchAttempts
  .done
    (session.withState
      { session.state with
        workflowState := .reflect
        patchAttempts :=
          attempts.dropLast ++
            (attempts.getLast?.map fun attempt =>
              { attempt with
                reflection :=
                  some
                    ("tests failed; retry with simplified " ++
                      "patch") }).toList })

/-- `manager.export_patch_artifact` for the last attempt. -/
def exportedArtifact
    (state : AgentState)
    (runtime : SandboxRuntime)
    (patchArtifactId : Uuid) : PatchArtifactData :=
  let patchDiff :=
    (state.patchAttempts.getLast?.bind PatchAttempt.patchDiff).getD ""
  { patchArtifactId := patchArtifactId
    baseCommitSha := runtime.baseCommitSha
    patchDiff := patchDiff
    patchHash := hashPatch tools.json.sha256 patchDiff
    testRunId := state.result.testRunId
    immutable := true }

/-- The artifact is persisted, and the run waits for its approval. -/
def exportArtifact
    (session : Session)
    (runtime : SandboxRuntime) : WorkflowProgram Session := do
  let patchArtifactId ← freshId
  let artifact :=
    exportedArtifact tools session.state runtime patchArtifactId
  let persistedId ←
    (.ask (.persistArtifact artifact) raiseOr : WorkflowProgram Uuid)
  .done
    { session with
      state :=
        { session.state.stop .waitingApproval .waitForApproval with
          patchArtifact :=
            some { artifact with patchArtifactId := persistedId }
          approvalRequired := true
          result :=
            { session.state.result with
              patchArtifactId := some persistedId
              patchHash := some artifact.patchHash } }
      runtime := some runtime.destroyWorkspace }

/--
`export_artifact_node_r`.  Where the process that ran the tests is gone, they
are run again.
-/
def exportArtifactNode (entering : Session) : WorkflowProgram Session :=
  let entered :=
    entering.withState
      { entering.state with workflowState := .exportPatchArtifact }
  match entered.runtime with
  | some runtime => exportArtifact tools entered runtime
  | none => do
      let session ← runTestsNode tools settings entered
      if session.state.status ≠ .running ∨
          session.runtime.any SandboxRuntime.testOk = false then
        .done (session.withState (session.state.stop .failed .failed))
      else
        match session.runtime with
        | none =>
            .done
              (session.withState
                { session.state with status := .failed })
        | some runtime => exportArtifact tools session runtime

/-- `needs_human_node`. -/
def needsHumanNode (session : Session) : WorkflowProgram Session :=
  .done (session.withState session.state.handedOver)

end Repair

section Graph

variable (tools : WorkflowTools) (settings : WorkflowSettings)

/-- The invocations of tool handlers that a state records. -/
def AgentState.invocations (state : AgentState) : Nat :=
  (state.toolCalls.map ToolCall.attemptCount).sum

/-- The budget of a process is brought up to what the state records. -/
def Session.syncBudget (session : Session) : Session :=
  { session with
    budget :=
      { session.budget with
        toolCallCount :=
          max session.budget.toolCallCount session.state.invocations
        stepCount :=
          max session.budget.stepCount
            (session.state.result.investigationSteps.getD 0) } }

/-- `guarded`. -/
def guarded
    (node : Session → WorkflowProgram Session)
    (session : Session) : WorkflowProgram Session :=
  if session.state.status ≠ .running then
    .done session
  else do
    transact .check
    let outcome ← node session.syncBudget
    transact
      (.progress outcome.state.workflowState outcome.state.plan
        outcome.state.toolCalls.length)
    .done outcome

/-- `guarded` with `approval=True`, up to the interrupt of its node. -/
def guardedApproval (session : Session) : WorkflowProgram Session := do
  transact .check
  .done session

namespace WorkflowNode

/-- The node functions, as `builder.add_node` registers them. -/
def program (node : WorkflowNode) : Session → WorkflowProgram Session :=
  match node with
  | plan => guarded (planNode settings)
  | collectEvidence => guarded (collectEvidenceNode tools settings)
  | formHypothesis => guarded (formHypothesisNode tools settings)
  | verifyHypothesis => guarded (verifyHypothesisNode tools settings)
  | createSandbox => guarded (createSandboxNode tools settings)
  | generatePatch => guarded (generatePatchNode tools settings)
  | runTests => guarded (runTestsNode tools settings)
  | reflect => guarded reflectNode
  | exportPatchArtifact => guarded (exportArtifactNode tools settings)
  | waitForApproval => guardedApproval
  | needsHuman => guarded needsHumanNode

/-- `route_after_verify`. -/
def afterVerify (session : Session) : Option WorkflowNode :=
  if session.state.rootCause ≠ none then
    some createSandbox
  else if rejectedCount session.state.hypotheses ≠ 0 ∧
      session.budget.canStep = true ∧
      rejectedCount session.state.hypotheses < 3 then
    some collectEvidence
  else
    none

/-- `route_after_tests_r`. -/
def afterTests (session : Session) : WorkflowNode :=
  if session.runtime.any SandboxRuntime.testOk = true then
    exportPatchArtifact
  else if session.state.patchAttempts.length <
      settings.maxPatchAttempts then
    reflect
  else
    needsHuman

/-- The route after a patch was generated. -/
def afterPatch (session : Session) : WorkflowNode :=
  if session.state.status = .running ∧
      (session.state.patchAttempts.getLast?.bind PatchAttempt.status) =
        some .applied then
    runTests
  else
    needsHuman

/-- The edges of the graph: the node that follows, and `none` for its end. -/
def next (node : WorkflowNode) (session : Session) : Option WorkflowNode :=
  let whenRunning (following : Option WorkflowNode) :=
    if session.state.status = .running then following else none
  match node with
  | plan => some collectEvidence
  | collectEvidence => whenRunning (some formHypothesis)
  | formHypothesis => whenRunning (some verifyHypothesis)
  | verifyHypothesis => whenRunning (afterVerify session)
  | createSandbox => whenRunning (some generatePatch)
  | generatePatch => some (afterPatch session)
  | runTests => whenRunning (some (afterTests settings session))
  | reflect => some generatePatch
  | exportPatchArtifact => some waitForApproval
  | waitForApproval => none
  | needsHuman => none

end WorkflowNode

/-- The state a run starts from. -/
def initialState (runId : String) (incident : IncidentFields) : AgentState where
  runId := runId
  service := incident.service
  repository := incident.repository

/-- What a new process has in hand when it enters the graph. -/
def WorkflowSettings.enter
    (settings : WorkflowSettings)
    (state : AgentState) : Session where
  state := state
  budget :=
    { maxToolCalls := settings.maxToolCalls
      maxSteps := settings.maxInvestigationSteps }

/-- `str` of an exception that leaves the graph. -/
def GraphError.text : GraphError → String
  | .run (.lostLease message) => message
  | .run (.runtime message) => message
  | .run .integrity => "IntegrityError"
  | .structuredOutput message => message
  | .value message => message
  | .other message => message

/-- The state `_execute_graph` returns when the graph has raised. -/
def failedState
    (runId : String)
    (incident : IncidentFields)
    (error : GraphError) : AgentState :=
  { (initialState runId incident).stop .failed .failed with
    error := some ("graph execution failed: " ++ error.text) }

end Graph

end IncidentPilot
