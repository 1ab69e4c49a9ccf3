import IncidentPilot.Library.Answers
import IncidentPilot.Redaction
import IncidentPilot.WorkflowGraph

/-!
# Structured output

`complete_structured` asks a model up to three times for an answer of a schema,
each time after the first with the last answer and why it was rejected.  No node
of the graph catches the exception of a model that exhausts this: it leaves the
node as it was raised.
-/

namespace IncidentPilot

/-- `LLMMessage`. -/
structure LLMMessage where
  role : String
  content : String
  deriving Repr, DecidableEq

/-- `text.strip()`. -/
def strip (text : String) : String :=
  String.ofList
    (((text.toList.dropWhile isSpace).reverse.dropWhile isSpace).reverse)

/-- The three characters that open and close a block of code. -/
def fence3 : List Char :=
  List.replicate 3 (Char.ofNat 96)

/-- `text.split("\n", 1)[-1]`. -/
def afterFirstLine (text : List Char) : List Char :=
  match text.dropWhile (· ≠ '\n') with
  | [] => text
  | _ :: rest => rest

/-- The text before the last occurrence of a pattern, when there is one. -/
def beforeLast? (pattern : List Char) : List Char → Option (List Char)
  | [] => if pattern = [] then some [] else none
  | char :: rest =>
      match beforeLast? pattern rest with
      | some before => some (char :: before)
      | none => if pattern.isPrefixOf (char :: rest) then some [] else none

/-- The content of a response, out of its block of code if it is in one. -/
def unfenced (response : String) : String :=
  let content := strip response
  if fence3.isPrefixOf content.toList then
    let body := afterFirstLine content.toList
    String.ofList ((beforeLast? fence3 body).getD body)
  else
    content

/-- `_repair_message`. -/
def repairMessage (content error : String) : LLMMessage where
  role := "user"
  content :=
    "The previous output was invalid. Return only schema-valid JSON.\n" ++
      "Validation error: " ++ String.ofList (error.toList.take 600) ++
      "\nPrevious output: " ++ String.ofList (content.toList.take 2000)

/-- A model behind a provider: what a call with some messages is answered. -/
abbrev Completion := Nat → List LLMMessage → Except GraphError String

section

variable {Value : Type}
variable (complete : Completion)
variable (validate : String → Except String Value)
variable (messages : List LLMMessage)

/-- The loop of `complete_structured`, with the attempts that are left. -/
def repairLoop :
    Nat → Nat → List LLMMessage → Except GraphError Value
  | 0, _, _ =>
      .error
        (.structuredOutput "structured output invalid after 3 attempts")
  | remaining + 1, call, repairMessages => do
      let response ← complete call repairMessages
      let content := unfenced response
      match validate content with
      | .ok value => .ok value
      | .error error =>
          repairLoop remaining (call + 1)
            (messages ++ [repairMessage content error])

/-- `complete_structured`. -/
def completeStructured : Except GraphError Value :=
  repairLoop complete validate messages 3 0 messages

/-- Every answer the loop still gets is rejected by the schema. -/
def StaysInvalid : Nat → Nat → List LLMMessage → Prop
  | 0, _, _ => True
  | remaining + 1, call, repairMessages =>
      ∃ response error,
        complete call repairMessages = .ok response ∧
          validate (unfenced response) = .error error ∧
          StaysInvalid remaining (call + 1)
            (messages ++ [repairMessage (unfenced response) error])

/-- A loop whose answers are all rejected exhausts its attempts. -/
theorem repairLoop_of_staysInvalid
    {complete : Completion}
    {validate : String → Except String Value}
    {messages : List LLMMessage}
    {remaining call : Nat}
    {repairMessages : List LLMMessage}
    (invalid :
      StaysInvalid complete validate messages remaining call
        repairMessages) :
    repairLoop complete validate messages remaining call repairMessages =
      .error
        (.structuredOutput
          "structured output invalid after 3 attempts") := by
  induction remaining generalizing call repairMessages with
  | zero =>
      rfl
  | succ remaining inductionHypothesis =>
      obtain ⟨response, error, answered, rejected, rest⟩ := invalid
      simp only [repairLoop, answered, bind, Except.bind, rejected]
      exact inductionHypothesis rest

end

/-- An answer of a provider whose every attempt the schema rejects. -/
def AnswersInvalid {Value : Type} (answer : Except GraphError Value) : Prop :=
  ∃ complete validate messages,
    StaysInvalid complete validate messages 3 0 messages ∧
      answer = completeStructured complete validate messages

/-- An exhausted provider raises `StructuredOutputError`. -/
theorem AnswersInvalid.raises
    {Value : Type}
    {answer : Except GraphError Value}
    (exhausted : AnswersInvalid answer) :
    answer =
      .error
        (.structuredOutput
          "structured output invalid after 3 attempts") := by
  obtain ⟨complete, validate, messages, invalid, rfl⟩ := exhausted
  exact repairLoop_of_staysInvalid invalid

/-- The exception a request to the model is answered with. -/
def ModelFails :
    (request : WorkflowRequest) →
      WorkflowAnswer request → GraphError → Prop
  | .plan => fun answer error => answer = .error error
  | .nextAction _ => fun answer error => answer = .error error
  | .proposeHypothesis _ => fun answer error => answer = .error error
  | .directConclusion _ => fun answer error => answer = .error error
  | .verificationAction .. => fun answer error => answer = .error error
  | .verify .. => fun answer error => answer = .error error
  | .conclude .. => fun answer error => answer = .error error
  | .patch .. => fun answer error => answer = .error error
  | _ => fun _ _ => False

/-- A request to the model whose every attempt the schema rejected. -/
def ModelExhausted :
    (request : WorkflowRequest) → WorkflowAnswer request → Prop
  | .plan => fun answer => AnswersInvalid answer
  | .nextAction _ => fun answer => AnswersInvalid answer
  | .proposeHypothesis _ => fun answer => AnswersInvalid answer
  | .directConclusion _ => fun answer => AnswersInvalid answer
  | .verificationAction .. => fun answer => AnswersInvalid answer
  | .verify .. => fun answer => AnswersInvalid answer
  | .conclude .. => fun answer => AnswersInvalid answer
  | .patch .. => fun answer => AnswersInvalid answer
  | _ => fun _ => False

/-- An exhausted request fails with `StructuredOutputError`. -/
theorem ModelExhausted.fails
    {request : WorkflowRequest}
    {answer : WorkflowAnswer request}
    (exhausted : ModelExhausted request answer) :
    ModelFails request answer
      (.structuredOutput "structured output invalid after 3 attempts") := by
  cases request with
  | plan => exact AnswersInvalid.raises exhausted
  | nextAction evidence => exact AnswersInvalid.raises exhausted
  | proposeHypothesis evidence => exact AnswersInvalid.raises exhausted
  | directConclusion evidence => exact AnswersInvalid.raises exhausted
  | verificationAction evidence proposal =>
      exact AnswersInvalid.raises exhausted
  | verify proposal evidence => exact AnswersInvalid.raises exhausted
  | conclude proposal evidence => exact AnswersInvalid.raises exhausted
  | patch rootCause evidence previousAttempts =>
      exact AnswersInvalid.raises exhausted
  | _ => exact absurd exhausted id

/-- Programs that let the exceptions of the model through. -/
abbrev WorkflowProgram.Uncaught
    {Value : Type}
    (program : WorkflowProgram Value) : Prop :=
  program.Propagates ModelFails

/-- What the model is asked is returned or raised. -/
theorem uncaught_raiseOr
    {Value : Type}
    {request : WorkflowRequest}
    {answered : WorkflowAnswer request → Except GraphError Value}
    (fails :
      ∀ answer error,
        ModelFails request answer error → answered answer = .error error) :
    WorkflowProgram.Uncaught
      (.ask request fun answer => raiseOr (answered answer) :
        WorkflowProgram Value) := by
  intro answer
  constructor
  · intro error failed
    simp only [fails answer error failed]
    rfl
  · beta_reduce
    cases answered answer <;> trivial

/-- A new identifier is none of the model. -/
theorem freshId_uncaught : WorkflowProgram.Uncaught freshId :=
  .ask (fun _ _ => id) fun _ => trivial

/-- A transaction is none of the model. -/
theorem transact_uncaught (write : FencedWrite) :
    WorkflowProgram.Uncaught (transact write) :=
  uncaught_raiseOr fun _ _ impossible => absurd impossible id

section Investigation

variable (tools : WorkflowTools) (settings : WorkflowSettings)

/-- Planning lets the exceptions of the model through. -/
theorem planNode_uncaught (session : Session) :
    WorkflowProgram.Uncaught (planNode settings session) := by
  unfold planNode
  refine .bind ?_ fun plan => trivial
  unfold investigationPlan
  split
  · exact uncaught_raiseOr fun _ _ => id
  · trivial

/-- A handler is none of the model. -/
theorem invokeHandler_uncaught
    (tools : JsonTools)
    (spec : ToolSpec)
    (arguments : Json)
    (retries executed : Nat)
    (budget : BudgetTracker) :
    WorkflowProgram.Uncaught
      (invokeHandler tools spec arguments retries executed budget) := by
  induction retries generalizing executed budget with
  | zero =>
      unfold invokeHandler
      refine .ask (fun _ _ => id) fun outcome => ?_
      split
      · trivial
      · split <;> trivial
  | succ retries inductionHypothesis =>
      unfold invokeHandler
      refine .ask (fun _ _ => id) fun outcome => ?_
      split
      · trivial
      · split
        · simp only
          split
          · exact inductionHypothesis _ _
          · trivial
        · trivial

/-- A tool call is none of the model. -/
theorem call_uncaught
    (tools : JsonTools)
    (registry : ToolRegistry)
    (budget : BudgetTracker)
    (name : String)
    (payload : Json) :
    WorkflowProgram.Uncaught
      (ToolGateway.call tools registry budget name payload) := by
  unfold ToolGateway.call
  refine .bind freshId_uncaught fun toolCallId => ?_
  split
  · trivial
  · split
    · split
      · trivial
      · trivial
      · trivial
      · exact
          .bind (invokeHandler_uncaught tools _ _ _ _ _) fun _ => trivial
    · trivial

/-- An observation is none of the model. -/
theorem observe_uncaught
    (collection : Collection)
    (selection : ToolSelection) :
    WorkflowProgram.Uncaught
      (observe tools settings collection selection) := by
  unfold observe
  refine .bind (call_uncaught tools.json _ _ _ _) ?_
  rintro ⟨call, budget⟩
  dsimp only
  split
  · trivial
  · refine .bind ?_ fun evidence => ?_
    · unfold withObservation
      split
      · exact .bind freshId_uncaught fun _ => trivial
      · trivial
    · split <;> trivial

/-- An iteration lets the exceptions of the model through. -/
theorem collectStep_uncaught (collection : Collection) :
    WorkflowProgram.Uncaught
      (collectStep tools settings collection) := by
  unfold collectStep
  refine .bind ?_ fun action => ?_
  · unfold nextAction
    split
    · exact uncaught_raiseOr fun _ _ => id
    · split <;> trivial
  · split
    · trivial
    · trivial
    · trivial
    · trivial
    · trivial
    · split
      · trivial
      · exact observe_uncaught tools settings collection _

/-- The loop lets through what its iterations do. -/
theorem collectLoop_uncaught
    (remaining : Nat)
    (collection : Collection) :
    WorkflowProgram.Uncaught
      (collectLoop tools settings remaining collection) := by
  induction remaining generalizing collection with
  | zero =>
      trivial
  | succ remaining inductionHypothesis =>
      refine .bind (collectStep_uncaught tools settings _) fun step => ?_
      cases step with
      | done last => trivial
      | yield next => exact inductionHypothesis next

/-- Forming a hypothesis lets the exceptions of the model through. -/
theorem formHypothesisNode_uncaught (session : Session) :
    WorkflowProgram.Uncaught
      (formHypothesisNode tools settings session) := by
  unfold formHypothesisNode
  refine .bind ?_ fun state => trivial
  unfold formHypothesis
  split
  · trivial
  · dsimp only
    split
    · trivial
    · split
      · unfold directDiagnosis
        refine .bind (uncaught_raiseOr fun _ _ => id) fun conclusion => ?_
        split <;> trivial
      · unfold proposeHypothesis
        refine .bind (uncaught_raiseOr fun _ _ => id) fun proposal => ?_
        split <;> trivial

/-- Selecting an observation lets the exceptions of the model through. -/
theorem verificationSelection_uncaught
    (state : AgentState)
    (proposal : HypothesisProposal) :
    WorkflowProgram.Uncaught
      (verificationSelection settings state proposal) := by
  unfold verificationSelection
  split
  · trivial
  · intro answer
    constructor
    · rintro error ⟨⟩
      rfl
    · cases answer with
      | error error => trivial
      | ok action =>
          dsimp only
          split <;> trivial

/-- Judging a hypothesis lets the exceptions of the model through. -/
theorem judgeHypothesis_uncaught
    (state : AgentState)
    (budget : BudgetTracker)
    (earlier : List Hypothesis)
    (hypothesis : Hypothesis) :
    WorkflowProgram.Uncaught
      (judgeHypothesis settings state budget earlier hypothesis) := by
  unfold judgeHypothesis
  refine .bind (uncaught_raiseOr fun _ _ => id) fun decision => ?_
  dsimp only
  split
  · unfold concludeRootCause
    refine .bind (uncaught_raiseOr fun _ _ => id) fun conclusion => ?_
    split <;> trivial
  · trivial

/-- Verifying a hypothesis lets the exceptions of the model through. -/
theorem verifyHypothesisNode_uncaught (session : Session) :
    WorkflowProgram.Uncaught
      (verifyHypothesisNode tools settings session) := by
  unfold verifyHypothesisNode
  dsimp only
  split
  · trivial
  · split
    · trivial
    · unfold verifyHypothesis
      refine
        .bind (verificationSelection_uncaught settings _ _)
          fun selection => ?_
      refine .bind (call_uncaught tools.json _ _ _ _) ?_
      rintro ⟨source, budget⟩
      refine .bind ?_ fun state => trivial
      unfold verifyWith
      split
      · trivial
      · exact
          .bind freshId_uncaught fun evidenceId =>
            judgeHypothesis_uncaught settings _ _ _ _

end Investigation

section Repair

variable (tools : WorkflowTools) (settings : WorkflowSettings)

/-- Creating a sandbox is none of the model. -/
theorem createSandboxNode_uncaught (session : Session) :
    WorkflowProgram.Uncaught
      (createSandboxNode tools settings session) := by
  unfold createSandboxNode
  dsimp only
  split
  · trivial
  · refine .bind ?_ fun created => ?_
    · unfold createWorkspace
      refine .ask (fun _ _ => id) fun answer => ?_
      cases answer <;> trivial
    · cases created <;> trivial

/-- Applying a patch is none of the model. -/
theorem applyPatch_uncaught
    (runtime : SandboxRuntime)
    (patchDiff : String) :
    WorkflowProgram.Uncaught (runtime.applyPatch tools patchDiff) := by
  unfold SandboxRuntime.applyPatch
  split
  · trivial
  · refine .ask (fun _ _ => id) fun fault => ?_
    cases fault <;> trivial

/-- Ensuring a workspace is none of the model. -/
theorem ensureWorkspace_uncaught
    (replay : Bool)
    (session : Session) :
    WorkflowProgram.Uncaught
      (ensureWorkspace tools settings replay session) := by
  unfold ensureWorkspace
  split
  · trivial
  · refine
      .bind (createSandboxNode_uncaught tools settings session)
        fun created => ?_
    split
    · trivial
    · split
      · trivial
      · split
        · refine .bind ?_ fun _ => trivial
          unfold replayPatch
          split
          · split
            · trivial
            · refine .bind (applyPatch_uncaught tools _ _) ?_
              rintro ⟨applied, outcome⟩
              cases outcome <;> trivial
          · trivial
        · trivial

/-- An attempt lets the exceptions of the model through. -/
theorem attemptPatch_uncaught
    (session : Session)
    (runtime : SandboxRuntime) :
    WorkflowProgram.Uncaught
      (attemptPatch tools settings session runtime) := by
  unfold attemptPatch
  dsimp only
  split
  · trivial
  · refine .bind ?_ fun patchDiff => ?_
    · unfold proposePatch
      split
      · trivial
      · exact uncaught_raiseOr fun _ _ => id
    · refine .bind (applyPatch_uncaught tools runtime patchDiff) ?_
      rintro ⟨applied, outcome⟩
      cases outcome <;> trivial

/-- Generating a patch lets the exceptions of the model through. -/
theorem generatePatchNode_uncaught (session : Session) :
    WorkflowProgram.Uncaught
      (generatePatchNode tools settings session) := by
  unfold generatePatchNode
  refine .bind (ensureWorkspace_uncaught tools settings false _) ?_
  rintro ⟨ensured, manager⟩
  cases manager with
  | none =>
      trivial
  | some runtime =>
      dsimp only
      split
      · exact attemptPatch_uncaught tools settings ensured runtime
      · split
        · trivial
        · exact attemptPatch_uncaught tools settings ensured runtime

/-- Running the tests is none of the model. -/
theorem runTestsNode_uncaught (session : Session) :
    WorkflowProgram.Uncaught (runTestsNode tools settings session) := by
  unfold runTestsNode
  refine .bind (ensureWorkspace_uncaught tools settings true _) ?_
  rintro ⟨ensured, manager⟩
  cases manager with
  | none =>
      trivial
  | some runtime =>
      refine .bind ?_ fun report => ?_
      · unfold SandboxRuntime.runTests
        split
        · trivial
        · split
          · trivial
          · split
            · trivial
            · exact .ask (fun _ _ => id) fun _ => trivial
      · cases report <;> trivial

/-- Exporting an artifact is none of the model. -/
theorem exportArtifact_uncaught
    (session : Session)
    (runtime : SandboxRuntime) :
    WorkflowProgram.Uncaught (exportArtifact tools session runtime) := by
  unfold exportArtifact
  refine .bind freshId_uncaught fun patchArtifactId => ?_
  exact
    .bind
      (uncaught_raiseOr fun _ _ impossible => absurd impossible id)
      fun persistedId => trivial

/-- Exporting with its replay is none of the model. -/
theorem exportArtifactNode_uncaught (session : Session) :
    WorkflowProgram.Uncaught
      (exportArtifactNode tools settings session) := by
  unfold exportArtifactNode
  dsimp only
  split
  · exact exportArtifact_uncaught tools _ _
  · refine
      .bind (runTestsNode_uncaught tools settings _) fun tested => ?_
    split
    · trivial
    · split
      · trivial
      · exact exportArtifact_uncaught tools tested _

/-- The guard around a node catches nothing. -/
theorem guarded_uncaught
    {node : Session → WorkflowProgram Session}
    {session : Session}
    (uncaught : WorkflowProgram.Uncaught (node session.syncBudget)) :
    WorkflowProgram.Uncaught (guarded node session) := by
  unfold guarded
  split
  · trivial
  · refine .bind (transact_uncaught _) fun _ => ?_
    refine .bind uncaught fun outcome => ?_
    exact .bind (transact_uncaught _) fun _ => trivial

/-- No node catches an exception of the model. -/
theorem node_uncaught
    (node : WorkflowNode)
    (session : Session) :
    WorkflowProgram.Uncaught (node.program tools settings session) := by
  cases node with
  | plan =>
      exact guarded_uncaught (planNode_uncaught settings _)
  | collectEvidence =>
      exact
        guarded_uncaught
          (.bind (collectLoop_uncaught tools settings _ _) fun _ => trivial)
  | formHypothesis =>
      exact guarded_uncaught (formHypothesisNode_uncaught tools settings _)
  | verifyHypothesis =>
      exact
        guarded_uncaught (verifyHypothesisNode_uncaught tools settings _)
  | createSandbox =>
      exact guarded_uncaught (createSandboxNode_uncaught tools settings _)
  | generatePatch =>
      exact guarded_uncaught (generatePatchNode_uncaught tools settings _)
  | runTests =>
      exact guarded_uncaught (runTestsNode_uncaught tools settings _)
  | reflect =>
      exact guarded_uncaught trivial
  | exportPatchArtifact =>
      exact
        guarded_uncaught (exportArtifactNode_uncaught tools settings _)
  | waitForApproval =>
      exact .bind (transact_uncaught _) fun _ => trivial
  | needsHuman =>
      exact guarded_uncaught trivial

end Repair

end IncidentPilot
