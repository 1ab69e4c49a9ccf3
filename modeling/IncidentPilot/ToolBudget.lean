import IncidentPilot.Investigation
import IncidentPilot.WorkflowReplay

/-!
# The tool-call budget

How many invocations of tool handlers a run records, whatever is retried, and
however often a process is lost and another one counts anew from a checkpoint.
-/

namespace IncidentPilot

/-- The invocations that some calls record. -/
def invocationsOf (calls : List ToolCall) : Nat :=
  (calls.map ToolCall.attemptCount).sum

@[simp] theorem invocationsOf_append
    (calls : List ToolCall)
    (call : ToolCall) :
    invocationsOf (calls ++ [call]) =
      invocationsOf calls + call.attemptCount := by
  simp [invocationsOf]

/-- A budget has counted exactly some calls, and they are within its limit. -/
structure BudgetTracker.Counts
    (limit : Nat)
    (budget : BudgetTracker)
    (calls : List ToolCall) : Prop where
  limited : budget.maxToolCalls = limit
  counted : budget.toolCallCount = invocationsOf calls
  within : invocationsOf calls ≤ limit

/-- A call is counted with the others. -/
theorem BudgetTracker.Counts.called
    {limit : Nat}
    {before after : BudgetTracker}
    {calls : List ToolCall}
    {call : ToolCall}
    (counts : before.Counts limit calls)
    (charged : before.Charged after call.attemptCount) :
    after.Counts limit (calls ++ [call]) := by
  obtain ⟨limited, counted, within⟩ := counts
  have total : after.toolCallCount = invocationsOf (calls ++ [call]) := by
    rw [charged.counted, counted, invocationsOf_append]
  refine ⟨charged.sameLimit.trans limited, total, ?_⟩
  have bounded := charged.within (by omega)
  have sameLimit := charged.sameLimit
  omega

/-- The budget of a session has counted exactly the calls of its state. -/
abbrev Session.Counts (limit : Nat) (session : Session) : Prop :=
  session.budget.Counts limit session.state.toolCalls

/-- The budget of a session has counted no more than the calls of its state. -/
structure Session.CountsAtMost
    (limit : Nat)
    (session : Session) : Prop where
  limited : session.budget.maxToolCalls = limit
  counted :
    session.budget.toolCallCount ≤ invocationsOf session.state.toolCalls
  within : invocationsOf session.state.toolCalls ≤ limit

/-- What is counted exactly is counted at most. -/
theorem BudgetTracker.Counts.atMost
    {limit : Nat}
    {session : Session}
    (counts : session.Counts limit) :
    session.CountsAtMost limit :=
  ⟨counts.limited, Nat.le_of_eq counts.counted, counts.within⟩

/-- Entering a node counts what the budget has missed. -/
theorem Session.CountsAtMost.synced
    {limit : Nat}
    {session : Session}
    (counts : session.CountsAtMost limit) :
    session.syncBudget.Counts limit where
  limited := counts.limited
  counted := Nat.max_eq_right counts.counted
  within := counts.within

/-- A session whose investigation is left alone counts what it counted. -/
theorem Session.SameInvestigation.counts
    {limit : Nat}
    {before after : Session}
    (same : before.SameInvestigation after)
    (counts : before.Counts limit) :
    after.Counts limit := by
  have toolCalls : after.state.toolCalls = before.state.toolCalls :=
    congrArg Investigation.toolCalls same.state
  unfold Session.Counts
  rw [same.budget, toolCalls]
  exact counts

section Nodes

variable {tools : WorkflowTools} {settings : WorkflowSettings}
variable {limit : Nat}

/-- The budget of a collection has counted exactly its calls. -/
abbrev Collection.Counts (limit : Nat) (collection : Collection) : Prop :=
  collection.budget.Counts limit collection.toolCalls

/-- A call of the loop is counted. -/
theorem observe_counts
    {collection : Collection}
    (selection : ToolSelection)
    (counts : collection.Counts limit) :
    (observe tools settings collection selection).Always fun step =>
      (loopValue step).Counts limit := by
  have called :=
    ToolGateway.call_charged tools.json readonlyRegistry
      collection.budget selection.toolName selection.arguments
  unfold observe
  refine .bind (called.mono ?_)
  rintro ⟨call, budget⟩ charged
  have counted := counts.called charged
  dsimp only
  split
  · exact counted
  · refine
      .bind ((Program.Always.trivially _).mono fun evidence _ => ?_)
    split <;> exact counted

/-- The loop counts its calls, however often it goes round. -/
theorem collectLoop_counts
    (remaining : Nat)
    {collection : Collection}
    (counts : collection.Counts limit) :
    (collectLoop tools settings remaining collection).Always
      (Collection.Counts limit) := by
  refine collectLoop_always ?_ ?_ remaining counts
  · rintro _ ⟨limited, counted, within⟩
    exact ⟨limited, counted, within⟩
  · intro collection counted
    exact
      collectStep_always _ counted (fun _ => counted) (fun _ => counted)
        (fun selection => observe_counts selection counted)

/-- Collecting counts its calls. -/
theorem collectEvidenceNode_counts
    {session : Session}
    (counts : session.Counts limit) :
    (collectEvidenceNode tools settings session).Always
      (Session.Counts limit) := by
  unfold collectEvidenceNode
  refine
    .bind
      ((collectLoop_counts _
        (counts : Collection.Counts limit _)).mono ?_)
  intro collection counted
  have toolCalls :
      (closeCollection collection).toolCalls = collection.toolCalls :=
    congrArg Investigation.toolCalls
      (closeCollection_investigation collection)
  change
    collection.budget.Counts limit (closeCollection collection).toolCalls
  rw [toolCalls]
  exact counted

/-- Forming a hypothesis makes no calls. -/
theorem formHypothesis_toolCalls (entered : AgentState) :
    (formHypothesis tools settings entered).Always fun after =>
      after.toolCalls = entered.toolCalls := by
  unfold formHypothesis
  split
  · exact rfl
  · dsimp only
    split
    · exact rfl
    · split
      · unfold directDiagnosis
        refine
          .bind ((Program.Always.trivially _).mono fun conclusion _ => ?_)
        split <;> exact rfl
      · unfold proposeHypothesis
        refine
          .bind ((Program.Always.trivially _).mono fun proposal _ => ?_)
        split <;> exact rfl

/-- Forming a hypothesis leaves the budget and the calls alone. -/
theorem formHypothesisNode_counts
    {session : Session}
    (counts : session.Counts limit) :
    (formHypothesisNode tools settings session).Always
      (Session.Counts limit) := by
  unfold formHypothesisNode
  refine .bind ((formHypothesis_toolCalls _).mono ?_)
  intro after toolCalls
  change session.budget.Counts limit after.toolCalls
  rw [toolCalls]
  exact counts

/-- Judging a hypothesis makes no calls. -/
theorem judgeHypothesis_toolCalls
    (state : AgentState)
    (budget : BudgetTracker)
    (earlier : List Hypothesis)
    (hypothesis : Hypothesis) :
    (judgeHypothesis settings state budget earlier hypothesis).Always
      fun after => after.toolCalls = state.toolCalls := by
  unfold judgeHypothesis
  refine .bind ((Program.Always.trivially _).mono fun decision _ => ?_)
  dsimp only
  split
  · unfold concludeRootCause
    refine
      .bind ((Program.Always.trivially _).mono fun conclusion _ => ?_)
    split <;> exact rfl
  · unfold rejectHypothesis
    dsimp only
    split <;> exact rfl

/-- Verifying with an observation makes no further calls. -/
theorem verifyWith_toolCalls
    (state : AgentState)
    (budget : BudgetTracker)
    (earlier : List Hypothesis)
    (hypothesis : Hypothesis)
    (selection : ToolSelection)
    (source : ToolCall) :
    (verifyWith tools settings state budget earlier hypothesis selection
      source).Always fun after => after.toolCalls = state.toolCalls := by
  unfold verifyWith
  split
  · exact rfl
  · refine .bind (freshId_always fun evidenceId => ?_)
    exact judgeHypothesis_toolCalls _ budget earlier hypothesis

/-- Verifying counts its call. -/
theorem verifyHypothesisNode_counts
    {session : Session}
    (counts : session.Counts limit) :
    (verifyHypothesisNode tools settings session).Always
      (Session.Counts limit) := by
  unfold verifyHypothesisNode
  dsimp only
  split
  · exact counts
  · split
    · exact counts
    · unfold verifyHypothesis
      refine
        .bind ((Program.Always.trivially _).mono fun selection _ => ?_)
      have called :=
        ToolGateway.call_charged tools.json readonlyRegistry
          session.budget selection.toolName selection.arguments
      refine .bind (called.mono ?_)
      rintro ⟨source, budget⟩ charged
      refine .bind ((verifyWith_toolCalls ..).mono ?_)
      intro after toolCalls
      change budget.Counts limit after.toolCalls
      rw [toolCalls]
      exact counts.called charged

/-- Every node counts its calls, whatever it is answered. -/
theorem node_counts
    (node : WorkflowNode)
    {session : Session}
    (counts : session.CountsAtMost limit) :
    (node.program tools settings session).Always
      (Session.CountsAtMost limit) := by
  have synced := counts.synced
  have runs
      {body : Session → WorkflowProgram Session}
      (counted :
        (body session.syncBudget).Always (Session.Counts limit)) :
      (guarded body session).Always (Session.CountsAtMost limit) :=
    guarded_always (fun _ => counts) fun _ =>
      counted.mono fun _ => BudgetTracker.Counts.atMost
  have untouched
      {body : Session → WorkflowProgram Session}
      (same :
        (body session.syncBudget).Always
          session.syncBudget.SameInvestigation) :
      (guarded body session).Always (Session.CountsAtMost limit) :=
    runs (same.mono fun _ unchanged => unchanged.counts synced)
  cases node with
  | plan =>
      exact untouched (planNode_same settings session.syncBudget)
  | collectEvidence =>
      exact runs (collectEvidenceNode_counts synced)
  | formHypothesis =>
      exact runs (formHypothesisNode_counts synced)
  | verifyHypothesis =>
      exact runs (verifyHypothesisNode_counts synced)
  | createSandbox =>
      exact
        untouched
          (createSandboxNode_same tools settings session.syncBudget)
  | generatePatch =>
      exact
        untouched
          (generatePatchNode_same tools settings session.syncBudget)
  | runTests =>
      exact
        untouched (runTestsNode_same tools settings session.syncBudget)
  | reflect =>
      exact untouched ⟨rfl, rfl⟩
  | exportPatchArtifact =>
      exact
        untouched
          (exportArtifactNode_same tools settings session.syncBudget)
  | waitForApproval =>
      exact .bind ((Program.Always.trivially _).mono fun _ _ => counts)
  | needsHuman =>
      exact untouched ⟨rfl, rfl⟩

end Nodes

/-- The invariant of the tool-call budget. -/
def toolBudget (limit : Nat) : WorkflowInvariant where
  tables _ := True
  checkpoint _ checkpoint :=
    invocationsOf checkpoint.state.toolCalls ≤ limit
  process _ _ session := session.CountsAtMost limit
  persisted _ final := invocationsOf final.toolCalls ≤ limit

/-- Everything that can happen keeps the tool-call budget. -/
theorem toolBudget_inductive (setup : WorkflowSetup) :
    (toolBudget setup.settings.maxToolCalls).Inductive setup where
  initial _ _ := trivial
  pushed _ _ _ := trivial
  stableCheckpoint _ := id
  stableProcess _ := id
  stablePersisted _ := id
  foreign _ _ _ := trivial
  drifted _ _ _ := trivial
  resumed _ within _ := within
  begins _ := ⟨Nat.zero_le _, ⟨rfl, Nat.le_refl 0, Nat.zero_le _⟩⟩
  recovers within := ⟨rfl, Nat.zero_le _, within⟩
  node _ _ _ counts :=
    WorkflowInvariant.leads_of_always (node_counts _ counts)
      (fun _ _ _ _ _ _ => trivial)
      (fun _ _ _ counted => ⟨counted.within, fun _ _ => counted⟩)
  failed _ _ := Nat.zero_le _
  persists _ _ _ _ within _ := ⟨trivial, within⟩
  finishes _ _ _ _ _ _ := trivial

/--
No state of a run records more invocations of tool handlers than the budget
allows, and at every node entry the budget has counted exactly those of the
state, whichever processes were lost before.
-/
theorem tool_call_budget
    (setup : WorkflowSetup)
    {runs : WorkflowRuns}
    (reached : (workflow setup).Reachable runs) :
    (∀ state,
        runs.Holds state →
        state.invocations ≤ setup.settings.maxToolCalls) ∧
      ∀ execution attempt node session,
        runs.executions execution = .between attempt node session →
        session.syncBudget.budget.toolCallCount =
          session.syncBudget.state.invocations := by
  constructor
  · intro state held
    obtain ⟨next, within⟩ :=
      (toolBudget_inductive setup).held
        (fun _ _ within => ⟨none, within⟩) reached held
    exact within
  · intro execution attempt node session stands
    have point := (toolBudget_inductive setup).reachable reached
    have stood := point.2 execution
    rw [stands] at stood
    exact (Session.CountsAtMost.synced stood.2).counted

/-- A run that has found its root cause has recorded three invocations. -/
theorem tool_call_budget_reached :
    ∃ runs execution attempt node session,
      (workflow appSetup).Reachable runs ∧
        runs.executions execution = .between attempt node session ∧
        session.state.invocations = 3 ∧
        session.state.invocations ≤ appSetup.settings.maxToolCalls ∧
        session.syncBudget.budget.toolCallCount = 3 := by
  have replayed :
      ((appSetup.replay appAnswers 35
          ((WorkflowRuns.admitted "pk" "RUN-1" "INC-1" 0).world,
            .marking ⟨none, false⟩)).bind
          fun place => place.2.session).any
        (fun session =>
          decide (session.state.invocations = 3)) = true := by
    decide +kernel
  obtain ⟨session, replays, counts⟩ :=
    (Option.any_eq_true _ _).mp replayed
  have three := of_decide_eq_true counts
  obtain ⟨runs, attempt, node, reached, stands⟩ :=
    WorkflowRuns.session_of_first 35 rfl appAnswers_clean replays
  obtain ⟨within, counted⟩ := tool_call_budget appSetup reached
  exact
    ⟨runs, 0, attempt, node, session, reached, stands, three,
      within session.state (.between stands),
      (counted 0 attempt node session stands).trans three⟩

end IncidentPilot
