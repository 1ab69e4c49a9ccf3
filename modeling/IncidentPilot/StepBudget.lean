import IncidentPilot.GraphOutcome
import IncidentPilot.WorkflowReplay

/-!
# The budget of investigation steps

How many steps the loops of `collect_evidence_node` take over the life of a run.
A process counts its own steps, and a process that recovers a checkpoint starts
from the count in the `result` of its state.  A rejected hypothesis replaces
that result, and with it the count.
-/

namespace IncidentPilot

/--
The steps a node has taken that leads from one session to another: its loop
counts on from the count it was entered with, once for each iteration.
-/
def nodeSteps (node : WorkflowNode) (before after : Session) : Nat :=
  match node with
  | .collectEvidence =>
      after.budget.stepCount - before.syncBudget.budget.stepCount
  | _ => 0

/-- The steps that a completed node has taken. -/
def stepsTaken (step : Machine.Step GraphPoint GraphAction) : Nat :=
  match step.action with
  | .ran node _ =>
      nodeSteps node step.before.session step.after.session
  | _ => 0

/-- The steps taken over a run. -/
def totalSteps (steps : List (Machine.Step GraphPoint GraphAction)) : Nat :=
  (steps.map stepsTaken).sum

/-- The count is in the result, unless there is nothing to count yet. -/
def AgentState.RecordsSteps (state : AgentState) : Prop :=
  state.result.investigationSteps ≠ none ∨ state.hypotheses = []

instance (state : AgentState) : Decidable state.RecordsSteps :=
  inferInstanceAs (Decidable (_ ∨ _))

/-- What is known of the count where an execution stands. -/
structure CountsSteps
    (limit taken : Nat)
    (point : GraphPoint) : Prop where
  limited : point.session.budget.maxSteps = limit
  within : taken ≤ limit
  counted : point.session.budget.stepCount ≤ taken
  recorded :
    ∀ count,
      point.session.state.result.investigationSteps = some count →
      count = taken
  known :
    point.next ≠ none →
    point.session.budget.stepCount = taken ∨
      point.session.state.result.investigationSteps = some taken ∨
      taken = 0
  fresh :
    point.next ≠ none →
    point.session.state.result.investigationSteps = none →
    point.session.state.hypotheses = [] →
    taken = 0

section Nodes

variable {tools : WorkflowTools} {settings : WorkflowSettings}
variable {limit taken : Nat} {session : Session}

/-- A node that is entered counts from the steps that were taken. -/
theorem CountsSteps.synced
    {node : WorkflowNode}
    (counts : CountsSteps limit taken ⟨some node, session⟩) :
    session.syncBudget.budget.stepCount = taken := by
  have counted := counts.counted
  have recorded := counts.recorded
  have known := counts.known nofun
  simp only [Session.syncBudget] at counted recorded known ⊢
  cases steps : session.state.result.investigationSteps with
  | none =>
      rw [steps] at known
      simp only [Option.getD_none, reduceCtorEq, false_or] at known ⊢
      omega
  | some count =>
      have same := recorded count steps
      simp only [Option.getD_some]
      omega

/-- A call of the loop takes no further step. -/
theorem observe_steps
    (collection : Collection)
    (selection : ToolSelection) :
    (observe tools settings collection selection).Always fun step =>
      (loopValue step).budget.maxSteps = collection.budget.maxSteps ∧
        (loopValue step).budget.stepCount =
          collection.budget.stepCount := by
  have called :=
    ToolGateway.call_charged tools.json readonlyRegistry
      collection.budget selection.toolName selection.arguments
  unfold observe
  refine .bind (called.mono ?_)
  rintro ⟨call, budget⟩ charged
  have same := And.intro charged.sameMaxSteps charged.sameSteps
  dsimp only
  split
  · exact same
  · refine
      .bind ((Program.Always.trivially _).mono fun evidence _ => ?_)
    split <;> exact same

/-- The loop takes no more steps than it has left. -/
theorem collectLoop_steps
    (remaining : Nat)
    (collection : Collection) :
    (collectLoop tools settings remaining collection).Always fun after =>
      after.budget.maxSteps = collection.budget.maxSteps ∧
        collection.budget.stepCount ≤ after.budget.stepCount ∧
        after.budget.stepCount ≤
          collection.budget.stepCount + remaining := by
  induction remaining generalizing collection with
  | zero =>
      exact ⟨rfl, Nat.le_refl _, Nat.le_refl _⟩
  | succ remaining inductionHypothesis =>
      have iterated :
          (collectStep tools settings
            { collection with
              budget := collection.budget.recordStep }).Always
                fun step =>
                  (loopValue step).budget.maxSteps =
                      collection.budget.maxSteps ∧
                    (loopValue step).budget.stepCount =
                      collection.budget.stepCount + 1 :=
        collectStep_always
          (fun after =>
            after.budget.maxSteps = collection.budget.maxSteps ∧
              after.budget.stepCount = collection.budget.stepCount + 1)
          ⟨rfl, rfl⟩ (fun _ => ⟨rfl, rfl⟩) (fun _ => ⟨rfl, rfl⟩)
          (observe_steps
            { collection with budget := collection.budget.recordStep })
      refine .bind (iterated.mono ?_)
      rintro step ⟨limited, counted⟩
      cases step with
      | done last =>
          simp only [loopValue] at limited counted
          exact ⟨limited, by omega, by omega⟩
      | yield next =>
          simp only [loopValue] at limited counted
          refine (inductionHypothesis next).mono ?_
          rintro after ⟨sameLimit, more, fewer⟩
          exact ⟨sameLimit.trans limited, by omega, by omega⟩

/-- The count is closed, unless nothing was collected. -/
theorem closeCollection_steps (collection : Collection) :
    (closeCollection collection).result.investigationSteps =
        some collection.budget.stepCount ∨
      (closeCollection collection).result.investigationSteps = none ∧
        (closeCollection collection).status ≠ .running := by
  unfold closeCollection
  dsimp only
  split
  · exact .inr ⟨rfl, nofun⟩
  · split <;> exact .inl rfl

/-- What collecting does to the count of steps. -/
structure Session.CollectsSteps (before after : Session) : Prop where
  limited : after.budget.maxSteps = before.budget.maxSteps
  more : before.budget.stepCount ≤ after.budget.stepCount
  within :
    after.budget.stepCount ≤
      max before.budget.stepCount before.budget.maxSteps
  recorded :
    after.state.result.investigationSteps =
        some after.budget.stepCount ∨
      after.state.result.investigationSteps = none ∧
        after.state.status ≠ .running

/-- Collecting records the steps it takes, and stays within the budget. -/
theorem collectEvidenceNode_steps (session : Session) :
    (collectEvidenceNode tools settings session).Always
      session.CollectsSteps := by
  unfold collectEvidenceNode
  refine .bind ((collectLoop_steps _ _).mono ?_)
  rintro collection ⟨limited, more, fewer⟩
  refine ⟨limited, more, ?_, closeCollection_steps collection⟩
  simp only [BudgetTracker.remainingSteps] at fewer
  dsimp only
  omega

/-- What forming a hypothesis does to the count of steps. -/
structure AgentState.FormsSteps (before after : AgentState) : Prop where
  recorded :
    after.result.investigationSteps = before.result.investigationSteps ∨
      after.result.investigationSteps = none
  proposes : after.status = .running → after.hypotheses ≠ []

/-- Forming a hypothesis keeps the count, or stops the run. -/
theorem formHypothesis_steps
    (entered : AgentState)
    (running : entered.status = .running) :
    (formHypothesis tools settings entered).Always entered.FormsSteps := by
  unfold formHypothesis
  split
  · rename_i stopped
    exact absurd running stopped
  · dsimp only
    split
    · exact ⟨.inr rfl, nofun⟩
    · split
      · unfold directDiagnosis
        refine
          .bind ((Program.Always.trivially _).mono fun conclusion _ => ?_)
        split
        · exact ⟨.inl rfl, nofun⟩
        · exact ⟨.inl rfl, nofun⟩
      · unfold proposeHypothesis
        refine
          .bind ((Program.Always.trivially _).mono fun proposal _ => ?_)
        split
        · exact ⟨.inl rfl, fun _ => by simp⟩
        · exact ⟨.inr rfl, nofun⟩

/-- What verifying does to the count of steps. -/
structure Session.VerifiesSteps (before after : Session) : Prop where
  limited : after.budget.maxSteps = before.budget.maxSteps
  counted : after.budget.stepCount = before.budget.stepCount
  recorded :
    after.state.result.investigationSteps =
        before.state.result.investigationSteps ∨
      after.state.result.investigationSteps = none
  proposed :
    after.state.status = .running → after.state.hypotheses ≠ []

/-- Judging a hypothesis keeps the count, or replaces the result. -/
theorem judgeHypothesis_steps
    (state : AgentState)
    (budget : BudgetTracker)
    (earlier : List Hypothesis)
    (hypothesis : Hypothesis) :
    (judgeHypothesis settings state budget earlier hypothesis).Always
      state.FormsSteps := by
  unfold judgeHypothesis
  refine .bind ((Program.Always.trivially _).mono fun decision _ => ?_)
  dsimp only
  split
  · unfold concludeRootCause
    refine
      .bind ((Program.Always.trivially _).mono fun conclusion _ => ?_)
    split
    · exact ⟨.inl rfl, fun _ => by simp⟩
    · exact ⟨.inl rfl, nofun⟩
  · unfold rejectHypothesis
    dsimp only
    split
    · exact ⟨.inr rfl, nofun⟩
    · exact ⟨.inr rfl, fun _ => by simp⟩

/-- Verifying with an observation keeps the count, or replaces the result. -/
theorem verifyWith_steps
    (state : AgentState)
    (budget : BudgetTracker)
    (earlier : List Hypothesis)
    (hypothesis : Hypothesis)
    (selection : ToolSelection)
    (source : ToolCall) :
    (verifyWith tools settings state budget earlier hypothesis selection
      source).Always state.FormsSteps := by
  unfold verifyWith
  split
  · exact ⟨.inl rfl, nofun⟩
  · refine .bind (freshId_always fun evidenceId => ?_)
    exact
      (judgeHypothesis_steps _ budget earlier hypothesis).mono
        fun after forms => ⟨forms.recorded, forms.proposes⟩

/-- Verifying takes no step, and keeps the count or replaces the result. -/
theorem verifyHypothesisNode_steps
    (session : Session)
    (running : session.state.status = .running) :
    (verifyHypothesisNode tools settings session).Always
      session.VerifiesSteps := by
  unfold verifyHypothesisNode
  dsimp only
  split
  · rename_i stopped
    exact absurd running stopped
  · split
    · exact ⟨rfl, rfl, .inl rfl, nofun⟩
    · unfold verifyHypothesis
      refine
        .bind ((Program.Always.trivially _).mono fun selection _ => ?_)
      have called :=
        ToolGateway.call_charged tools.json readonlyRegistry
          session.budget selection.toolName selection.arguments
      refine .bind (called.mono ?_)
      rintro ⟨source, budget⟩ charged
      refine .bind ((verifyWith_steps ..).mono ?_)
      rintro after ⟨recorded, proposes⟩
      exact
        ⟨charged.sameMaxSteps, charged.sameSteps, recorded, proposes⟩

/-- The point a node leads to, when the node took no step. -/
theorem CountsSteps.led
    {node : WorkflowNode}
    {after : Session}
    (counts : CountsSteps limit taken ⟨some node, session⟩)
    (sameLimit : after.budget.maxSteps = session.budget.maxSteps)
    (counted : after.budget.stepCount = taken)
    (recorded :
      after.state.result.investigationSteps =
          session.state.result.investigationSteps ∨
        after.state.result.investigationSteps = none)
    (fresh :
      node.next settings after ≠ none →
      after.state.hypotheses = [] →
      after.state.result.investigationSteps =
          session.state.result.investigationSteps ∧
        session.state.hypotheses = []) :
    CountsSteps limit taken (node.leadsTo settings after) where
  limited := sameLimit.trans counts.limited
  within := counts.within
  counted := Nat.le_of_eq counted
  recorded count steps := by
    rcases recorded with same | replaced
    · exact counts.recorded count (same.symm.trans steps)
    · cases replaced.symm.trans steps
  known _ := .inl counted
  fresh goesOn unrecorded unproposed := by
    obtain ⟨same, before⟩ := fresh goesOn unproposed
    exact counts.fresh nofun (same.symm.trans unrecorded) before

/-- A node that leaves the investigation alone takes no step. -/
theorem CountsSteps.untouched
    {node : WorkflowNode}
    {after : Session}
    (counts : CountsSteps limit taken ⟨some node, session⟩)
    (same : session.syncBudget.SameInvestigation after) :
    CountsSteps limit taken (node.leadsTo settings after) := by
  have recorded :
      after.state.result.investigationSteps =
        session.state.result.investigationSteps :=
    congrArg Investigation.investigationSteps same.state
  have hypotheses : after.state.hypotheses = session.state.hypotheses :=
    congrArg Investigation.hypotheses same.state
  refine counts.led ?_ ?_ (.inl recorded) ?_
  · rw [same.budget]
    rfl
  · rw [same.budget]
    exact counts.synced
  · exact fun _ unproposed => ⟨recorded, hypotheses ▸ unproposed⟩

/-- A node whose body is skipped takes no step. -/
theorem CountsSteps.skipped
    {node : WorkflowNode}
    (counts : CountsSteps limit taken ⟨some node, session⟩) :
    CountsSteps limit taken (node.leadsTo settings session) :=
  ⟨counts.limited, counts.within, counts.counted, counts.recorded,
    fun _ => counts.known nofun, fun _ => counts.fresh nofun⟩

/-- An edge that is taken only when the run goes on shows that it does. -/
theorem running_of_next
    {following : Option WorkflowNode}
    (follows :
      (if session.state.status = .running then following else none) ≠
        none) :
    session.state.status = .running := by
  by_contra stopped
  exact follows (if_neg stopped)

/-- Every node counts the steps it takes. -/
theorem node_countsSteps
    (node : WorkflowNode)
    (counts : CountsSteps limit taken ⟨some node, session⟩) :
    (node.program tools settings session).Always fun after =>
      CountsSteps limit (taken + nodeSteps node session after)
        (node.leadsTo settings after) := by
  have synced := counts.synced
  have runs
      {body : Session → WorkflowProgram Session}
      (idle : ∀ after, nodeSteps node session after = 0)
      (always :
        session.state.status = .running →
        (body session.syncBudget).Always fun after =>
          CountsSteps limit taken (node.leadsTo settings after)) :
      (guarded body session).Always fun after =>
        CountsSteps limit (taken + nodeSteps node session after)
          (node.leadsTo settings after) := by
    simp only [idle, Nat.add_zero]
    exact guarded_always (fun _ => counts.skipped) always
  have untouched
      {body : Session → WorkflowProgram Session}
      (idle : ∀ after, nodeSteps node session after = 0)
      (same :
        (body session.syncBudget).Always
          session.syncBudget.SameInvestigation) :
      (guarded body session).Always fun after =>
        CountsSteps limit (taken + nodeSteps node session after)
          (node.leadsTo settings after) :=
    runs idle fun _ => same.mono fun _ unchanged =>
      counts.untouched unchanged
  cases node with
  | plan =>
      exact
        untouched (fun _ => rfl)
          (planNode_same settings session.syncBudget)
  | collectEvidence =>
      refine guarded_always (fun stopped => ?_) fun running => ?_
      · have idle : nodeSteps .collectEvidence session session = 0 := by
          have counted := counts.counted
          simp only [nodeSteps, synced]
          dsimp only at counted
          omega
        rw [idle]
        exact counts.skipped
      · refine
          ((collectEvidenceNode_steps session.syncBudget).and
            (collectEvidenceNode_collected session.syncBudget
              running)).mono ?_
        rintro after ⟨⟨limited, more, within, recorded⟩, collected⟩
        rw [synced] at more within
        have total : taken + nodeSteps .collectEvidence session after =
            after.budget.stepCount := by
          simp only [nodeSteps, synced]
          omega
        have sameLimit : session.syncBudget.budget.maxSteps = limit :=
          counts.limited
        have bounded := counts.within
        have bounded' : after.budget.stepCount ≤ limit := by omega
        rw [total]
        refine
          ⟨limited.trans sameLimit, bounded', Nat.le_refl _, ?_,
            fun _ => .inl rfl, ?_⟩
        · intro count steps
          rcases recorded with counted | ⟨unrecorded, -⟩
          · exact Option.some.inj (steps.symm.trans counted)
          · cases unrecorded.symm.trans steps
        · intro goesOn unrecorded _
          rcases recorded with counted | ⟨-, stopped⟩
          · cases unrecorded.symm.trans counted
          · exact absurd (running_of_next goesOn) stopped
  | formHypothesis =>
      refine runs (fun _ => rfl) fun running => ?_
      unfold formHypothesisNode
      have formed : (formHypothesis tools settings _).Always _ :=
        formHypothesis_steps
          { session.syncBudget.state with
            workflowState := .formHypothesis } running
      refine .bind (formed.mono ?_)
      rintro after ⟨recorded, proposes⟩
      refine counts.led rfl synced recorded ?_
      intro goesOn unproposed
      exact absurd unproposed (proposes (running_of_next goesOn))
  | verifyHypothesis =>
      refine runs (fun _ => rfl) fun running => ?_
      refine
        (verifyHypothesisNode_steps session.syncBudget running).mono ?_
      rintro after ⟨limited, counted, recorded, proposed⟩
      refine counts.led limited (counted.trans synced) recorded ?_
      intro goesOn unproposed
      exact absurd unproposed (proposed (running_of_next goesOn))
  | createSandbox =>
      exact
        untouched (fun _ => rfl)
          (createSandboxNode_same tools settings session.syncBudget)
  | generatePatch =>
      exact
        untouched (fun _ => rfl)
          (generatePatchNode_same tools settings session.syncBudget)
  | runTests =>
      exact
        untouched (fun _ => rfl)
          (runTestsNode_same tools settings session.syncBudget)
  | reflect =>
      exact untouched (fun _ => rfl) ⟨rfl, rfl⟩
  | exportPatchArtifact =>
      exact
        untouched (fun _ => rfl)
          (exportArtifactNode_same tools settings session.syncBudget)
  | waitForApproval =>
      exact
        .bind
          ((Program.Always.trivially _).mono fun _ _ => counts.skipped)
  | needsHuman =>
      exact untouched (fun _ => rfl) ⟨rfl, rfl⟩

end Nodes

section Runs

variable {setup : GraphSetup} {limit taken : Nat}

/-- A step counts, when a lost process has left its count behind. -/
theorem step_countsSteps
    {before after : GraphPoint}
    {action : GraphAction}
    (counts : CountsSteps limit taken before)
    (sameLimit : limit = setup.settings.maxInvestigationSteps)
    (recorded : action = .lost → before.session.state.RecordsSteps)
    (step : GraphStep setup before action after) :
    CountsSteps limit (taken + stepsTaken ⟨before, action, after⟩)
      after := by
  cases step with
  | @ran node session after answered returns =>
      have always :
          (node.program setup.tools setup.settings session).AlwaysUnder
            (fun _ _ => True) fun after =>
              CountsSteps limit (taken + nodeSteps node session after)
                (node.leadsTo setup.settings after) :=
        .of_always (node_countsSteps node counts)
      exact always.returned returns fun _ _ => trivial
  | lost node session =>
      refine
        ⟨sameLimit.symm, counts.within, Nat.zero_le _, counts.recorded,
          fun _ => ?_, fun _ => counts.fresh nofun⟩
      rcases steps : session.state.result.investigationSteps with
        _ | count
      · have unrecorded := (recorded rfl).resolve_left
          (not_not.mpr steps)
        exact .inr (.inr (counts.fresh nofun steps unrecorded))
      · have same := counts.recorded count steps
        exact .inr (.inl (same ▸ steps))
  | raised node session error =>
      exact
        ⟨counts.limited, counts.within, counts.counted, nofun,
          fun ended => absurd rfl ended, fun ended => absurd rfl ended⟩

/-- A run counts its steps, when lost processes have left their counts. -/
theorem run_countsSteps
    {steps : List (Machine.Step GraphPoint GraphAction)}
    {final : GraphPoint}
    (run : (graph setup).Run setup.start steps final)
    (recorded :
      ∀ step ∈ steps,
        step.action = .lost → step.before.session.state.RecordsSteps) :
    CountsSteps setup.settings.maxInvestigationSteps (totalSteps steps)
      final := by
  generalize begins : setup.start = start at run
  induction run with
  | nil =>
      subst begins
      exact
        ⟨rfl, Nat.zero_le _, Nat.le_refl 0, nofun,
          fun _ => .inl rfl, fun _ _ _ => rfl⟩
  | @snoc middle final steps action earlier last inductionHypothesis =>
      have counts :=
        inductionHypothesis
          (fun step member =>
            recorded step (List.mem_append_left _ member))
      have total :
          totalSteps (steps ++ [⟨middle, action, final⟩]) =
            totalSteps steps + stepsTaken ⟨middle, action, final⟩ := by
        simp [totalSteps]
      rw [total]
      exact
        step_countsSteps counts rfl
          (recorded ⟨middle, action, final⟩ (by simp)) last

/--
The steps of a run stay within the budget, as long as every process that is lost
leaves a checkpoint that still has their count.
-/
theorem step_budget_when_recorded
    (setup : GraphSetup)
    {steps : List (Machine.Step GraphPoint GraphAction)}
    {final : GraphPoint}
    (run : (graph setup).Run setup.start steps final)
    (recorded :
      ∀ step ∈ steps,
        step.action = .lost → step.before.session.state.RecordsSteps) :
    totalSteps steps ≤ setup.settings.maxInvestigationSteps :=
  (run_countsSteps run recorded).within

/-- A deployment in which an investigation may take four steps. -/
def fourSteps : GraphSetup where
  tools := appSetup.tools
  settings := { appSetup.settings with maxInvestigationSteps := 4 }
  runId := "RUN-1"
  incident := appSetup.incident

/-- A model whose hypothesis is rejected, and that then looks further. -/
def rejectedAnswers : Answers
  | .nextAction evidence =>
      match evidence.length with
      | 3 =>
          .ok
            { action := .collectEvidence
              toolSelection :=
                some ⟨"inspect_git_history", "commits", .object []⟩ }
      | _ => appAnswers (.nextAction evidence)
  | .verify _ _ => .ok ⟨false, "unrelated"⟩
  | request => appAnswers request

/-- A run whose process is lost after it has collected evidence. -/
def lostAfterCollection : List GraphMove :=
  [.node, .node, .lose, .node, .node]

/-- A process that is lost after a collection leaves its count behind. -/
theorem step_budget_kept_after_collection :
    ∃ steps final,
      (graph fourSteps).Run fourSteps.start steps final ∧
        (∃ step ∈ steps, step.action = .lost) ∧
        totalSteps steps ≤ 4 := by
  have replayed :
      (fourSteps.replay rejectedAnswers lostAfterCollection).any
        (fun replayed =>
          (replayed.steps.any fun step =>
              match step.action with
              | .lost => true
              | _ => false) &&
            replayed.steps.all fun step =>
              decide step.before.session.state.RecordsSteps) = true := by
    decide +kernel
  obtain ⟨replay, replays, checked⟩ :=
    (Option.any_eq_true _ _).mp replayed
  simp only [Bool.and_eq_true, List.any_eq_true, List.all_eq_true,
    decide_eq_true_eq] at checked
  obtain ⟨⟨step, member, loses⟩, recorded⟩ := checked
  have run := GraphSetup.run_of_replay replays
  refine ⟨_, _, run, ⟨step, member, ?_⟩, ?_⟩
  · split at loses
    · assumption
    · cases loses
  · exact
      step_budget_when_recorded fourSteps run fun step member _ =>
        recorded step member

/-- A run whose process is lost after a hypothesis was rejected. -/
def lostAfterRejection : List GraphMove :=
  [.node, .node, .node, .node, .lose, .node]

/-- A process that is lost after a rejection takes its count with it. -/
theorem step_budget_exceeded_after_rejection :
    ∃ steps final,
      (graph fourSteps).Run fourSteps.start steps final ∧
        (∀ step ∈ steps, ∀ error, step.action ≠ .raised error) ∧
        totalSteps steps = 5 ∧
        fourSteps.settings.maxInvestigationSteps = 4 := by
  have replayed :
      (fourSteps.replay rejectedAnswers lostAfterRejection).any
        (fun replayed =>
          decide (totalSteps replayed.steps = 5) &&
            replayed.steps.all fun step =>
              match step.action with
              | .raised _ => false
              | _ => true) = true := by
    decide +kernel
  obtain ⟨replay, replays, checked⟩ :=
    (Option.any_eq_true _ _).mp replayed
  simp only [Bool.and_eq_true, decide_eq_true_eq, List.all_eq_true]
    at checked
  refine
    ⟨replay.steps, replay.point, GraphSetup.run_of_replay replays, ?_,
      checked.1, rfl⟩
  intro step member error raised
  have fine := checked.2 step member
  rw [raised] at fine
  cases fine

end Runs

end IncidentPilot
