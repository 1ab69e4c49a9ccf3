import IncidentPilot.StepBudget
import IncidentPilot.WorkflowExecution

/-!
# Executions of the graph end, and how

The runs of the graph put together from what its nodes leave: how many nodes an
execution can run, the statuses it can end with, and the workflow states that go
with them.
-/

namespace IncidentPilot

/-- The start of an execution stands. -/
theorem start_stands
    (setup : GraphSetup)
    (strict : Prop) :
    setup.start.Stands setup.settings strict :=
  ⟨rfl, Nat.zero_le _, rfl, rfl⟩

/-- A node that is executed leads to a point that stands, with less to do. -/
theorem step_follows
    {setup : GraphSetup}
    {before after : GraphPoint}
    {action : GraphAction}
    (stands : before.Stands setup.settings False)
    (executes : action.Executes)
    (step : GraphStep setup before action after) :
    after.Stands setup.settings False ∧
      after.remaining setup.settings + 1 ≤
        before.remaining setup.settings := by
  cases step with
  | ran returns =>
      have follows :=
        (node_follows _ False.elim stands).returned returns
          fun _ _ => False.elim
      exact ⟨follows.stands, follows.less⟩
  | lost => exact executes.elim
  | raised => exact executes.elim

/-- The budget of a run without losses and exceptions counts its steps. -/
theorem run_withinSteps
    {setup : GraphSetup}
    {steps : List (Machine.Step GraphPoint GraphAction)}
    {final : GraphPoint}
    (run : (graph setup).Run setup.start steps final)
    (executes : ∀ step ∈ steps, step.action.Executes) :
    final.session.budget.stepCount ≤
      setup.settings.maxInvestigationSteps := by
  have counts :=
    run_countsSteps run fun step member loses => by
      have executed := executes step member
      rw [loses] at executed
      exact executed.elim
  exact Nat.le_trans counts.counted counts.within

/--
An execution of the graph without exceptions and losses runs a bounded number of
nodes, its loop takes a bounded number of steps, and where it ends it is
stopped.
-/
theorem graph_always_stops
    (setup : GraphSetup)
    {steps : List (Machine.Step GraphPoint GraphAction)}
    {final : GraphPoint}
    (run : (graph setup).Run setup.start steps final)
    (executes : ∀ step ∈ steps, step.action.Executes) :
    steps.length ≤ 12 + 3 * max 1 setup.settings.maxPatchAttempts ∧
      (setup.settings.maxPatchAttempts ≤ 12 → steps.length < 50) ∧
      final.session.budget.stepCount ≤
        setup.settings.maxInvestigationSteps ∧
      (final.next = none →
        final.session.state.status ∈
          [.insufficientEvidence, .needsHumanIntervention, .failed,
            .investigationComplete, .waitingApproval]) := by
  obtain ⟨stands, bounded⟩ :=
    run.measured step_follows (start_stands setup False) executes
  have limit : steps.length ≤
      12 + 3 * max 1 setup.settings.maxPatchAttempts :=
    Nat.le_trans (Nat.le_add_right _ _) bounded
  refine ⟨limit, ?_, run_withinSteps run executes, ?_⟩
  · intro few
    omega
  · intro ended
    simp only [GraphPoint.Stands, ended] at stands
    exact stands.stopped

/-- The deployment whose repair succeeds. -/
def appGraph : GraphSetup where
  tools := appSetup.tools
  settings := appSetup.settings
  runId := "RUN-1"
  incident := appSetup.incident

/-- An execution that ends with an artifact for approval after nine nodes. -/
theorem graph_always_stops_waiting :
    ∃ steps final,
      (graph appGraph).Run appGraph.start steps final ∧
        steps.length = 9 ∧
        steps.length ≤ 12 + 3 * max 1 appGraph.settings.maxPatchAttempts ∧
        final.next = none ∧
        final.session.state.status ∈
          [.insufficientEvidence, .needsHumanIntervention, .failed,
            .investigationComplete, .waitingApproval] := by
  have replayed :
      (appGraph.replay appAnswers (List.replicate 9 .node)).any
        (fun replayed =>
          decide (replayed.steps.length = 9) &&
            decide (replayed.point.next = none) &&
            replayed.steps.all fun step =>
              decide step.action.Executes) = true := by
    decide +kernel
  obtain ⟨replay, replays, checked⟩ :=
    (Option.any_eq_true _ _).mp replayed
  simp only [Bool.and_eq_true, List.all_eq_true, decide_eq_true_eq]
    at checked
  obtain ⟨⟨nine, ended⟩, executes⟩ := checked
  have run := GraphSetup.run_of_replay replays
  obtain ⟨bounded, -, -, stopped⟩ :=
    graph_always_stops appGraph run executes
  exact ⟨_, _, run, nine, bounded, ended, stopped ended⟩

/--
A step in which nothing fails outside of the graph: the source can be copied for
an attempt, its patch applies, and the tests can be executed and come to a
result.
-/
def GraphAction.Smooth (setup : GraphSetup) : GraphAction → Prop
  | .ran node answered =>
      (∀ exchange ∈ answered,
          IncidentPilot.Smooth setup.tools setup.settings node
            exchange.1 exchange.2) ∧
        (node = .runTests → setup.settings.TestsExecutable)
  | .lost => True
  | .raised _ => True

/-- A smooth step leads to a point that stands, consistently. -/
theorem step_stands
    {setup : GraphSetup}
    {before after : GraphPoint}
    {action : GraphAction}
    (stands : before.Stands setup.settings True)
    (smooth : action.Smooth setup)
    (step : GraphStep setup before action after) :
    after.Stands setup.settings True := by
  cases step with
  | ran returns =>
      exact
        ((node_follows _ (fun _ => smooth.2) stands).returned returns
          fun exchange member _ => smooth.1 exchange member).stands
  | lost node session =>
      have repairs
          (repairing : session.Repairing) :
          (setup.settings.enter session.state).Repairing :=
        ⟨repairing.running, repairing.concluded, nofun⟩
      cases node with
      | generatePatch => exact ⟨repairs stands.1, stands.2⟩
      | runTests => exact repairs stands
      | reflect => exact ⟨repairs stands.1, stands.2⟩
      | exportPatchArtifact => exact repairs stands
      | _ => exact stands
  | raised node session error =>
      have consistent :
          (failedState setup.runId setup.incident error).Consistent :=
        .failed rfl rfl
      exact consistent.stopsWell

/-- A human who is handed a run has it, where nothing failed before. -/
theorem needsHuman_ends
    {setup : GraphSetup}
    {before after : GraphPoint}
    {action : GraphAction}
    (stands : before.Stands setup.settings True)
    (routed : before.next = some .needsHuman)
    (executes : action.Executes)
    (step : GraphStep setup before action after) :
    after.next = none ∧
      after.session.state.status = .needsHumanIntervention := by
  cases step with
  | @ran node session after answered returns =>
      cases routed
      have handed :
          (WorkflowNode.needsHuman.program setup.tools setup.settings
            session).Always fun after =>
              after.state.status = .needsHumanIntervention := by
        refine guarded_always ?_ fun _ => rfl
        intro stopped
        rcases stands with running | ⟨-, status⟩
        · exact absurd running stopped
        · exact status trivial
      have always :
          (WorkflowNode.needsHuman.program setup.tools setup.settings
            session).AlwaysUnder (fun _ _ => True) _ :=
        .of_always handed
      exact ⟨rfl, always.returned returns fun _ _ => trivial⟩
  | lost => exact executes.elim
  | raised => exact executes.elim

/--
Where nothing fails outside of the graph, the status and the workflow state it
ends with go together, and a run that is routed to a human ends with one.
-/
theorem outcome_consistent_when_smooth
    (setup : GraphSetup)
    {steps : List (Machine.Step GraphPoint GraphAction)}
    {final : GraphPoint}
    (run : (graph setup).Run setup.start steps final)
    (smooth : ∀ step ∈ steps, step.action.Smooth setup) :
    (final.next = none →
        ∀ utcnow,
          let change := finalChange final.session.state utcnow
          (change.status, change.workflowState) ∈
            [(.insufficientEvidence, some .insufficientEvidence),
              (.needsHumanIntervention, some .needsHumanIntervention),
              (.failed, some .failed),
              (.investigationComplete, some .rootCauseFound),
              (.waitingApproval, some .waitForApproval)]) ∧
      ∀ step ∈ steps,
        step.before.next = some .needsHuman →
        step.action.Executes →
        step.after.next = none ∧
          step.after.session.state.status = .needsHumanIntervention := by
  have begins := start_stands setup True
  have preserved :
      ∀ {before action after},
        before.Stands setup.settings True →
        (fun _ action => GraphAction.Smooth setup action)
          before action →
        (graph setup).step before action after →
        after.Stands setup.settings True :=
    step_stands
  obtain ⟨stands, reached⟩ := run.guarded preserved begins smooth
  constructor
  · intro ended utcnow
    simp only [GraphPoint.Stands, ended] at stands
    have consistent := stands.consistent trivial
    simpa [AgentState.Consistent, finalChange] using consistent
  · intro step member routed executes
    exact
      needsHuman_ends (run.before_holds begins reached member) routed
        executes (run.step_mem member)

/-- Whether nothing fails outside of the graph can be read off its answer. -/
instance smoothDecidable
    (tools : WorkflowTools)
    (settings : WorkflowSettings)
    (node : WorkflowNode) :
    (request : WorkflowRequest) →
      (answer : WorkflowAnswer request) →
      Decidable (Smooth tools settings node request answer)
  | .readSource, .ok checkout =>
      decidable_of_iff
        (node = .generatePatch →
          (checkSource settings checkout).isOk = true) (by
        refine imp_congr_right fun _ => ?_
        constructor
        · intro sound
          cases checked : checkSource settings checkout with
          | error message =>
              rw [checked] at sound
              cases sound
          | ok => exact ⟨checkout, rfl, checked⟩
        · rintro ⟨_, ⟨⟩, checked⟩
          rw [checked]
          rfl)
  | .readSource, .error message =>
      decidable_of_iff (node ≠ .generatePatch) (by
        refine forall_congr' fun _ => ?_
        constructor
        · exact False.elim
        · rintro ⟨_, ⟨⟩, -⟩)
  | .patchFault files patchDiff, answer =>
      decidable_of_iff
        (node = .generatePatch →
          answer.isNone = true ∧
            (applyPatch tools.patch files patchDiff).2.isOk = true) (by
        refine imp_congr_right fun _ => ?_
        cases (applyPatch tools.patch files patchDiff).2 <;>
          simp [Except.isOk, Except.toBool])
  | .runTests workspace attempt, .ok report =>
      .isTrue fun _ => ⟨report, rfl⟩
  | .runTests workspace attempt, .error message =>
      decidable_of_iff (node ≠ .runTests) (by
        refine forall_congr' fun _ => ?_
        constructor
        · exact False.elim
        · rintro ⟨_, ⟨⟩⟩)
  | .plan, _ => .isTrue trivial
  | .nextAction _, _ => .isTrue trivial
  | .proposeHypothesis _, _ => .isTrue trivial
  | .directConclusion _, _ => .isTrue trivial
  | .verificationAction _ _, _ => .isTrue trivial
  | .verify _ _, _ => .isTrue trivial
  | .conclude _ _, _ => .isTrue trivial
  | .patch _ _ _, _ => .isTrue trivial
  | .invokeTool _ _, _ => .isTrue trivial
  | .freshId, _ => .isTrue trivial
  | .transact _, _ => .isTrue trivial
  | .persistArtifact _, _ => .isTrue trivial

/-- Whether a step is smooth can be read off what it was answered. -/
instance smoothStepDecidable
    (setup : GraphSetup) :
    (action : GraphAction) → Decidable (action.Smooth setup)
  | .ran node answered =>
      inferInstanceAs
        (Decidable
          ((∀ exchange ∈ answered,
              IncidentPilot.Smooth setup.tools setup.settings node
                exchange.1 exchange.2) ∧
            (node = .runTests →
              (setup.settings.protectedEnvironment = true →
                  setup.settings.sandboxEnabled = true) ∧
                (setup.settings.sandboxEnabled = true →
                  setup.settings.sandboxNetwork = "none"))))
  | .lost => .isTrue trivial
  | .raised _ => .isTrue trivial

/-- The deployment with one attempt. -/
def oneAttemptGraph : GraphSetup :=
  { appGraph with
    settings := { appGraph.settings with maxPatchAttempts := 1 } }

/-- The answers with which the tests fail. -/
def failingTestsAnswers : Answers
  | .runTests _ _ => .ok ⟨1, 1⟩
  | request => appAnswers request

/-- A run whose only attempt fails its tests is handed to a human. -/
theorem outcome_consistent_after_failing_tests :
    ∃ steps final,
      (graph oneAttemptGraph).Run oneAttemptGraph.start steps final ∧
        (∀ step ∈ steps, step.action.Smooth oneAttemptGraph) ∧
        final.next = none ∧
        (finalChange final.session.state 0).status =
          .needsHumanIntervention ∧
        ∀ step ∈ steps,
          step.before.next = some .needsHuman →
          step.action.Executes →
          step.after.session.state.status = .needsHumanIntervention := by
  have replayed :
      (oneAttemptGraph.replay failingTestsAnswers
        (List.replicate 8 .node)).any
        (fun replayed =>
          decide (replayed.point.next = none) &&
            decide
              (replayed.point.session.state.status =
                .needsHumanIntervention) &&
            replayed.steps.all fun step =>
              decide (step.action.Smooth oneAttemptGraph)) = true := by
    decide +kernel
  obtain ⟨replay, replays, checked⟩ :=
    (Option.any_eq_true _ _).mp replayed
  simp only [Bool.and_eq_true, List.all_eq_true, decide_eq_true_eq]
    at checked
  obtain ⟨⟨ended, handed⟩, smooth⟩ := checked
  have run := GraphSetup.run_of_replay replays
  obtain ⟨-, humans⟩ :=
    outcome_consistent_when_smooth oneAttemptGraph run smooth
  exact
    ⟨_, _, run, smooth, ended, handed, fun step member routed executes =>
      (humans step member routed executes).2⟩

/-- A model whose patch is no patch. -/
def unpatchedAnswers : Answers
  | .patch _ _ _ => .ok "no patch"
  | request => appAnswers request

/-- A patch that does not apply ends between failing and being handed over. -/
theorem failed_patch_skips_human :
    ∃ steps final,
      (graph appGraph).Run appGraph.start steps final ∧
        (∃ step ∈ steps,
          step.before.next = some .needsHuman ∧
            step.action.Executes ∧
            step.after.session.state.status = .failed) ∧
        final.next = none ∧
        (finalChange final.session.state 0).status = .failed ∧
        (finalChange final.session.state 0).workflowState =
          some .generatePatch := by
  have replayed :
      (appGraph.replay unpatchedAnswers (List.replicate 7 .node)).any
        (fun replayed =>
          decide (replayed.point.next = none) &&
            decide (replayed.point.session.state.status = .failed) &&
            decide
              (replayed.point.session.state.workflowState =
                .generatePatch) &&
            replayed.steps.any fun step =>
              decide (step.before.next = some .needsHuman) &&
                decide (step.after.session.state.status = .failed) &&
                decide step.action.Executes) = true := by
    decide +kernel
  obtain ⟨replay, replays, checked⟩ :=
    (Option.any_eq_true _ _).mp replayed
  simp only [Bool.and_eq_true, List.any_eq_true, decide_eq_true_eq]
    at checked
  obtain ⟨⟨⟨ended, failed⟩, left⟩, step, member, ⟨routed, stays⟩, ran⟩ :=
    checked
  exact
    ⟨_, _, GraphSetup.run_of_replay replays,
      ⟨step, member, routed, ran, stays⟩, ended, failed,
      congrArg some left⟩

end IncidentPilot
