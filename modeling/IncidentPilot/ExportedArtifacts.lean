import IncidentPilot.ExportedPatch

/-!
# Exported artifacts

Every artifact that a run has exported names a test execution that passed on the
copy of the artifact's base with the artifact's patch applied once, whatever
attempts, failures, reflections and recoveries came before.
-/

namespace IncidentPilot

/-- What an artifact says of the test execution that it names. -/
structure PatchArtifact.TestedBy
    (setup : WorkflowSetup)
    (world : WorkflowWorld)
    (artifact : PatchArtifact)
    (execution : TestExecution) : Prop where
  recorded : execution ∈ world.testExecutions
  named : artifact.testRunId = some execution.testRunId
  only :
    ∀ other ∈ world.testExecutions,
      other.testRunId = execution.testRunId → other = execution
  passed : execution.exitCode = 0
  base : execution.workspace.baseCommitSha = artifact.baseCommitSha
  content :
    artifact.baseCommitSha ≠ "UNVERSIONED" →
    applyPatch setup.tools.patch
        (sandboxCopy setup.tools.patch
          (setup.contentAt artifact.baseCommitSha))
        artifact.patchDiff =
      (execution.workspace.files, .ok ())
  vouched :
    ∀ test,
      test ∈ world.store.testRuns →
      test.runPk = world.store.run.id →
      some test.testRunId = artifact.testRunId →
      test.Vouches artifact

/-- An artifact that carries a tested patch says what was tested. -/
theorem TestedTables.testedBy
    {setup : WorkflowSetup}
    {world : WorkflowWorld}
    {attempts : List PatchAttempt}
    {artifact : PatchArtifact}
    (tables : TestedTables setup world)
    (exported : artifact.ExportedFrom setup world attempts) :
    ∃ execution, artifact.TestedBy setup world execution := by
  obtain ⟨execution, inLog, carries⟩ := exported.carries
  have only :
      ∀ other ∈ world.testExecutions,
        other.testRunId = execution.testRunId → other = execution :=
    fun other member same =>
      tables.unique other member execution inLog same
  refine
    ⟨execution, inLog, carries.testRunId, only, carries.passed,
      carries.baseCommitSha.symm, ?_, ?_⟩
  · intro versioned
    rw [carries.baseCommitSha] at versioned ⊢
    rw [carries.patchDiff]
    exact tables.patched execution inLog versioned
  · intro test member ownRun named
    obtain ⟨ran, inRan, records⟩ := tables.testRuns test member ownRun
    have same : ran = execution := by
      refine only ran inRan (Option.some.inj ?_)
      rw [← carries.testRunId, ← named, records.testRunId]
    exact (same ▸ records).vouches carries

/--
Every artifact of a run, in the database and in every state of the run, was
tested as it is, and all attempts of the state it was exported from are on its
base.
-/
theorem exported_patch_was_tested
    (setup : WorkflowSetup)
    {runs : WorkflowRuns}
    (reached : (workflow setup).Reachable runs) :
    (∀ artifact,
        artifact ∈ runs.world.store.patchArtifacts →
        artifact.runPk = runs.world.store.run.id →
        (∃ execution, artifact.TestedBy setup runs.world execution) ∧
          ∃ checkpoint ∈ runs.world.thread,
            checkpoint.next = some .exportPatchArtifact ∧
              ∀ attempt ∈ checkpoint.state.patchAttempts,
                attempt.baseCommitSha = some artifact.baseCommitSha) ∧
      ∀ state artifact,
        runs.Holds state →
        state.patchArtifact = some artifact →
        (∃ execution,
            (artifact.row runs.world.store.run.id).TestedBy setup
              runs.world execution) ∧
          ∀ attempt ∈ state.patchAttempts,
            attempt.baseCommitSha = some artifact.baseCommitSha := by
  have kept := testedPatches_inductive setup
  obtain ⟨holds, -⟩ := kept.reachable reached
  constructor
  · intro artifact member ownRun
    obtain ⟨checkpoint, saved, exports, exported⟩ :=
      holds.tables.artifacts artifact member ownRun
    exact
      ⟨holds.tables.testedBy exported, checkpoint, saved, exports,
        exported.bases⟩
  · intro state artifact held found
    obtain ⟨next, tested⟩ :=
      kept.held (fun _ _ final => final.checkpoint) reached held
    have exported := tested.exported artifact found
    exact ⟨holds.tables.testedBy exported, exported.bases⟩

/-- A run that has exported a patch, which was tested on the base. -/
theorem exported_patch_was_tested_app :
    ∃ runs state artifact,
      (workflow appSetup).Reachable runs ∧
        runs.Holds state ∧
        state.patchArtifact = some artifact ∧
        artifact.baseCommitSha = "base" ∧
        (∃ execution,
          (artifact.row runs.world.store.run.id).TestedBy appSetup
            runs.world execution) ∧
        ∀ attempt ∈ state.patchAttempts,
          attempt.baseCommitSha = some artifact.baseCommitSha := by
  have replayed :
      ((appSetup.replay appAnswers 57
          ((WorkflowRuns.admitted "pk" "RUN-1" "INC-1" 0).world,
            .marking ⟨none, false⟩)).bind
          fun place => place.2.session).any
        (fun session =>
          session.state.patchArtifact.any fun artifact =>
            decide (artifact.baseCommitSha = "base")) = true := by
    decide +kernel
  obtain ⟨session, replays, exports⟩ :=
    (Option.any_eq_true _ _).mp replayed
  obtain ⟨artifact, exported, base⟩ :=
    (Option.any_eq_true _ _).mp exports
  obtain ⟨runs, attempt, node, reached, stands⟩ :=
    WorkflowRuns.session_of_first 57 rfl appAnswers_clean replays
  have held : runs.Holds session.state := .between stands
  obtain ⟨tested, bases⟩ :=
    (exported_patch_was_tested appSetup reached).2 session.state artifact
      held exported
  exact
    ⟨runs, session.state, artifact, reached, held, exported,
      of_decide_eq_true base, tested, bases⟩

end IncidentPilot
