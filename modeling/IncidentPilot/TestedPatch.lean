import IncidentPilot.InvestigationRecord
import IncidentPilot.PatchedWorkspace
import IncidentPilot.WorkflowReplay

/-!
# What was tested is what is exported

The invariant behind `export_patch_artifact`: every test execution has run on the
copy of its base with its patch applied once, and attempts, test rows and
artifact rows that name an execution agree with it.  It is kept by every node,
by crashes and recoveries, and by everything else that happens to the run.
-/

namespace IncidentPilot

section

variable (setup : WorkflowSetup)

/-- An artifact carries a tested patch on the base of all of some attempts. -/
structure PatchArtifact.ExportedFrom
    (world : WorkflowWorld)
    (attempts : List PatchAttempt)
    (artifact : PatchArtifact) : Prop where
  carries :
    ∃ execution ∈ world.testExecutions,
      artifact.Carries setup.tools.json.sha256 execution
  bases :
    ∀ attempt ∈ attempts,
      attempt.baseCommitSha = some artifact.baseCommitSha

/-- What the database says of the tests agrees with how they were executed. -/
structure TestedTables (world : WorkflowWorld) : Prop where
  fresh :
    ∀ execution ∈ world.testExecutions,
      execution.testRunId < world.nextId
  unique :
    ∀ first ∈ world.testExecutions,
      ∀ second ∈ world.testExecutions,
        first.testRunId = second.testRunId → first = second
  patched :
    ∀ execution ∈ world.testExecutions,
      execution.workspace.Patched setup execution.patchDiff
  testRuns :
    ∀ test,
      test ∈ world.store.testRuns →
      test.runPk = world.store.run.id →
      ∃ execution ∈ world.testExecutions,
        test.Records setup.tools.json.sha256 execution
  artifacts :
    ∀ artifact,
      artifact ∈ world.store.patchArtifacts →
      artifact.runPk = world.store.run.id →
      ∃ checkpoint ∈ world.thread,
        checkpoint.next = some .exportPatchArtifact ∧
          artifact.ExportedFrom setup world
            checkpoint.state.patchAttempts
  waiting :
    world.store.run.status = .waitingApproval →
    ∃ artifact,
      Validated setup.tools.json.sha256 world.store artifact ∧
        world.store.run.result.patchArtifactId =
          some artifact.patchArtifactId

/-- The last attempt has passed its tests, which the result names. -/
def AgentState.Passed
    (world : WorkflowWorld)
    (state : AgentState) : Prop :=
  ∃ attempt, ∃ execution ∈ world.testExecutions,
    state.patchAttempts.getLast? = some attempt ∧
      attempt.Records execution ∧
      execution.exitCode = 0 ∧
      state.result.testRunId = some execution.testRunId

/-- The run has an artifact row that the state names, and its last test. -/
def AgentState.HasArtifactRow
    (world : WorkflowWorld)
    (state : AgentState) : Prop :=
  ∃ artifact,
    artifact ∈ world.store.patchArtifacts ∧
      artifact.runPk = world.store.run.id ∧
      state.result.patchArtifactId = some artifact.patchArtifactId ∧
      ∃ attempt ∈ state.patchAttempts,
        ∃ testRunId,
          attempt.testRunId = some testRunId ∧
            artifact.testRunId = some testRunId

/-- What holds of a checkpoint of a thread. -/
structure TestedCheckpoint
    (world : WorkflowWorld)
    (checkpoint : Checkpoint) : Prop where
  attempts :
    ∀ attempt ∈ checkpoint.state.patchAttempts,
      attempt.testRunId ≠ none →
      ∃ execution ∈ world.testExecutions, attempt.Records execution
  sameBase :
    checkpoint.next ≠ none →
    checkpoint.state.status = .running →
    ∃ base,
      ∀ attempt ∈ checkpoint.state.patchAttempts,
        attempt.baseCommitSha = some base
  hasPatch :
    checkpoint.next = some .runTests ∨
        checkpoint.next = some .exportPatchArtifact ∧
          checkpoint.state.status = .running →
      ∃ attempt,
        checkpoint.state.patchAttempts.getLast? = some attempt ∧
          attempt.HasPatch
  retries :
    checkpoint.next = some .reflect →
    checkpoint.state.patchAttempts ≠ []
  passed :
    checkpoint.next = some .exportPatchArtifact →
    checkpoint.state.status = .running →
    checkpoint.state.Passed world
  exported :
    ∀ artifact,
      checkpoint.state.patchArtifact = some artifact →
      (artifact.row world.store.run.id).ExportedFrom setup world
        checkpoint.state.patchAttempts
  unexported :
    checkpoint.next ≠ none →
    checkpoint.state.status = .running →
    checkpoint.state.patchArtifact = none
  waiting :
    checkpoint.state.status = .waitingApproval →
    checkpoint.state.HasArtifactRow world

/-- What holds of the workspace of a process at a node. -/
def TestedProcess (node : WorkflowNode) (session : Session) : Prop :=
  match node with
  | .generatePatch =>
      session.state.patchAttempts = [] →
      ∀ runtime,
        session.runtime = some runtime → runtime.Pristine setup
  | .runTests =>
      ∀ runtime attempt,
        session.runtime = some runtime →
        session.state.patchAttempts.getLast? = some attempt →
        runtime.Patched setup attempt
  | .exportPatchArtifact =>
      session.state.status = .running →
      ∀ runtime attempt,
        session.runtime = some runtime →
        session.state.patchAttempts.getLast? = some attempt →
        attempt.baseCommitSha = some runtime.baseCommitSha
  | _ => True

end

variable {setup : WorkflowSetup}

namespace TestedTables

variable {world after : WorkflowWorld}

/-- An artifact stays exported while the world grows. -/
theorem exportedFrom_grown
    {attempts : List PatchAttempt}
    {artifact : PatchArtifact}
    (grows : world.Grows after)
    (exported : artifact.ExportedFrom setup world attempts) :
    artifact.ExportedFrom setup after attempts where
  carries := by
    obtain ⟨execution, member, carries⟩ := exported.carries
    exact ⟨execution, grows.testExecutions execution member, carries⟩
  bases := exported.bases

/-- An exported row of the run stays one while the world grows. -/
theorem artifacts_grown
    (tables : TestedTables setup world)
    (grows : world.Grows after)
    {artifact : PatchArtifact}
    (member : artifact ∈ world.store.patchArtifacts)
    (ownRun : artifact.runPk = after.store.run.id) :
    ∃ checkpoint ∈ after.thread,
      checkpoint.next = some .exportPatchArtifact ∧
        artifact.ExportedFrom setup after
          checkpoint.state.patchAttempts := by
  obtain ⟨checkpoint, saved, exports, exported⟩ :=
    tables.artifacts artifact member
      (ownRun.trans grows.store.sameRun)
  exact
    ⟨checkpoint, grows.thread checkpoint saved, exports,
      exportedFrom_grown grows exported⟩

/-- A validated artifact stays validated while the world grows. -/
theorem waiting_grown
    (tables : TestedTables setup world)
    (grows : world.Grows after)
    (status :
      after.store.run.status = .waitingApproval →
      world.store.run.status = .waitingApproval ∧
        after.store.run.result = world.store.run.result)
    (waits : after.store.run.status = .waitingApproval) :
    ∃ artifact,
      Validated setup.tools.json.sha256 after.store artifact ∧
        after.store.run.result.patchArtifactId =
          some artifact.patchArtifactId := by
  obtain ⟨waited, sameResult⟩ := status waits
  obtain ⟨artifact, validated, named⟩ := tables.waiting waited
  exact
    ⟨artifact, grows.store.validated validated,
      (congrArg RunResult.patchArtifactId sameResult).trans named⟩

/-- What executes no test and spares the rows keeps the tables. -/
theorem spared
    (tables : TestedTables setup world)
    (grows : world.Grows after)
    (executions : after.testExecutions = world.testExecutions)
    (spares : world.store.SparesRepair after.store) :
    TestedTables setup after where
  fresh execution member := by
    rw [executions] at member
    exact Nat.lt_of_lt_of_le (tables.fresh execution member) grows.nextId
  unique := by
    rw [executions]
    exact tables.unique
  patched := by
    rw [executions]
    exact tables.patched
  testRuns test member ownRun := by
    rw [spares.testRuns] at member
    rw [executions]
    exact tables.testRuns test member (ownRun.trans grows.store.sameRun)
  artifacts artifact member ownRun :=
    tables.artifacts_grown grows (spares.patchArtifacts ▸ member) ownRun
  waiting := tables.waiting_grown grows spares.waiting

/-- A test execution on a patched workspace keeps the tables. -/
theorem executed
    {workspace : Workspace}
    {attempt : Option PatchAttempt}
    {exitCode : Int}
    (tables : TestedTables setup world)
    (patched :
      workspace.Patched setup
        ((attempt.bind PatchAttempt.patchDiff).getD "")) :
    TestedTables setup
      { world with
        nextId := world.nextId + 1
        testExecutions :=
          ⟨world.nextId, workspace, attempt, exitCode⟩ ::
            world.testExecutions } where
  fresh := by
    refine List.forall_mem_cons.mpr ⟨Nat.lt_succ_self _, ?_⟩
    exact fun execution member =>
      Nat.lt_succ_of_lt (tables.fresh execution member)
  unique := by
    intro first firstMember second secondMember same
    rcases List.mem_cons.mp firstMember with rfl | inFirst
    · rcases List.mem_cons.mp secondMember with rfl | inSecond
      · rfl
      · have older := tables.fresh second inSecond
        exact absurd same (Nat.ne_of_gt older)
    · rcases List.mem_cons.mp secondMember with rfl | inSecond
      · have older := tables.fresh first inFirst
        exact absurd same (Nat.ne_of_lt older)
      · exact tables.unique first inFirst second inSecond same
  patched := List.forall_mem_cons.mpr ⟨patched, tables.patched⟩
  testRuns test member ownRun := by
    obtain ⟨execution, inLog, records⟩ :=
      tables.testRuns test member ownRun
    exact ⟨execution, List.mem_cons_of_mem _ inLog, records⟩
  artifacts artifact member ownRun := by
    obtain ⟨checkpoint, saved, exports, exported⟩ :=
      tables.artifacts artifact member ownRun
    obtain ⟨execution, inLog, carries⟩ := exported.carries
    exact
      ⟨checkpoint, saved, exports,
        ⟨execution, List.mem_cons_of_mem _ inLog, carries⟩,
        exported.bases⟩
  waiting := tables.waiting

/-- Persisting an exported artifact keeps the tables. -/
theorem persisted
    {artifact : PatchArtifactData}
    {persistedId : Uuid}
    {checkpoint : Checkpoint}
    (tables : TestedTables setup world)
    (grows : world.Grows after)
    (persisted : Persisted world after artifact persistedId)
    (saved : checkpoint ∈ world.thread)
    (exports : checkpoint.next = some .exportPatchArtifact)
    (exported :
      (artifact.row world.store.run.id).ExportedFrom setup world
        checkpoint.state.patchAttempts) :
    TestedTables setup after where
  fresh := by
    rw [persisted.testExecutions, persisted.nextId]
    exact tables.fresh
  unique := by
    rw [persisted.testExecutions]
    exact tables.unique
  patched := by
    rw [persisted.testExecutions]
    exact tables.patched
  testRuns := by
    rw [persisted.testRuns, persisted.run, persisted.testExecutions]
    exact tables.testRuns
  artifacts row member ownRun := by
    rcases persisted.rows row member with before | rfl
    · exact tables.artifacts_grown grows before ownRun
    · exact
        ⟨checkpoint, grows.thread checkpoint saved, exports,
          exportedFrom_grown grows exported⟩
  waiting :=
    tables.waiting_grown grows fun waits => by
      rw [persisted.run] at waits
      exact ⟨waits, congrArg AgentRun.result persisted.run⟩

/-- The rows of a final state are tables of tests as they were executed. -/
theorem investigated
    {final : AgentState}
    {claim : Option ClaimedRun}
    {current : Instant}
    {loaded : RefreshedRun}
    (tables : TestedTables setup world)
    (recorded :
      ∀ attempt ∈ final.patchAttempts,
        attempt.testRunId ≠ none →
        ∃ execution ∈ world.testExecutions, attempt.Records execution)
    (committed :
      world.commit setup
          (.fenced claim current
            (investigationWrite setup.tools.json.sha256 loaded
              world.store.run.id final)) =
        some after) :
    TestedTables setup after ∧
      after.store.testRuns.Covers
        (TestRun.sameTest after.store.run.id)
        (testRows setup.tools.json.sha256 after.store.run.id final) := by
  have grows := WorkflowWorld.grows_of_commit committed
  have wrote := WorkflowWorld.commitStore_of_commit committed
  obtain ⟨-, -, applied⟩ := Transaction.commitStore_eq_some.mp wrote
  obtain ⟨table, inserted, written⟩ :=
    FencedWrite.apply_investigation.mp applied
  obtain ⟨plane, -, rfl⟩ := WorkflowWorld.commit_eq_some.mp committed
  change plane.store = _ at written
  have testRuns : plane.store.testRuns = table := by rw [written]
  have artifacts :
      plane.store.patchArtifacts = world.store.patchArtifacts := by
    rw [written]
  have status :
      plane.store.run.status = world.store.run.status ∧
        plane.store.run.result = world.store.run.result := by
    rw [written]
    exact ⟨rfl, rfl⟩
  refine ⟨⟨tables.fresh, tables.unique, tables.patched, ?_, ?_, ?_⟩, ?_⟩
  · intro test member ownRun
    change test ∈ plane.store.testRuns at member
    rw [testRuns] at member
    rcases (UniqueTable.mem_insertAll inserted test).mp member with
      before | new
    · exact tables.testRuns test before (ownRun.trans grows.store.sameRun)
    · exact testRows_records recorded (List.mem_of_mem_filter new)
  · intro artifact member ownRun
    change artifact ∈ plane.store.patchArtifacts at member
    rw [artifacts] at member
    exact tables.artifacts_grown grows member ownRun
  · exact tables.waiting_grown grows fun waits =>
      ⟨status.1.symm.trans waits, status.2⟩
  · rw [grows.store.sameRun]
    change plane.store.testRuns.Covers _ _
    rw [testRuns]
    rw [newTestRuns_eq_missing] at inserted
    exact
      UniqueTable.covers_of_insertAll_missing
        (testRows_sameTest setup.tools.json.sha256 world.store.run.id
          final)
        inserted

end TestedTables

section Checkpoints

variable {world later : WorkflowWorld}

/-- A checkpoint stays tested while the world grows. -/
theorem TestedCheckpoint.grown
    {checkpoint : Checkpoint}
    (grows : world.Grows later)
    (tested : TestedCheckpoint setup world checkpoint) :
    TestedCheckpoint setup later checkpoint where
  attempts attempt member named := by
    obtain ⟨execution, inLog, records⟩ :=
      tested.attempts attempt member named
    exact ⟨execution, grows.testExecutions execution inLog, records⟩
  sameBase := tested.sameBase
  hasPatch := tested.hasPatch
  retries := tested.retries
  passed exports running := by
    obtain ⟨attempt, execution, inLog, rest⟩ :=
      tested.passed exports running
    exact
      ⟨attempt, execution, grows.testExecutions execution inLog, rest⟩
  exported artifact found := by
    rw [grows.store.sameRun]
    exact
      TestedTables.exportedFrom_grown grows
        (tested.exported artifact found)
  unexported := tested.unexported
  waiting waits := by
    obtain ⟨artifact, member, ownRun, rest⟩ := tested.waiting waits
    exact
      ⟨artifact, grows.store.patchArtifacts artifact member,
        ownRun.trans grows.store.sameRun.symm, rest⟩

/-- A state that starts anew has nothing that must have been tested. -/
theorem testedCheckpoint_fresh
    {next : Option WorkflowNode}
    {state : AgentState}
    (unattempted : state.patchAttempts = [])
    (unexported : state.patchArtifact = none)
    (first : next = some .plan ∨ next = none)
    (unwaiting : state.status ≠ .waitingApproval) :
    TestedCheckpoint setup world ⟨next, state⟩ where
  attempts attempt member := by
    rw [unattempted] at member
    cases member
  sameBase _ _ := ⟨"", by simp [unattempted]⟩
  hasPatch repairs := by
    rcases first with rfl | rfl <;> simp at repairs
  retries retried := by
    rcases first with rfl | rfl <;> cases retried
  passed exports := by
    rcases first with rfl | rfl <;> cases exports
  exported artifact found := by
    rw [unexported] at found
    cases found
  unexported _ _ := unexported
  waiting waits := absurd waits unwaiting

end Checkpoints

/-- A final state whose tests are in the database. -/
structure TestedFinal
    (setup : WorkflowSetup)
    (world : WorkflowWorld)
    (final : AgentState) : Prop where
  checkpoint : ∃ next, TestedCheckpoint setup world ⟨next, final⟩
  covered :
    world.store.testRuns.Covers (TestRun.sameTest world.store.run.id)
      (testRows setup.tools.json.sha256 world.store.run.id final)

/-- A final state stays tested while the world grows. -/
theorem TestedFinal.grown
    {world later : WorkflowWorld}
    {final : AgentState}
    (grows : world.Grows later)
    (tested : TestedFinal setup world final) :
    TestedFinal setup later final where
  checkpoint := by
    obtain ⟨next, good⟩ := tested.checkpoint
    exact ⟨next, good.grown grows⟩
  covered := by
    rw [grows.store.sameRun]
    exact tested.covered.extends grows.store.testRuns

/-- A run that has waited names an artifact its own tests vouch for. -/
theorem TestedFinal.validated
    {world : WorkflowWorld}
    {final : AgentState}
    (tables : TestedTables setup world)
    (tested : TestedFinal setup world final)
    (waits : final.status = .waitingApproval) :
    ∃ artifact,
      Validated setup.tools.json.sha256 world.store artifact ∧
        final.result.patchArtifactId = some artifact.patchArtifactId := by
  obtain ⟨next, good⟩ := tested.checkpoint
  obtain ⟨artifact, member, ownRun, named, attempt, attempted, testRunId,
    hasTest, ofTest⟩ := good.waiting waits
  obtain ⟨checkpoint, -, -, exported⟩ :=
    tables.artifacts artifact member ownRun
  obtain ⟨execution, inLog, carries⟩ := exported.carries
  obtain ⟨row, isRow, sameId⟩ :=
    exists_testRow setup.tools.json.sha256 world.store.run.id attempted
      hasTest
  obtain ⟨test, inTable, same⟩ := tested.covered row isRow
  simp only [TestRun.sameTest, Bool.and_eq_true, decide_eq_true_eq]
    at same
  obtain ⟨recorded, isRecorded, records⟩ :=
    tables.testRuns test inTable same.1
  have sameExecution : recorded = execution := by
    refine tables.unique recorded isRecorded execution inLog ?_
    have ofArtifact : testRunId = execution.testRunId :=
      Option.some.inj (ofTest.symm.trans carries.testRunId)
    rw [← records.testRunId, same.2, sameId, ofArtifact]
  subst sameExecution
  refine
    ⟨artifact,
      ⟨member, ownRun, carries.immutable, ?_, test, inTable, same.1, ?_,
        records.vouches carries⟩,
      named⟩
  · rw [carries.patchDiff, carries.patchHash]
  · rw [records.testRunId, carries.testRunId]

section Routes

variable {settings : WorkflowSettings} {node : WorkflowNode}
variable {session : Session}

/-- Tests are run where a patch has been applied. -/
theorem next_eq_runTests
    (follows : node.next settings session = some .runTests) :
    node = .generatePatch ∧ session.state.status = .running := by
  cases node <;>
    simp only [WorkflowNode.next, WorkflowNode.afterPatch,
      WorkflowNode.afterTests, WorkflowNode.afterVerify] at follows <;>
    grind

/-- An attempt is reflected on where its tests have run. -/
theorem next_eq_reflect
    (follows : node.next settings session = some .reflect) :
    node = .runTests ∧ session.state.status = .running := by
  cases node <;>
    simp only [WorkflowNode.next, WorkflowNode.afterPatch,
      WorkflowNode.afterTests, WorkflowNode.afterVerify] at follows <;>
    grind

/-- An artifact is exported where the tests have passed. -/
theorem next_eq_export
    (follows : node.next settings session = some .exportPatchArtifact) :
    node = .runTests ∧
      session.state.status = .running ∧
      session.runtime.any SandboxRuntime.testOk = true := by
  cases node <;>
    simp only [WorkflowNode.next, WorkflowNode.afterPatch,
      WorkflowNode.afterTests, WorkflowNode.afterVerify] at follows <;>
    grind

/-- A patch is generated in a new sandbox, or after a reflection. -/
theorem next_eq_generatePatch
    (follows : node.next settings session = some .generatePatch) :
    node = .createSandbox ∧ session.state.status = .running ∨
      node = .reflect := by
  cases node <;>
    simp only [WorkflowNode.next, WorkflowNode.afterPatch,
      WorkflowNode.afterTests, WorkflowNode.afterVerify] at follows <;>
    grind

end Routes

/-- The invariant of tested patches. -/
def testedPatches (setup : WorkflowSetup) : WorkflowInvariant where
  tables := TestedTables setup
  checkpoint := TestedCheckpoint setup
  process _ := TestedProcess setup
  persisted := TestedFinal setup

section Nodes

variable {world later : WorkflowWorld} {node : WorkflowNode}
variable {session after : Session}

/-- Where the run has stopped, its attempts are all that counts. -/
theorem completed_stopped
    (attempts :
      ∀ attempt ∈ after.state.patchAttempts,
        attempt.testRunId ≠ none →
        ∃ execution ∈ world.testExecutions, attempt.Records execution)
    (stopped : after.state.status ≠ .running)
    (exported :
      ∀ artifact,
        after.state.patchArtifact = some artifact →
        (artifact.row world.store.run.id).ExportedFrom setup world
          after.state.patchAttempts)
    (waiting :
      after.state.status = .waitingApproval →
      after.state.HasArtifactRow world)
    (retries : node = .reflect → after.state.patchAttempts ≠ []) :
    (testedPatches setup).Completed setup world node after where
  checkpoint :=
    { attempts := attempts
      sameBase := fun _ running => absurd running stopped
      hasPatch := by
        rintro (runs | ⟨-, running⟩)
        · exact absurd (next_eq_runTests runs).2 stopped
        · exact absurd running stopped
      retries := fun reflects =>
        absurd (next_eq_reflect reflects).2 stopped
      passed := fun _ running => absurd running stopped
      exported := exported
      unexported := fun _ running => absurd running stopped
      waiting := waiting }
  process following follows := by
    cases following with
    | generatePatch =>
        intro none
        rcases next_eq_generatePatch follows with ⟨-, running⟩ | reflects
        · exact absurd running stopped
        · exact absurd none (retries reflects)
    | runTests => exact absurd (next_eq_runTests follows).2 stopped
    | exportPatchArtifact =>
        exact fun running => absurd running stopped
    | _ => trivial

/-- A node that is skipped leads on with the checkpoint it was at. -/
theorem completed_skipped
    (tested : TestedCheckpoint setup world ⟨some node, session.state⟩)
    (stopped : session.state.status ≠ .running) :
    (testedPatches setup).Completed setup world node session :=
  completed_stopped tested.attempts stopped tested.exported
    tested.waiting fun reflects => tested.retries (reflects ▸ rfl)

/-- A node that leaves the repair alone leads on as it should. -/
theorem completed_unrepaired
    (tested : TestedCheckpoint setup world ⟨some node, session.state⟩)
    (running : session.state.status = .running)
    (unrepaired : session.state.Unrepaired after.state)
    (early :
      node ≠ .generatePatch ∧ node ≠ .runTests ∧ node ≠ .reflect)
    (pristine :
      node = .createSandbox →
      after.state.status = .running →
      ∃ runtime,
        after.runtime = some runtime ∧ runtime.Pristine setup) :
    (testedPatches setup).Completed setup world node after := by
  have unexported : after.state.patchArtifact = none :=
    unrepaired.artifact.trans (tested.unexported nofun running)
  constructor
  · refine ⟨?_, ?_, ?_, ?_, ?_, ?_, fun _ _ => unexported, ?_⟩
    · exact unrepaired.attempts.symm ▸ tested.attempts
    · exact fun _ _ =>
        unrepaired.attempts.symm ▸ tested.sameBase nofun running
    · rintro (runs | ⟨exports, -⟩)
      · exact absurd (next_eq_runTests runs).1 early.1
      · exact absurd (next_eq_export exports).1 early.2.1
    · exact fun reflects =>
        absurd (next_eq_reflect reflects).1 early.2.1
    · exact fun exports => absurd (next_eq_export exports).1 early.2.1
    · intro artifact found
      rw [unexported] at found
      cases found
    · intro waits
      have waited := unrepaired.waits waits
      rw [running] at waited
      cases waited
  · intro following follows
    cases following with
    | generatePatch =>
        intro none runtime present
        rcases next_eq_generatePatch follows with
          ⟨creates, stillRunning⟩ | reflects
        · obtain ⟨copy, isCopy, copied⟩ := pristine creates stillRunning
          rw [present] at isCopy
          cases isCopy
          exact copied
        · exact absurd reflects early.2.2
    | runTests => exact absurd (next_eq_runTests follows).1 early.1
    | exportPatchArtifact =>
        exact absurd (next_eq_export follows).1 early.2.1
    | _ => trivial

/-- A node that generates a patch leads on to its tests, or stops. -/
theorem completed_patches
    (tested :
      TestedCheckpoint setup world
        ⟨some .generatePatch, session.state⟩)
    (running : session.state.status = .running)
    (patches : session.Patches setup after) :
    (testedPatches setup).Completed setup world .generatePatch after := by
  have unexported := tested.unexported nofun running
  have recorded
      (attempts :
        ∀ attempt ∈ after.state.patchAttempts,
          attempt ∈ session.state.patchAttempts ∨
            attempt.testRunId = none) :
      ∀ attempt ∈ after.state.patchAttempts,
        attempt.testRunId ≠ none →
        ∃ execution ∈ world.testExecutions, attempt.Records execution := by
    intro attempt member named
    rcases attempts attempt member with before | untested
    · exact tested.attempts attempt before named
    · exact absurd untested named
  cases patches with
  | stopped attempts status artifact =>
      refine completed_stopped (recorded attempts) ?_ ?_ ?_ nofun
      · rcases status with failed | handedOver
        · rw [failed]
          nofun
        · rw [handedOver]
          nofun
      · intro exported found
        rw [artifact, unexported] at found
        cases found
      · intro waits
        rcases status with failed | handedOver
        · rw [failed] at waits
          cases waits
        · rw [handedOver] at waits
          cases waits
  | @applied attempt runtime attempts untested hasPatch equipped patched
      sameBase artifact waits =>
      have last :
          after.state.patchAttempts.getLast? = some attempt := by
        rw [attempts, List.getLast?_concat]
      constructor
      · refine ⟨recorded ?_, ?_, ?_, ?_, ?_, ?_, ?_, ?_⟩
        · intro other member
          rw [attempts] at member
          rcases List.mem_append.mp member with before | new
          · exact .inl before
          · obtain rfl := List.mem_singleton.mp new
            exact .inr untested
        · intro _ _
          obtain ⟨base, allBase⟩ := tested.sameBase nofun running
          obtain ⟨workspace, patchDiff, -, -, ofWorkspace, -⟩ := patched
          refine ⟨workspace.baseCommitSha, ?_⟩
          rw [attempts]
          intro other member
          rcases List.mem_append.mp member with before | new
          · cases first : session.state.patchAttempts.head? with
            | none =>
                rw [List.head?_eq_none_iff.mp first] at before
                cases before
            | some earliest =>
                have isFirst :=
                  allBase earliest (List.mem_of_head? first)
                rw [allBase other before, ← isFirst,
                  sameBase earliest first, ofWorkspace]
          · obtain rfl := List.mem_singleton.mp new
            exact ofWorkspace
        · exact fun _ => ⟨attempt, last, hasPatch⟩
        · intro reflects
          have route :
              WorkflowNode.generatePatch.next setup.settings after =
                some .reflect :=
            reflects
          cases (next_eq_reflect route).1
        · intro exports
          have route :
              WorkflowNode.generatePatch.next setup.settings after =
                some .exportPatchArtifact :=
            exports
          cases (next_eq_export route).1
        · intro exported found
          rw [artifact, unexported] at found
          cases found
        · exact fun _ _ => artifact.trans unexported
        · intro waiting
          have waited := waits waiting
          rw [running] at waited
          cases waited
      · intro following follows
        cases following with
        | generatePatch =>
            rcases next_eq_generatePatch follows with
              ⟨creates, -⟩ | reflects
            · cases creates
            · cases reflects
        | runTests =>
            intro manager other present isLast
            rw [equipped] at present
            rw [last] at isLast
            cases present
            cases isLast
            exact patched
        | exportPatchArtifact =>
            cases (next_eq_export follows).1
        | _ => trivial

/-- A reflection on the last attempt leads on to another one. -/
theorem completed_reflects
    {earlier : List PatchAttempt}
    {last : PatchAttempt}
    (reflection : Option String)
    (tested :
      TestedCheckpoint setup world ⟨some .reflect, session.state⟩)
    (running : session.state.status = .running)
    (attempts : session.state.patchAttempts = earlier ++ [last])
    (changed :
      after.state.patchAttempts =
        earlier ++ [{ last with reflection := reflection }])
    (artifact :
      after.state.patchArtifact = session.state.patchArtifact)
    (status : after.state.status = session.state.status) :
    (testedPatches setup).Completed setup world .reflect after := by
  have before :
      ∀ attempt ∈ after.state.patchAttempts,
        ∃ other ∈ session.state.patchAttempts,
          attempt.baseCommitSha = other.baseCommitSha ∧
            attempt.testRunId = other.testRunId ∧
            ∀ execution,
              other.Records execution → attempt.Records execution := by
    intro attempt member
    rw [changed] at member
    rcases List.mem_append.mp member with inEarlier | isLast
    · refine
        ⟨attempt, ?_, rfl, rfl, fun execution => id⟩
      rw [attempts]
      exact List.mem_append_left _ inEarlier
    · obtain rfl := List.mem_singleton.mp isLast
      refine
        ⟨last, ?_, rfl, rfl, fun execution records => ?_⟩
      · rw [attempts]
        exact List.mem_append_right _ List.mem_cons_self
      · exact
          ⟨records.patchDiff, records.baseCommitSha, records.testRunId,
            records.testOk, records.testExitCode⟩
  have unexported : after.state.patchArtifact = none := by
    rw [artifact]
    exact tested.unexported nofun running
  constructor
  · refine ⟨?_, ?_, ?_, nofun, nofun, ?_, fun _ _ => unexported, ?_⟩
    · intro attempt member named
      obtain ⟨other, inBefore, -, sameId, records⟩ :=
        before attempt member
      obtain ⟨execution, inLog, recorded⟩ :=
        tested.attempts other inBefore (sameId ▸ named)
      exact ⟨execution, inLog, records execution recorded⟩
    · intro _ _
      obtain ⟨common, allBase⟩ := tested.sameBase nofun running
      refine ⟨common, fun attempt member => ?_⟩
      obtain ⟨other, inBefore, sameBase, -⟩ := before attempt member
      exact sameBase.trans (allBase other inBefore)
    · rintro (runs | ⟨exports, -⟩)
      · cases runs
      · cases exports
    · intro artifact found
      rw [unexported] at found
      cases found
    · intro waits
      rw [show after.state.status = .waitingApproval from waits,
        running] at status
      cases status
  · intro following follows
    cases follows
    intro none
    rw [changed] at none
    simp at none

/-- Reflecting leads on to another attempt. -/
theorem reflectNode_completed
    (tested :
      TestedCheckpoint setup world ⟨some .reflect, session.state⟩)
    (running : session.state.status = .running) :
    (reflectNode session).Always
      ((testedPatches setup).Completed setup world .reflect) := by
  have nonempty : session.state.patchAttempts ≠ [] := tested.retries rfl
  have last := List.getLast?_eq_some_getLast nonempty
  have changed :
      (session.state.patchAttempts.getLast?.map fun attempt =>
          { attempt with
            reflection :=
              some
                ("tests failed; retry with simplified " ++
                  "patch") }).toList =
        [{ session.state.patchAttempts.getLast nonempty with
            reflection :=
              some
                ("tests failed; retry with simplified " ++
                  "patch") }] := by
    rw [last]
    rfl
  exact
    completed_reflects _ tested running
      (List.dropLast_concat_getLast nonempty).symm
      (congrArg (session.state.patchAttempts.dropLast ++ ·) changed) rfl
      rfl

end Nodes

section Requests

variable {claim : Option ClaimedRun} {world : WorkflowWorld}

/-- What is passive may be asked. -/
theorem permits_passive
    {request : WorkflowRequest}
    (passive : request.passive = true) :
    (testedPatches setup).permits setup claim world request := by
  intro holds answer after served
  have grows := served.grows
  have unchanged (same : after = world) :
      (testedPatches setup).tables after := by
    rw [same]
    exact holds.tables
  cases request with
  | runTests => cases passive
  | transact => cases passive
  | persistArtifact => cases passive
  | freshId =>
      obtain ⟨-, rfl⟩ := served
      exact holds.tables.spared grows rfl (.refl _)
  | readSource => exact unchanged served.1
  | _ => exact unchanged served

/-- What the guard of a node writes may be written. -/
theorem permits_reports
    {write : FencedWrite}
    (reports : write.reports = true) :
    (testedPatches setup).permits setup claim world (.transact write) := by
  intro holds answer after served
  have grows := served.grows
  rcases served with ⟨-, -, rfl⟩ | ⟨-, current, committed⟩
  · exact holds.tables
  · have foreign :
        (Transaction.fenced claim current write).Foreign world.store := by
      cases write <;> trivial
    have spares :=
      Transaction.commitStore_spares foreign
        (WorkflowWorld.commitStore_of_commit committed)
    obtain ⟨plane, -, rfl⟩ := WorkflowWorld.commit_eq_some.mp committed
    exact holds.tables.spared grows rfl spares

/-- A node that asks passive requests leads on by what it returns. -/
theorem leads_of_passive
    {node : WorkflowNode}
    {program : WorkflowProgram Session}
    {good : Session → Prop}
    (always : program.AlwaysUnder setup.CleanSource good)
    (passive : WorkflowProgram.Passive program)
    (completed :
      ∀ session later,
        world.Grows later →
        good session →
        (testedPatches setup).Completed setup later node session) :
    (testedPatches setup).Leads setup claim node program world :=
  WorkflowInvariant.leads_of_keeps
    (always.keeps passive
      (fun _ _ _ _ serves =>
        @WorkflowSetup.Serves.cleanSource setup claim _ _ _ _ serves)
      world)
    (fun _ _ => permits_passive) completed

/-- The tests are executed on the patched workspace, or they are not. -/
theorem runTests_keeps
    {runtime : SandboxRuntime}
    {attempt : PatchAttempt}
    (patched : runtime.Patched setup attempt) :
    (runtime.runTests setup.settings (some attempt)).Keeps
      ((testedPatches setup).surroundings setup claim)
      ((testedPatches setup).permits setup claim) world
      (fun reported later =>
        world.Grows later ∧
          ∀ report,
            reported = .ok report →
            ∃ execution ∈ later.testExecutions,
              execution.testRunId = report.testRunId ∧
                execution.exitCode = report.exitCode ∧
                execution.workspace.baseCommitSha =
                  runtime.baseCommitSha ∧
                attempt.patchDiff = some execution.patchDiff)
      (fun _ _ => True) := by
  obtain ⟨workspace, patchDiff, equipped, diff, -, applied⟩ := patched
  have base : runtime.baseCommitSha = workspace.baseCommitSha := by
    simp [SandboxRuntime.baseCommitSha, equipped]
  unfold SandboxRuntime.runTests
  rw [equipped]
  dsimp only
  split
  · exact .done ⟨.refl _, fun _ failed => by cases failed⟩
  · split
    · exact .done ⟨.refl _, fun _ failed => by cases failed⟩
    · refine .ask fun disturbed interfered => ⟨?_, ?_⟩
      · intro holds answer after served
        rcases served with ⟨-, -, rfl⟩ | ⟨exitCode, -, rfl⟩
        · exact holds.tables
        · refine holds.tables.executed ?_
          simpa [diff] using applied
      · intro answer served serving
        have serves :
            setup.Serves claim disturbed
              (.runTests workspace (some attempt)) answer served :=
          serving
        refine .done ⟨interfered.1.trans serves.grows, ?_⟩
        rintro report rfl
        rcases serves with ⟨_, failed, -⟩ | ⟨exitCode, ran, rfl⟩
        · cases failed
        · cases ran
          refine
            ⟨_, List.mem_cons_self, rfl, rfl, base.symm, ?_⟩
          simp [TestExecution.patchDiff, diff]

end Requests

/-- What running the tests makes of a session. -/
structure Session.TestsRun
    (setup : WorkflowSetup)
    (world : WorkflowWorld)
    (before after : Session) : Prop where
  attempts :
    ∀ attempt ∈ after.state.patchAttempts,
      attempt.testRunId ≠ none →
      ∃ execution ∈ world.testExecutions, attempt.Records execution
  artifact : after.state.patchArtifact = before.state.patchArtifact
  waits :
    after.state.status = .waitingApproval →
    before.state.status = .waitingApproval
  ran :
    after.state.status = .running →
    ∃ attempt runtime, ∃ execution ∈ world.testExecutions,
      after.state.patchAttempts.getLast? = some attempt ∧
        attempt.HasPatch ∧
        attempt.Records execution ∧
        after.state.result.testRunId = some execution.testRunId ∧
        after.runtime = some runtime ∧
        runtime.testOk = decide (execution.exitCode = 0) ∧
        (∀ other ∈ before.state.patchAttempts,
          other.baseCommitSha = some runtime.baseCommitSha) ∧
        ∀ other ∈ after.state.patchAttempts,
          other.baseCommitSha = some runtime.baseCommitSha

/-- An attempt with the report of its tests says how they were executed. -/
theorem PatchAttempt.tested_records
    {attempt : PatchAttempt}
    {report : TestReport}
    {base : String}
    {execution : TestExecution}
    (diff : attempt.patchDiff = some execution.patchDiff)
    (sameId : execution.testRunId = report.testRunId)
    (sameExit : execution.exitCode = report.exitCode)
    (sameWorkspace : execution.workspace.baseCommitSha = base) :
    (attempt.tested report base).Records execution where
  patchDiff := diff
  baseCommitSha := congrArg some sameWorkspace.symm
  testRunId := congrArg some sameId.symm
  testOk := by
    simp [PatchAttempt.tested, TestReport.passed, sameExit]
  testExitCode := congrArg some sameExit.symm

/-- The tests replace the last attempt by the tested one. -/
theorem AgentState.tested_patchAttempts
    {state : AgentState}
    {attempt : PatchAttempt}
    {report : TestReport}
    {base : String}
    (last : state.patchAttempts.getLast? = some attempt) :
    (state.tested report base).patchAttempts =
      state.patchAttempts.dropLast ++ [attempt.tested report base] := by
  simp [AgentState.tested, last]

/-- After the tests an attempt was there, or it is the tested one. -/
theorem AgentState.mem_tested
    {state : AgentState}
    {attempt other : PatchAttempt}
    {report : TestReport}
    {base : String}
    (last : state.patchAttempts.getLast? = some attempt)
    (member : other ∈ (state.tested report base).patchAttempts) :
    other ∈ state.patchAttempts ∨ other = attempt.tested report base := by
  rw [AgentState.tested_patchAttempts last] at member
  rcases List.mem_append.mp member with earlier | new
  · exact .inl (List.dropLast_subset _ earlier)
  · exact .inr (List.mem_singleton.mp new)

/-- Running the tests records how they were executed. -/
theorem runTestsNode_keeps
    {claim : Option ClaimedRun}
    {world : WorkflowWorld}
    {session : Session}
    {attempt : PatchAttempt}
    {base : String}
    (recorded :
      ∀ other ∈ session.state.patchAttempts,
        other.testRunId ≠ none →
        ∃ execution ∈ world.testExecutions, other.Records execution)
    (sameBase :
      ∀ other ∈ session.state.patchAttempts,
        other.baseCommitSha = some base)
    (last : session.state.patchAttempts.getLast? = some attempt)
    (hasPatch : attempt.HasPatch)
    (patched :
      ∀ runtime,
        session.runtime = some runtime →
        runtime.Patched setup attempt) :
    (runTestsNode setup.tools setup.settings session).Keeps
      ((testedPatches setup).surroundings setup claim)
      ((testedPatches setup).permits setup claim) world
      (fun after later => session.TestsRun setup later after)
      (fun _ _ => True) := by
  have grown
      {later : WorkflowWorld}
      (grows : world.Grows later)
      {attempts : List PatchAttempt}
      (among :
        ∀ other ∈ attempts, other ∈ session.state.patchAttempts) :
      ∀ other ∈ attempts,
        other.testRunId ≠ none →
        ∃ execution ∈ later.testExecutions,
          other.Records execution := by
    intro other member named
    obtain ⟨execution, inLog, records⟩ :=
      recorded other (among other member) named
    exact ⟨execution, grows.testExecutions execution inLog, records⟩
  unfold runTestsNode
  refine
    .bind
      ((WorkflowInvariant.keeps_grown
        ((@ensureWorkspace_patched setup
            (session.withState
              { session.state with workflowState := .runTests })
            attempt last hasPatch patched).keeps
          (ensureWorkspace_passive setup.tools setup.settings true _)
          (fun _ _ _ _ serves =>
            @WorkflowSetup.Serves.cleanSource setup claim _ _ _ _ serves)
          world)
        (fun _ _ => permits_passive)).mono (fun _ _ => id) ?_
        (fun _ _ => id))
  rintro ⟨ensured, manager⟩ later ⟨⟨unrepaired, managed⟩, grows⟩
  have attempts :
      ensured.state.patchAttempts = session.state.patchAttempts :=
    unrepaired.attempts
  cases manager with
  | none =>
      refine .done ⟨?_, unrepaired.artifact, nofun, nofun⟩
      exact grown grows fun other member => attempts ▸ member
  | some runtime =>
      have isPatched := managed runtime rfl
      have isLast : ensured.state.patchAttempts.getLast? = some attempt :=
        attempts ▸ last
      dsimp only
      rw [isLast]
      refine
        .bind
          ((runTests_keeps isPatched).mono (fun _ _ => id) ?_
            (fun _ _ => id))
      rintro reported final ⟨grew, executed⟩
      have allGrown := grows.trans grew
      cases reported with
      | error message =>
          refine .done ⟨?_, unrepaired.artifact, nofun, nofun⟩
          exact grown allGrown fun other member => attempts ▸ member
      | ok report =>
          obtain ⟨execution, inLog, sameId, sameExit, sameWorkspace,
            diff⟩ := executed report rfl
          obtain ⟨workspace, _, equipped, -, ofWorkspace, -⟩ := isPatched
          have ofRuntime :
              attempt.baseCommitSha = some runtime.baseCommitSha := by
            rw [ofWorkspace]
            simp [SandboxRuntime.baseCommitSha, equipped]
          have isBase : base = runtime.baseCommitSha := by
            have ofLast := sameBase attempt (List.mem_of_getLast? last)
            exact Option.some.inj (ofLast.symm.trans ofRuntime)
          have records :
              (attempt.tested report runtime.baseCommitSha).Records
                execution :=
            PatchAttempt.tested_records diff sameId sameExit sameWorkspace
          refine .done ⟨?_, unrepaired.artifact, unrepaired.waits, ?_⟩
          · intro other member named
            rcases AgentState.mem_tested isLast member with earlier | rfl
            · exact
                grown allGrown (fun other member => attempts ▸ member)
                  other earlier named
            · exact ⟨execution, inLog, records⟩
          · intro _
            refine
              ⟨attempt.tested report runtime.baseCommitSha, _, execution,
                inLog, ?_, hasPatch, records, congrArg some sameId.symm,
                rfl, ?_, ?_, ?_⟩
            · exact
                (congrArg List.getLast?
                  (AgentState.tested_patchAttempts isLast)).trans
                  List.getLast?_concat
            · simp [TestReport.passed, sameExit]
            · intro other member
              exact (sameBase other member).trans (congrArg some isBase)
            · intro other member
              rcases AgentState.mem_tested isLast member with
                earlier | rfl
              · exact
                  (sameBase other (attempts ▸ earlier)).trans
                    (congrArg some isBase)
              · rfl

end IncidentPilot
