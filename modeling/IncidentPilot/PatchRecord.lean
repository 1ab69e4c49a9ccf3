import IncidentPilot.WorkflowInvariant

/-!
# The record of a repair

What patch attempts, test rows and artifact rows say about the executions of the
tests, and how the transactions of a run treat these rows.  A test execution is
known by its identifier, so that rows and attempts which name the same execution
agree on the patch, its base and the exit code.
-/

namespace IncidentPilot

/-- The patch that tests were executed for. -/
def TestExecution.patchDiff (execution : TestExecution) : String :=
  (execution.attempt.bind PatchAttempt.patchDiff).getD ""

/-- An attempt says how its tests were executed. -/
structure PatchAttempt.Records
    (attempt : PatchAttempt)
    (execution : TestExecution) : Prop where
  patchDiff : attempt.patchDiff = some execution.patchDiff
  baseCommitSha :
    attempt.baseCommitSha = some execution.workspace.baseCommitSha
  testRunId : attempt.testRunId = some execution.testRunId
  testOk : attempt.testOk = some (decide (execution.exitCode = 0))
  testExitCode : attempt.testExitCode = some execution.exitCode

/-- A test row says how the tests were executed. -/
structure TestRun.Records
    (sha256 : String → String)
    (test : TestRun)
    (execution : TestExecution) : Prop where
  testRunId : test.testRunId = execution.testRunId
  status :
    test.status = if execution.exitCode = 0 then .passed else .failed
  exitCode : test.exitCode = some execution.exitCode
  patchHash : test.patchHash = hashPatch sha256 execution.patchDiff
  baseCommitSha : test.baseCommitSha = execution.workspace.baseCommitSha

/-- An artifact carries the patch that tests have passed for. -/
structure PatchArtifact.Carries
    (sha256 : String → String)
    (artifact : PatchArtifact)
    (execution : TestExecution) : Prop where
  passed : execution.exitCode = 0
  testRunId : artifact.testRunId = some execution.testRunId
  patchDiff : artifact.patchDiff = execution.patchDiff
  patchHash : artifact.patchHash = hashPatch sha256 execution.patchDiff
  baseCommitSha :
    artifact.baseCommitSha = execution.workspace.baseCommitSha
  immutable : artifact.immutable = true

/-- The test row of an attempt says what the attempt says. -/
theorem testRows_records
    {sha256 : String → String}
    {runPk : String}
    {final : AgentState}
    {test : TestRun}
    {executions : List TestExecution}
    (recorded :
      ∀ attempt ∈ final.patchAttempts,
        attempt.testRunId ≠ none →
        ∃ execution ∈ executions, attempt.Records execution)
    (member : test ∈ testRows sha256 runPk final) :
    ∃ execution ∈ executions, test.Records sha256 execution := by
  obtain ⟨attempt, inAttempts, found⟩ := List.mem_filterMap.mp member
  obtain ⟨testRunId, named, rfl⟩ := Option.map_eq_some_iff.mp found
  obtain ⟨execution, inLog, records⟩ :=
    recorded attempt inAttempts (named ▸ nofun)
  have sameId : testRunId = execution.testRunId :=
    Option.some.inj (named.symm.trans records.testRunId)
  refine ⟨execution, inLog, sameId, ?_, records.testExitCode, ?_, ?_⟩
  · simp [records.testOk]
  · simp [records.patchDiff]
  · simp [records.baseCommitSha]

/-- An attempt that names a test has a test row. -/
theorem exists_testRow
    (sha256 : String → String)
    (runPk : String)
    {final : AgentState}
    {attempt : PatchAttempt}
    {testRunId : Uuid}
    (member : attempt ∈ final.patchAttempts)
    (named : attempt.testRunId = some testRunId) :
    ∃ row ∈ testRows sha256 runPk final, row.testRunId = testRunId :=
  ⟨_,
    List.mem_filterMap.mpr
      ⟨attempt, member,
        Option.map_eq_some_iff.mpr ⟨testRunId, named, rfl⟩⟩,
    rfl⟩

/-- A test row vouches for an artifact that its execution has passed for. -/
theorem TestRun.Records.vouches
    {sha256 : String → String}
    {test : TestRun}
    {artifact : PatchArtifact}
    {execution : TestExecution}
    (records : test.Records sha256 execution)
    (carries : artifact.Carries sha256 execution) :
    test.Vouches artifact := by
  refine ⟨?_, ?_, ?_, ?_⟩
  · rw [records.status, if_pos carries.passed]
  · rw [records.exitCode, carries.passed]
  · rw [records.patchHash, carries.patchHash]
  · rw [records.baseCommitSha, carries.baseCommitSha]

/--
The rows of a repair are as before, and a run that waits has waited with the
same result.
-/
structure Store.SparesRepair (before after : Store) : Prop where
  patchArtifacts : after.patchArtifacts = before.patchArtifacts
  testRuns : after.testRuns = before.testRuns
  waiting :
    after.run.status = .waitingApproval →
    before.run.status = .waitingApproval ∧
      after.run.result = before.run.result

namespace Store.SparesRepair

/-- A store spares its own repair. -/
theorem refl (store : Store) :
    store.SparesRepair store :=
  ⟨rfl, rfl, fun waits => ⟨waits, rfl⟩⟩

/-- A row that does not wait has nothing to spare. -/
theorem of_status
    {store : Store}
    {run : AgentRun}
    (other : run.status ≠ .waitingApproval) :
    store.SparesRepair (store.withRun run) :=
  ⟨rfl, rfl, fun waits => absurd waits other⟩

/-- A row with the same status and result spares the repair. -/
theorem of_same
    {store : Store}
    {run : AgentRun}
    (status : run.status = store.run.status)
    (result : run.result = store.run.result) :
    store.SparesRepair (store.withRun run) :=
  ⟨rfl, rfl, fun waits => ⟨status.symm.trans waits, result⟩⟩

end Store.SparesRepair

/-- A status change keeps the result that it does not replace. -/
theorem StatusChange.apply_result
    (change : StatusChange)
    (run : AgentRun) :
    (change.apply run).result = change.result.getD run.result := by
  unfold StatusChange.apply
  split <;> rfl

/-- What others do to a run behind the fence spares its repair. -/
theorem FencedWrite.apply_spares
    {write : FencedWrite}
    {claim : Option ClaimedRun}
    {current : Instant}
    {store after : Store}
    (foreign : (Transaction.fenced claim current write).Foreign store)
    (applied : write.apply store = .ok after) :
    store.SparesRepair after := by
  cases applies_of_apply applied with
  | check =>
      exact .refl _
  | markRunning active =>
      exact .of_status nofun
  | markStatus allowed same =>
      refine .of_status ?_
      rw [StatusChange.apply_status]
      rcases foreign with ⟨-, failed | handedOver⟩ | ⟨-, other⟩
      · rw [failed]
        nofun
      · rw [handedOver]
        nofun
      · exact other
  | progress =>
      exact .of_same rfl rfl
  | investigation inserted => exact foreign.elim
  | artifactFound => exact foreign.elim
  | artifactInserted inserted => exact foreign.elim
  | openSideEffect opened =>
      exact ⟨rfl, rfl, fun waits => ⟨waits, rfl⟩⟩
  | recordSideEffect recorded =>
      exact ⟨rfl, rfl, fun waits => ⟨waits, rfl⟩⟩

/-- What others do to a run spares its repair. -/
theorem Transaction.commitStore_spares
    {sha256 : String → String}
    {deployment : Deployment}
    {store after : Store}
    {transaction : Transaction}
    (foreign : transaction.Foreign store)
    (committed :
      transaction.commitStore sha256 deployment store = some after) :
    store.SparesRepair after := by
  cases commits_of_commitStore committed with
  | claimNextRun claimable =>
      exact .of_status nofun
  | renewLease sameRun running owner held attempt =>
      exact .of_same rfl rfl
  | retryClaim sameRun running owner held attempt =>
      refine .of_status ?_
      unfold AgentRun.retried
      split <;> nofun
  | releaseClaim sameRun owner attempt =>
      exact .of_same rfl rfl
  | expireExhaustedRuns exhausted =>
      exact .of_status nofun
  | @decide loadedResult request updatedAt decidedAt artifact approvals
      chosen waiting inserted =>
      refine ⟨rfl, rfl, fun waits => ?_⟩
      cases decision : request.decision <;>
        simp [AgentRun.decided, decision] at waits
  | fenced underClaim passed applied =>
      exact FencedWrite.apply_spares foreign applied

/-- What the artifact that is persisted leaves in the database. -/
structure Persisted
    (before after : WorkflowWorld)
    (artifact : PatchArtifactData)
    (persistedId : Uuid) : Prop where
  run : after.store.run = before.store.run
  testRuns : after.store.testRuns = before.store.testRuns
  thread : after.thread = before.thread
  nextId : after.nextId = before.nextId
  testExecutions : after.testExecutions = before.testExecutions
  rows :
    ∀ row,
      row ∈ after.store.patchArtifacts →
      row ∈ before.store.patchArtifacts ∨
        row = artifact.row before.store.run.id
  found :
    ∃ row,
      row ∈ after.store.patchArtifacts ∧
        row.runPk = before.store.run.id ∧
        row.patchArtifactId = persistedId ∧
        row.testRunId = artifact.testRunId

/-- An artifact is found by its hash and its test, or it is inserted. -/
theorem persisted_of_persistArtifact
    {setup : WorkflowSetup}
    {world after : WorkflowWorld}
    {claim : Option ClaimedRun}
    {current : Instant}
    {artifact : PatchArtifactData}
    {persistedId : Uuid}
    (persisted :
      world.persistArtifact setup claim current artifact =
        some (persistedId, after)) :
    Persisted world after artifact persistedId := by
  obtain ⟨committed, store, stored⟩ :=
    WorkflowWorld.persistArtifact_eq_some.mp persisted
  have wrote := WorkflowWorld.commitStore_of_commit committed
  obtain ⟨-, -, applied⟩ := Transaction.commitStore_eq_some.mp wrote
  simp only [FencedWrite.apply, stored] at applied
  obtain ⟨plane, -, rfl⟩ := WorkflowWorld.commit_eq_some.mp committed
  have sameStore : plane.store = store := (Except.ok.inj applied).symm
  have kept :
      plane.store.run = world.store.run ∧
        plane.store.testRuns = world.store.testRuns ∧
        (∀ row,
          row ∈ plane.store.patchArtifacts →
          row ∈ world.store.patchArtifacts ∨
            row = artifact.row world.store.run.id) ∧
        ∃ row,
          row ∈ plane.store.patchArtifacts ∧
            row.runPk = world.store.run.id ∧
            row.patchArtifactId = persistedId ∧
            row.testRunId = artifact.testRunId := by
    rw [sameStore]
    unfold persistPatchArtifactOnce at stored
    split at stored
    · rename_i existing query
      cases stored
      obtain ⟨member, wanted⟩ := UniqueTable.find_some query
      simp only [Bool.and_eq_true, decide_eq_true_eq] at wanted
      exact
        ⟨rfl, rfl, fun row => .inl,
          existing, member, wanted.1.1, rfl, wanted.2⟩
    · obtain ⟨table, inserted, written⟩ :=
        Except.bind_eq_ok.mp stored
      rw [insertOrRaise_eq_ok] at inserted
      cases written
      exact
        ⟨rfl, rfl, fun row =>
            (UniqueTable.mem_insert inserted row).mp,
          _, (UniqueTable.mem_insert inserted _).mpr (.inr rfl), rfl,
          rfl, rfl⟩
  obtain ⟨run, testRuns, rows, found⟩ := kept
  exact
    { run := run
      testRuns := testRuns
      thread := rfl
      nextId := rfl
      testExecutions := rfl
      rows := rows
      found := found }

end IncidentPilot
