import IncidentPilot.RunJobs

/-!
# Validated artifacts and the approval decision

`services/artifacts.py` and `ApprovalService.decide`.  The digest function of
`hashlib` stays a parameter, since nothing here depends on which one it is.
-/

namespace IncidentPilot

/-- `hash_patch`. -/
def hashPatch (sha256 : String → String) (diff : String) : String :=
  sha256 diff

/-- The artifact query of `validated_artifact`. -/
def findArtifact
    (store : Store)
    (artifactId : Option Uuid) : Option PatchArtifact :=
  store.patchArtifacts.find fun artifact =>
    decide (artifact.runPk = store.run.id) &&
      decide (some artifact.patchArtifactId = artifactId)

/-- The test query of `validated_artifact`. -/
def findTest
    (store : Store)
    (testRunId : Option Uuid) : Option TestRun :=
  store.testRuns.find fun test =>
    decide (test.runPk = store.run.id) &&
      decide (some test.testRunId = testRunId)

/-- The test has passed on exactly the diff and base of the artifact. -/
def TestRun.Vouches (test : TestRun) (artifact : PatchArtifact) : Prop :=
  test.status = .passed ∧
    test.exitCode = some 0 ∧
    test.patchHash = artifact.patchHash ∧
    test.baseCommitSha = artifact.baseCommitSha

instance
    (test : TestRun)
    (artifact : PatchArtifact) :
    Decidable (test.Vouches artifact) :=
  inferInstanceAs (Decidable (_ ∧ _))

/--
`validated_artifact`, given the `result` of the `AgentRun` object it was called
with.  The error is the text of the `ValueError`.
-/
def validatedArtifact
    (sha256 : String → String)
    (store : Store)
    (loadedResult : RunResult)
    (artifactId : Option Uuid) : Except String PatchArtifact :=
  match findArtifact store (artifactId.or loadedResult.patchArtifactId) with
  | none =>
      .error "immutable artifact missing or belongs to another run"
  | some artifact =>
      if artifact.immutable = false then
        .error "immutable artifact missing or belongs to another run"
      else if hashPatch sha256 artifact.patchDiff ≠ artifact.patchHash then
        .error "artifact patch hash mismatch"
      else
        match findTest store artifact.testRunId with
        | none =>
            .error "artifact has no matching successful test"
        | some test =>
            if test.Vouches artifact then
              .ok artifact
            else
              .error "artifact has no matching successful test"

/-- `binding`. -/
def binding (artifact : PatchArtifact) : Binding where
  patchArtifactId := artifact.patchArtifactId
  patchHash := artifact.patchHash
  baseCommitSha := artifact.baseCommitSha
  testRunId := artifact.testRunId

/-- An artifact of this run that its hash and its test vouch for. -/
structure Validated
    (sha256 : String → String)
    (store : Store)
    (artifact : PatchArtifact) : Prop where
  member : artifact ∈ store.patchArtifacts
  ownRun : artifact.runPk = store.run.id
  immutable : artifact.immutable = true
  hashed : hashPatch sha256 artifact.patchDiff = artifact.patchHash
  tested :
    ∃ test,
      test ∈ store.testRuns ∧
        test.runPk = store.run.id ∧
        some test.testRunId = artifact.testRunId ∧
        test.Vouches artifact

/-- The artifact query finds exactly the row with that key in this run. -/
theorem findArtifact_eq_some_iff
    {store : Store}
    {artifactId : Option Uuid}
    {artifact : PatchArtifact} :
    findArtifact store artifactId = some artifact ↔
      artifact ∈ store.patchArtifacts ∧
        artifact.runPk = store.run.id ∧
        some artifact.patchArtifactId = artifactId := by
  unfold findArtifact
  rw [UniqueTable.find_eq_some_iff]
  · simp
  · intro first second firstMatches secondMatches
    simp only [Bool.and_eq_true, decide_eq_true_eq]
      at firstMatches secondMatches
    have sameId := firstMatches.2.trans secondMatches.2.symm
    simpa [PatchArtifact.conflicts] using sameId

/-- The test query finds exactly the row with that key in this run. -/
theorem findTest_eq_some_iff
    {store : Store}
    {testRunId : Option Uuid}
    {test : TestRun} :
    findTest store testRunId = some test ↔
      test ∈ store.testRuns ∧
        test.runPk = store.run.id ∧
        some test.testRunId = testRunId := by
  unfold findTest
  rw [UniqueTable.find_eq_some_iff]
  · simp
  · intro first second firstMatches secondMatches
    simp only [Bool.and_eq_true, decide_eq_true_eq]
      at firstMatches secondMatches
    have sameId := firstMatches.2.trans secondMatches.2.symm
    simpa [TestRun.conflicts] using sameId

/-- `validated_artifact` returns exactly the validated artifact it is asked for. -/
theorem validatedArtifact_eq_ok
    {sha256 : String → String}
    {store : Store}
    {loadedResult : RunResult}
    {artifactId : Option Uuid}
    {artifact : PatchArtifact} :
    validatedArtifact sha256 store loadedResult artifactId =
        .ok artifact ↔
      Validated sha256 store artifact ∧
        some artifact.patchArtifactId =
          artifactId.or loadedResult.patchArtifactId := by
  constructor
  · intro accepted
    unfold validatedArtifact at accepted
    split at accepted
    · cases accepted
    · rename_i found query
      obtain ⟨member, ownRun, named⟩ :=
        findArtifact_eq_some_iff.mp query
      split at accepted
      · cases accepted
      · rename_i immutable
        split at accepted
        · cases accepted
        · rename_i hashed
          split at accepted
          · cases accepted
          · rename_i test testQuery
            obtain ⟨testMember, testRun, testNamed⟩ :=
              findTest_eq_some_iff.mp testQuery
            split at accepted
            · rename_i vouches
              cases accepted
              exact
                ⟨⟨member, ownRun, Bool.not_eq_false _ ▸ immutable,
                    Classical.not_not.mp hashed,
                    test, testMember, testRun, testNamed, vouches⟩,
                  named⟩
            · cases accepted
  · rintro ⟨validated, named⟩
    obtain ⟨test, testMember, testRun, testNamed, vouches⟩ :=
      validated.tested
    have query :
        findArtifact store (artifactId.or loadedResult.patchArtifactId) =
          some artifact :=
      findArtifact_eq_some_iff.mpr
        ⟨validated.member, validated.ownRun, named⟩
    have testQuery : findTest store artifact.testRunId = some test :=
      findTest_eq_some_iff.mpr ⟨testMember, testRun, testNamed⟩
    unfold validatedArtifact
    simp [query, validated.immutable, validated.hashed, testQuery,
      vouches]

/-- The run and every row of the insert-only tables of a store are kept. -/
structure Store.Grows (earlier later : Store) : Prop where
  sameRun : later.run.id = earlier.run.id
  approvals : earlier.approvals.Extends later.approvals
  patchArtifacts : earlier.patchArtifacts.Extends later.patchArtifacts
  testRuns : earlier.testRuns.Extends later.testRuns

namespace Store.Grows

/-- A store keeps its own rows. -/
theorem refl (store : Store) :
    store.Grows store :=
  ⟨rfl, .refl _, .refl _, .refl _⟩

/-- Rows kept twice are kept. -/
theorem trans
    {first second third : Store}
    (left : first.Grows second)
    (right : second.Grows third) :
    first.Grows third where
  sameRun := right.sameRun.trans left.sameRun
  approvals := left.approvals.trans right.approvals
  patchArtifacts := left.patchArtifacts.trans right.patchArtifacts
  testRuns := left.testRuns.trans right.testRuns

/-- A validated artifact stays validated. -/
theorem validated
    {sha256 : String → String}
    {earlier later : Store}
    {artifact : PatchArtifact}
    (grows : earlier.Grows later)
    (valid : Validated sha256 earlier artifact) :
    Validated sha256 later artifact where
  member := grows.patchArtifacts artifact valid.member
  ownRun := valid.ownRun.trans grows.sameRun.symm
  immutable := valid.immutable
  hashed := valid.hashed
  tested := by
    obtain ⟨test, member, ownRun, named, vouches⟩ := valid.tested
    exact
      ⟨test, grows.testRuns test member,
        ownRun.trans grows.sameRun.symm, named, vouches⟩

end Store.Grows

/-- The arguments of `ApprovalService.decide` after the run. -/
structure DecisionRequest where
  decision : ApprovalDecision
  actor : String
  reason : String
  patchArtifactId : Option Uuid
  patchHash : Option String
  deriving Repr, DecidableEq

/-- The values the `UPDATE` of `decide` writes. -/
def AgentRun.decided
    (run : AgentRun)
    (decision : ApprovalDecision)
    (utcnow : Instant) : AgentRun :=
  { run with
    status :=
      match decision with
      | .reject => .needsHumanIntervention
      | .approve => .pending
    workflowState :=
      match decision with
      | .reject => .needsHumanIntervention
      | .approve => .createPullRequest
    workerId := none
    lastHeartbeatAt := none
    leaseExpiresAt := none
    nextAttemptAt :=
      match decision with
      | .reject => none
      | .approve => some utcnow }

/-- The `Approval` row of a decision on an artifact. -/
def DecisionRequest.approval
    (request : DecisionRequest)
    (runPk : String)
    (artifact : PatchArtifact)
    (utcnow : Instant) : Approval where
  runPk := runPk
  patchArtifactId := some artifact.patchArtifactId
  decision := request.decision
  actor := request.actor
  reason := request.reason
  payload := binding artifact
  decidedAt := utcnow

/-- The artifact a decision is about; the error is a conflict. -/
def DecisionRequest.artifact
    (sha256 : String → String)
    (store : Store)
    (loadedResult : RunResult)
    (request : DecisionRequest) : Except String PatchArtifact :=
  match
    validatedArtifact sha256 store loadedResult
      request.patchArtifactId with
  | .error message => .error message
  | .ok artifact =>
      if request.patchHash.any fun hash => hash ≠ artifact.patchHash then
        .error "approval patch hash mismatch"
      else
        .ok artifact

/--
`ApprovalService.decide`: the error is the text of the `ApprovalConflict`, and
nothing is committed then.
-/
def ApprovalService.decide
    (sha256 : String → String)
    (loadedResult : RunResult)
    (request : DecisionRequest)
    (updatedAt decidedAt : Instant)
    (store : Store) : Except String Store :=
  match request.artifact sha256 store loadedResult with
  | .error message => .error message
  | .ok artifact =>
      if store.run.status ≠ .waitingApproval then
        .error "approval was already decided"
      else
        match
          store.approvals.insert
            (request.approval store.run.id artifact decidedAt) with
        | none => .error "approval was already decided"
        | some approvals =>
            .ok
              { store with
                run := store.run.decided request.decision updatedAt
                approvals := approvals }

/-- What a committed decision checked and wrote. -/
theorem ApprovalService.decide_eq_ok
    {sha256 : String → String}
    {loadedResult : RunResult}
    {request : DecisionRequest}
    {updatedAt decidedAt : Instant}
    {store after : Store} :
    ApprovalService.decide sha256 loadedResult request updatedAt
        decidedAt store = .ok after ↔
      ∃ artifact approvals,
        request.artifact sha256 store loadedResult = .ok artifact ∧
          store.run.status = .waitingApproval ∧
          store.approvals.insert
              (request.approval store.run.id artifact decidedAt) =
            some approvals ∧
          after =
            { store with
              run := store.run.decided request.decision updatedAt
              approvals := approvals } := by
  unfold ApprovalService.decide
  cases chosen : request.artifact sha256 store loadedResult with
  | error message =>
      simp
  | ok artifact =>
      by_cases waiting : store.run.status = .waitingApproval
      · cases inserted :
            store.approvals.insert
              (request.approval store.run.id artifact decidedAt) with
        | none =>
            simp [waiting, inserted]
        | some approvals =>
            simp [waiting, inserted, eq_comm]
      · simp [waiting]

end IncidentPilot
