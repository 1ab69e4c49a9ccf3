import IncidentPilot.ApprovalService

/-!
# Transactions behind the fence

Everything the worker writes while it executes a run goes through `fence` and
commits in the transaction that holds the fenced row.  `FencedWrite` lists what
such a transaction does after its fence.
-/

namespace IncidentPilot

/-- What `resume_after_approval` records about the external call. -/
inductive SideEffectOutcome where
  | completed (pullRequest : PullRequest)
  | failed (error : String)
  deriving Repr, DecidableEq

/--
The work of one transaction after its fence has passed.  An investigation is
written with the columns of the run that are sent at all.
-/
inductive FencedWrite where
  | check
  | markRunning
  | markStatus
      (previousStatus : AgentRunStatus)
      (change : StatusChange)
  | progress
      (workflowState : WorkflowState)
      (plan : List String)
      (toolCallCount : Nat)
  | investigation
      (testRuns : List TestRun)
      (plan : Option (List String))
      (toolCallCount patchAttemptCount : Option Nat)
  | patchArtifact (artifact : PatchArtifact)
  | openSideEffect (effectType idempotencyKey : String)
  | recordSideEffect
      (idempotencyKey : String)
      (outcome : SideEffectOutcome)
  deriving DecidableEq

/-- The store with another version of the followed row. -/
def Store.withRun (store : Store) (run : AgentRun) : Store :=
  { store with run := run }

@[simp] theorem Store.withRun_run
    (store : Store)
    (run : AgentRun) :
    (store.withRun run).run = run :=
  rfl

/-- A mapped computation succeeds with the image of a success. -/
theorem Except.map_eq_ok
    {Raised : Type u}
    {First Second : Type v}
    {change : First → Second}
    {computed : Except Raised First}
    {final : Second}
    (mapped : change <$> computed = .ok final) :
    ∃ middle, computed = .ok middle ∧ final = change middle := by
  cases computed with
  | error raised =>
      cases mapped
  | ok middle =>
      cases mapped
      exact ⟨middle, rfl, rfl⟩

/-- A sequenced computation succeeds when both of its parts do. -/
theorem Except.bind_eq_ok
    {Raised : Type u}
    {First Second : Type v}
    {computed : Except Raised First}
    {next : First → Except Raised Second}
    {final : Second} :
    (computed >>= next) = .ok final ↔
      ∃ middle, computed = .ok middle ∧ next middle = .ok final := by
  cases computed <;> simp [bind, Except.bind]

/-- An insertion whose unique constraint fails raises `IntegrityError`. -/
def insertOrRaise
    {Table : Type u}
    (inserted : Option Table) : Except RunError Table :=
  match inserted with
  | none => .error .integrity
  | some table => .ok table

@[simp] theorem insertOrRaise_eq_ok
    {Table : Type u}
    {inserted : Option Table}
    {table : Table} :
    insertOrRaise inserted = .ok table ↔ inserted = some table := by
  cases inserted <;> simp [insertOrRaise]

/--
The test rows `run_agent_workflow` inserts: those whose id the run does not
have yet.
-/
def newTestRuns
    (store : Store)
    (testRuns : List TestRun) : List TestRun :=
  testRuns.filter fun test =>
    store.testRuns.rows.all fun existing =>
      !(decide (existing.runPk = store.run.id) &&
        decide (existing.testRunId = test.testRunId))

/-- The artifact row a replayed export finds, if there is one. -/
def existingArtifact
    (store : Store)
    (artifact : PatchArtifact) : Option PatchArtifact :=
  store.patchArtifacts.find fun existing =>
    decide (existing.runPk = store.run.id) &&
      decide (existing.patchHash = artifact.patchHash) &&
      decide (existing.testRunId = artifact.testRunId)

/-- `_persist_patch_artifact_once` behind its fence, with the id it returns. -/
def persistPatchArtifactOnce
    (artifact : PatchArtifact)
    (store : Store) : Except RunError (Store × Uuid) :=
  match existingArtifact store artifact with
  | some existing => .ok (store, existing.patchArtifactId)
  | none => do
      let patchArtifacts ←
        insertOrRaise (store.patchArtifacts.insert artifact)
      .ok ({ store with patchArtifacts := patchArtifacts },
        artifact.patchArtifactId)

/-- The idempotency key of the pull request side effect. -/
def sideEffectKey (runId patchHash : String) : String :=
  "github_pr:" ++ runId ++ ":" ++ patchHash

/-- The side effect row with a given idempotency key. -/
def findSideEffect
    (store : Store)
    (idempotencyKey : String) : Option ExternalSideEffect :=
  store.sideEffects.find fun effect =>
    decide (effect.idempotencyKey = idempotencyKey)

/-- An update of the columns of a side effect outside its unique indexes. -/
def updateSideEffect
    (store : Store)
    (idempotencyKey : String)
    (status : SideEffectStatus)
    (attempts : Nat)
    (result : ExternalSideEffect → Option PullRequest)
    (error : ExternalSideEffect → Option String) : Store :=
  { store with
    sideEffects :=
      store.sideEffects.update
        (fun effect => decide (effect.idempotencyKey = idempotencyKey))
        (fun effect =>
          { effect with
            status := status
            attemptCount := effect.attemptCount + attempts
            result := result effect
            error := error effect })
        (fun _ _ => ⟨rfl, rfl⟩) }

/--
The side effect row is inserted, or opened for another attempt, before the
external call.
-/
def Store.openSideEffect
    (store : Store)
    (effectType idempotencyKey : String) : Except RunError Store :=
  match findSideEffect store idempotencyKey with
  | none => do
      let sideEffects ←
        insertOrRaise
          (store.sideEffects.insert
            { runPk := store.run.id
              effectType := effectType
              idempotencyKey := idempotencyKey
              status := .inProgress
              attemptCount := 1
              result := none
              error := none })
      .ok { store with sideEffects := sideEffects }
  | some _ =>
      .ok
        (updateSideEffect store idempotencyKey .inProgress 1
          (fun effect => effect.result)
          (fun effect => effect.error))

/-- The outcome of the external call is recorded in the side effect row. -/
def Store.recordSideEffect
    (store : Store)
    (idempotencyKey : String)
    (outcome : SideEffectOutcome) : Store :=
  match outcome with
  | .completed pullRequest =>
      updateSideEffect store idempotencyKey .completed 0
        (fun _ => some pullRequest)
        (fun _ => none)
  | .failed error =>
      updateSideEffect store idempotencyKey .failed 0
        (fun effect => effect.result)
        (fun _ => some error)

/-- The transaction's work on the store. -/
def FencedWrite.apply
    (store : Store) : FencedWrite → Except RunError Store
  | .check => .ok store
  | .markRunning => store.withRun <$> setRunning store.run
  | .markStatus previousStatus change =>
      store.withRun <$> setStatus previousStatus change store.run
  | .progress workflowState plan toolCallCount =>
      .ok
        (store.withRun
          { store.run with
            workflowState := workflowState
            plan := plan
            toolCallCount := toolCallCount })
  | .investigation testRuns plan toolCallCount patchAttemptCount => do
      let testRuns ←
        insertOrRaise
          (store.testRuns.insertAll (newTestRuns store testRuns))
      .ok
        { store with
          run :=
            { store.run with
              plan := plan.getD store.run.plan
              toolCallCount :=
                toolCallCount.getD store.run.toolCallCount
              patchAttemptCount :=
                patchAttemptCount.getD store.run.patchAttemptCount }
          testRuns := testRuns }
  | .patchArtifact artifact =>
      Prod.fst <$> persistPatchArtifactOnce artifact store
  | .openSideEffect effectType idempotencyKey =>
      store.openSideEffect effectType idempotencyKey
  | .recordSideEffect idempotencyKey outcome =>
      .ok (store.recordSideEffect idempotencyKey outcome)

/-- A transaction that fences the run and then does its work. -/
def fencedTransaction
    (currentClaim : Option ClaimedRun)
    (current : Instant)
    (write : FencedWrite)
    (store : Store) : Except RunError Store := do
  fence currentClaim current store.run
  write.apply store

/-- A fenced transaction commits when its fence passes and its work does. -/
theorem fencedTransaction_eq_ok
    {currentClaim : Option ClaimedRun}
    {current : Instant}
    {write : FencedWrite}
    {store after : Store} :
    fencedTransaction currentClaim current write store = .ok after ↔
      fence currentClaim current store.run = .ok () ∧
        write.apply store = .ok after := by
  unfold fencedTransaction
  rw [Except.bind_eq_ok]
  constructor
  · rintro ⟨⟨⟩, passed, applied⟩
    exact ⟨passed, applied⟩
  · rintro ⟨passed, applied⟩
    exact ⟨(), passed, applied⟩

/-- A row whose identity and attempt are kept and whose owner is kept or cleared. -/
structure AgentRun.SameAttempt (before after : AgentRun) : Prop where
  id : after.id = before.id
  runId : after.runId = before.runId
  attemptCount : after.attemptCount = before.attemptCount
  owner : after.workerId = before.workerId ∨ after.workerId = none

/-- A row keeps its own attempt. -/
theorem AgentRun.SameAttempt.refl (run : AgentRun) :
    run.SameAttempt run :=
  ⟨rfl, rfl, rfl, .inl rfl⟩

/-- A status change keeps the attempt. -/
theorem StatusChange.apply_sameAttempt
    (change : StatusChange)
    (run : AgentRun) :
    run.SameAttempt (change.apply run) := by
  unfold StatusChange.apply
  split
  · exact ⟨rfl, rfl, rfl, .inr rfl⟩
  · exact ⟨rfl, rfl, rfl, .inl rfl⟩

/-- Inserting test rows changes no other table. -/
theorem FencedWrite.apply_investigation
    {store after : Store}
    {testRuns : List TestRun}
    {plan : Option (List String)}
    {toolCallCount patchAttemptCount : Option Nat} :
    (FencedWrite.investigation testRuns plan toolCallCount
          patchAttemptCount).apply store = .ok after ↔
      ∃ table,
        store.testRuns.insertAll (newTestRuns store testRuns) =
            some table ∧
          after =
            { store with
              run :=
                { store.run with
                  plan := plan.getD store.run.plan
                  toolCallCount :=
                    toolCallCount.getD store.run.toolCallCount
                  patchAttemptCount :=
                    patchAttemptCount.getD store.run.patchAttemptCount }
              testRuns := table } := by
  simp only [FencedWrite.apply, Except.bind_eq_ok, insertOrRaise_eq_ok,
    Except.ok.injEq]
  constructor
  · rintro ⟨table, inserted, rfl⟩
    exact ⟨table, inserted, rfl⟩
  · rintro ⟨table, inserted, rfl⟩
    exact ⟨table, inserted, rfl⟩

/-- An artifact is found, or it is inserted. -/
theorem FencedWrite.apply_patchArtifact
    {store after : Store}
    {artifact : PatchArtifact}
    (applied : (FencedWrite.patchArtifact artifact).apply store = .ok after) :
    after = store ∨
      ∃ table,
        store.patchArtifacts.insert artifact = some table ∧
          after = { store with patchArtifacts := table } := by
  simp only [FencedWrite.apply, persistPatchArtifactOnce] at applied
  obtain ⟨⟨middle, id⟩, persisted, rfl⟩ := Except.map_eq_ok applied
  split at persisted
  · cases persisted
    exact .inl rfl
  · obtain ⟨table, inserted, written⟩ := Except.bind_eq_ok.mp persisted
    cases written
    exact .inr ⟨table, insertOrRaise_eq_ok.mp inserted, rfl⟩

/-- The side effect query finds exactly the row with that key. -/
theorem findSideEffect_eq_some_iff
    {store : Store}
    {idempotencyKey : String}
    {effect : ExternalSideEffect} :
    findSideEffect store idempotencyKey = some effect ↔
      effect ∈ store.sideEffects ∧
        effect.idempotencyKey = idempotencyKey := by
  unfold findSideEffect
  rw [UniqueTable.find_eq_some_iff]
  · simp
  · intro first second firstMatches secondMatches
    simp only [decide_eq_true_eq] at firstMatches secondMatches
    simp [ExternalSideEffect.conflicts, firstMatches, secondMatches]

/-- Side effects that conflict are one row. -/
theorem sideEffect_unique
    {store : Store}
    {first second : ExternalSideEffect}
    (firstMember : first ∈ store.sideEffects)
    (secondMember : second ∈ store.sideEffects)
    (clash :
      first.idempotencyKey = second.idempotencyKey ∨
        first.runPk = second.runPk ∧
          first.effectType = second.effectType) :
    first = second := by
  refine UniqueTable.eq_of_conflict ?_ firstMember secondMember ?_
  · intro left right
    simp only [ExternalSideEffect.conflicts, eq_comm]
  · simpa [ExternalSideEffect.conflicts] using clash

/-- The rows of an updated side effect table. -/
theorem mem_updateSideEffect
    {store : Store}
    {idempotencyKey : String}
    {status : SideEffectStatus}
    {attempts : Nat}
    {result : ExternalSideEffect → Option PullRequest}
    {error : ExternalSideEffect → Option String}
    {row : ExternalSideEffect} :
    row ∈
        (updateSideEffect store idempotencyKey status attempts result
          error).sideEffects ↔
      ∃ old,
        old ∈ store.sideEffects ∧
          row =
            if old.idempotencyKey = idempotencyKey then
              { old with
                status := status
                attemptCount := old.attemptCount + attempts
                result := result old
                error := error old }
            else old := by
  unfold updateSideEffect
  simp only [UniqueTable.mem_update, decide_eq_true_eq]

/-- A side effect is inserted in progress, or it is put back in progress. -/
theorem Store.openSideEffect_cases
    {store after : Store}
    {effectType idempotencyKey : String}
    (opened :
      store.openSideEffect effectType idempotencyKey = .ok after) :
    (findSideEffect store idempotencyKey = none ∧
        ∃ table,
          store.sideEffects.insert
              ⟨store.run.id, effectType, idempotencyKey, .inProgress, 1,
                none, none⟩ =
            some table ∧
          after = { store with sideEffects := table }) ∨
      ∃ effect,
        findSideEffect store idempotencyKey = some effect ∧
          after =
            updateSideEffect store idempotencyKey .inProgress 1
              (fun row => row.result)
              (fun row => row.error) := by
  unfold Store.openSideEffect at opened
  split at opened
  · rename_i absent
    obtain ⟨table, inserted, written⟩ := Except.bind_eq_ok.mp opened
    cases written
    exact .inl ⟨absent, table, insertOrRaise_eq_ok.mp inserted, rfl⟩
  · rename_i effect found
    cases opened
    exact .inr ⟨effect, found, rfl⟩

/-- Opening a side effect changes no other table. -/
theorem Store.openSideEffect_eq_ok
    {store after : Store}
    {effectType idempotencyKey : String}
    (opened :
      store.openSideEffect effectType idempotencyKey = .ok after) :
    ∃ table, after = { store with sideEffects := table } := by
  rcases Store.openSideEffect_cases opened with
      ⟨-, table, -, written⟩ | ⟨effect, -, written⟩
  · exact ⟨table, written⟩
  · exact ⟨_, written⟩

/-- Recording a side effect changes no other table. -/
theorem Store.recordSideEffect_eq
    (store : Store)
    (idempotencyKey : String)
    (outcome : SideEffectOutcome) :
    ∃ table,
      store.recordSideEffect idempotencyKey outcome =
        { store with sideEffects := table } := by
  cases outcome <;> exact ⟨_, rfl⟩

/-- What a write found in a store it is applied to, and how it left it. -/
inductive FencedWrite.Applies
    (store : Store) : FencedWrite → Store → Prop where
  | check : Applies store .check store
  | markRunning
      (active :
        store.run.status = .pending ∨ store.run.status = .running) :
      Applies store .markRunning
        (store.withRun { store.run with status := .running })
  | markStatus
      {previousStatus : AgentRunStatus}
      {change : StatusChange}
      (allowed : change.status ∈ runTransitions previousStatus)
      (same : store.run.status = previousStatus) :
      Applies store (.markStatus previousStatus change)
        (store.withRun (change.apply store.run))
  | progress
      {workflowState : WorkflowState}
      {plan : List String}
      {toolCallCount : Nat} :
      Applies store (.progress workflowState plan toolCallCount)
        (store.withRun
          { store.run with
            workflowState := workflowState
            plan := plan
            toolCallCount := toolCallCount })
  | investigation
      {testRuns : List TestRun}
      {plan : Option (List String)}
      {toolCallCount patchAttemptCount : Option Nat}
      {table : UniqueTable TestRun TestRun.conflicts}
      (inserted :
        store.testRuns.insertAll (newTestRuns store testRuns) =
          some table) :
      Applies store
        (.investigation testRuns plan toolCallCount patchAttemptCount)
        { store with
          run :=
            { store.run with
              plan := plan.getD store.run.plan
              toolCallCount :=
                toolCallCount.getD store.run.toolCallCount
              patchAttemptCount :=
                patchAttemptCount.getD store.run.patchAttemptCount }
          testRuns := table }
  | artifactFound
      {artifact : PatchArtifact} :
      Applies store (.patchArtifact artifact) store
  | artifactInserted
      {artifact : PatchArtifact}
      {table : UniqueTable PatchArtifact PatchArtifact.conflicts}
      (inserted : store.patchArtifacts.insert artifact = some table) :
      Applies store (.patchArtifact artifact)
        { store with patchArtifacts := table }
  | openSideEffect
      {effectType idempotencyKey : String}
      {table : UniqueTable ExternalSideEffect ExternalSideEffect.conflicts}
      (opened :
        store.openSideEffect effectType idempotencyKey =
          .ok { store with sideEffects := table }) :
      Applies store (.openSideEffect effectType idempotencyKey)
        { store with sideEffects := table }
  | recordSideEffect
      {idempotencyKey : String}
      {outcome : SideEffectOutcome}
      {table : UniqueTable ExternalSideEffect ExternalSideEffect.conflicts}
      (recorded :
        store.recordSideEffect idempotencyKey outcome =
          { store with sideEffects := table }) :
      Applies store (.recordSideEffect idempotencyKey outcome)
        { store with sideEffects := table }

/-- A write that succeeds found what it looks for. -/
theorem FencedWrite.applies_of_apply
    {write : FencedWrite}
    {store after : Store}
    (applied : write.apply store = .ok after) :
    Applies store write after := by
  cases write with
  | check =>
      cases applied
      exact .check
  | markRunning =>
      obtain ⟨run, updated, rfl⟩ := Except.map_eq_ok applied
      obtain ⟨active, rfl⟩ := setRunning_eq_ok.mp updated
      exact .markRunning active
  | markStatus previousStatus change =>
      obtain ⟨run, updated, rfl⟩ := Except.map_eq_ok applied
      obtain ⟨allowed, same, rfl⟩ := setStatus_eq_ok.mp updated
      exact .markStatus allowed same
  | progress workflowState plan toolCallCount =>
      cases applied
      exact .progress
  | investigation testRuns plan toolCallCount patchAttemptCount =>
      obtain ⟨table, inserted, rfl⟩ :=
        FencedWrite.apply_investigation.mp applied
      exact .investigation inserted
  | patchArtifact artifact =>
      rcases FencedWrite.apply_patchArtifact applied with
          rfl | ⟨table, inserted, rfl⟩
      · exact .artifactFound
      · exact .artifactInserted inserted
  | openSideEffect effectType idempotencyKey =>
      obtain ⟨table, rfl⟩ := Store.openSideEffect_eq_ok applied
      exact .openSideEffect applied
  | recordSideEffect idempotencyKey outcome =>
      cases applied
      obtain ⟨table, same⟩ :=
        store.recordSideEffect_eq idempotencyKey outcome
      rw [same]
      exact .recordSideEffect same

/--
Behind the fence the attempt stays, the insert-only tables grow, and no
approval is written.
-/
structure Store.Executes (before after : Store) : Prop where
  attempt : before.run.SameAttempt after.run
  approvals : after.approvals = before.approvals
  patchArtifacts : before.patchArtifacts.Extends after.patchArtifacts
  testRuns : before.testRuns.Extends after.testRuns

/-- A store that executes grows. -/
theorem Store.Executes.grows
    {before after : Store}
    (executes : before.Executes after) :
    before.Grows after where
  sameRun := executes.attempt.id
  approvals := by
    rw [executes.approvals]
    exact .refl _
  patchArtifacts := executes.patchArtifacts
  testRuns := executes.testRuns

/-- Every fenced write only executes. -/
theorem FencedWrite.apply_executes
    {write : FencedWrite}
    {store after : Store}
    (applied : write.apply store = .ok after) :
    store.Executes after := by
  cases applies_of_apply applied with
  | check =>
      exact ⟨.refl _, rfl, .refl _, .refl _⟩
  | markRunning active =>
      exact ⟨⟨rfl, rfl, rfl, .inl rfl⟩, rfl, .refl _, .refl _⟩
  | @markStatus previousStatus change allowed same =>
      exact
        ⟨change.apply_sameAttempt store.run, rfl, .refl _, .refl _⟩
  | progress =>
      exact ⟨⟨rfl, rfl, rfl, .inl rfl⟩, rfl, .refl _, .refl _⟩
  | investigation inserted =>
      exact
        ⟨⟨rfl, rfl, rfl, .inl rfl⟩, rfl, .refl _,
          UniqueTable.insertAll_extends inserted⟩
  | artifactFound =>
      exact ⟨.refl _, rfl, .refl _, .refl _⟩
  | artifactInserted inserted =>
      exact
        ⟨.refl _, rfl, UniqueTable.insert_extends inserted, .refl _⟩
  | openSideEffect opened =>
      exact ⟨.refl _, rfl, .refl _, .refl _⟩
  | recordSideEffect recorded =>
      exact ⟨.refl _, rfl, .refl _, .refl _⟩

end IncidentPilot
