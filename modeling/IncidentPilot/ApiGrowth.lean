import IncidentPilot.ApiService

/-!
# What the control plane keeps

No step of a caller or of a worker removes a row, changes an incident, or moves
a run to another incident.
-/

namespace IncidentPilot

/-- A status change leaves a run with its incident. -/
theorem StatusChange.apply_incidentPk
    (change : StatusChange)
    (run : AgentRun) :
    (change.apply run).incidentPk = run.incidentPk := by
  unfold StatusChange.apply
  split <;> rfl

/-- A fenced write leaves a run with its incident. -/
theorem FencedWrite.apply_incidentPk
    {write : FencedWrite}
    {store after : Store}
    (applied : write.apply store = .ok after) :
    after.run.incidentPk = store.run.incidentPk := by
  cases applies_of_apply applied with
  | markStatus allowed same =>
      exact StatusChange.apply_incidentPk _ _
  | _ =>
      rfl

/-- A transaction leaves a run with its incident. -/
theorem Transaction.commitStore_incidentPk
    {sha256 : String → String}
    {deployment : Deployment}
    {store after : Store}
    {transaction : Transaction}
    (committed :
      transaction.commitStore sha256 deployment store = some after) :
    after.run.incidentPk = store.run.incidentPk := by
  cases commits_of_commitStore committed with
  | retryClaim sameRun running owner held attempt =>
      rw [Store.withRun_run]
      unfold AgentRun.retried
      split <;> rfl
  | fenced underClaim passed applied =>
      exact FencedWrite.apply_incidentPk applied
  | _ =>
      rfl

/-- Every run of a table is in another one, with its incident. -/
def RunsKept
    (before after : UniqueTable AgentRun AgentRun.conflicts) : Prop :=
  ∀ run, run ∈ before →
    ∃ later,
      later ∈ after ∧
        later.id = run.id ∧
        later.runId = run.runId ∧
        later.incidentPk = run.incidentPk

namespace RunsKept

/-- A table keeps its own runs. -/
theorem refl (table : UniqueTable AgentRun AgentRun.conflicts) :
    RunsKept table table :=
  fun run member => ⟨run, member, rfl, rfl, rfl⟩

/-- Runs kept twice are kept. -/
theorem trans
    {first second third : UniqueTable AgentRun AgentRun.conflicts}
    (left : RunsKept first second)
    (right : RunsKept second third) :
    RunsKept first third := by
  intro run member
  obtain ⟨middle, inMiddle, sameId, sameRunId, samePk⟩ := left run member
  obtain ⟨later, inThird, laterId, laterRunId, laterPk⟩ :=
    right middle inMiddle
  exact
    ⟨later, inThird, laterId.trans sameId, laterRunId.trans sameRunId,
      laterPk.trans samePk⟩

end RunsKept

/-- What every step of the control plane keeps. -/
structure ApiWorld.Grows (before after : ApiWorld) : Prop where
  incidents : before.database.incidents.Extends after.database.incidents
  runs : RunsKept before.database.runs after.database.runs
  approvals : before.database.approvals.Extends after.database.approvals
  patchArtifacts :
    before.database.patchArtifacts.Extends after.database.patchArtifacts
  testRuns : before.database.testRuns.Extends after.database.testRuns
  toolCalls : before.tables.toolCalls.Extends after.tables.toolCalls
  evidence : before.tables.evidence.Extends after.tables.evidence
  received : ∀ call ∈ before.received, call ∈ after.received

namespace ApiWorld.Grows

/-- A world keeps what it has. -/
theorem refl (world : ApiWorld) : world.Grows world where
  incidents := .refl _
  runs := .refl _
  approvals := .refl _
  patchArtifacts := .refl _
  testRuns := .refl _
  toolCalls := .refl _
  evidence := .refl _
  received _ member := member

/-- What is kept twice is kept. -/
theorem trans
    {first second third : ApiWorld}
    (left : first.Grows second)
    (right : second.Grows third) :
    first.Grows third where
  incidents := left.incidents.trans right.incidents
  runs := left.runs.trans right.runs
  approvals := left.approvals.trans right.approvals
  patchArtifacts := left.patchArtifacts.trans right.patchArtifacts
  testRuns := left.testRuns.trans right.testRuns
  toolCalls := left.toolCalls.trans right.toolCalls
  evidence := left.evidence.trans right.evidence
  received call member := right.received call (left.received call member)

end ApiWorld.Grows

/-- What a query for a primary key finds. -/
theorem Database.runOf_eq_some
    {database : Database}
    {pk : String}
    {row : AgentRun}
    (found : database.runOf pk = some row) :
    row ∈ database.runs ∧ row.id = pk := by
  obtain ⟨member, named⟩ := UniqueTable.find_some found
  exact ⟨member, of_decide_eq_true named⟩

/-- Two runs with one primary key are one row. -/
theorem Database.run_eq_of_id
    {database : Database}
    {first second : AgentRun}
    (firstMember : first ∈ database.runs)
    (secondMember : second ∈ database.runs)
    (same : first.id = second.id) :
    first = second := by
  refine UniqueTable.eq_of_conflict ?_ firstMember secondMember ?_
  · intro left right
    simp [AgentRun.conflicts, eq_comm]
  · simp [AgentRun.conflicts, same]

/-- The runs after a transaction: the run it wrote, and the others as before. -/
theorem Database.mem_withStore_runs
    {database : Database}
    {runPk : String}
    {row run : AgentRun}
    {store : Store}
    (found : database.runOf runPk = some row) :
    run ∈ (database.withStore runPk store).runs ↔
      run = store.rewrite row ∨
        run ∈ database.runs ∧ run.id ≠ runPk := by
  obtain ⟨inTable, named⟩ := runOf_eq_some found
  change
    run ∈
        database.runs.update (fun run => decide (run.id = runPk))
          store.rewrite store.rewrite_keeps ↔
      _
  rw [UniqueTable.mem_update]
  constructor
  · rintro ⟨old, member, rfl⟩
    by_cases isRun : old.id = runPk
    · have same : old = row :=
        run_eq_of_id member inTable (isRun.trans named.symm)
      subst same
      exact .inl (by simp [isRun])
    · simp [isRun, member]
  · rintro (rfl | ⟨member, other⟩)
    · exact ⟨row, inTable, by simp [named]⟩
    · exact ⟨run, member, by simp [other]⟩

/-- A transaction that keeps a run's incident makes the world grow. -/
theorem ApiWorld.grows_withStore
    {world : ApiWorld}
    {runPk : String}
    {row : AgentRun}
    {store : Store}
    (found : world.database.runOf runPk = some row)
    (grows : (world.database.storeOf row).Grows store)
    (sameIncident : store.run.incidentPk = row.incidentPk) :
    world.Grows (world.withStore runPk store) where
  incidents := .refl _
  runs := by
    intro run member
    by_cases isRun : run.id = runPk
    · obtain ⟨inTable, named⟩ := Database.runOf_eq_some found
      have same : run = row :=
        Database.run_eq_of_id member inTable (isRun.trans named.symm)
      subst same
      exact
        ⟨store.rewrite run,
          (Database.mem_withStore_runs found).mpr (.inl rfl), rfl, rfl,
          sameIncident⟩
    · exact
        ⟨run, (Database.mem_withStore_runs found).mpr (.inr ⟨member, isRun⟩),
          rfl, rfl, rfl⟩
  approvals := grows.approvals
  patchArtifacts := grows.patchArtifacts
  testRuns := grows.testRuns
  toolCalls := .refl _
  evidence := .refl _
  received _ member := member

/-- What a persisted state leaves extends both tables. -/
theorem InvestigationTables.persist_extends
    {sha256 : String → String}
    {runPk : String}
    {final : AgentState}
    {tables after : InvestigationTables}
    (persisted : tables.persist sha256 runPk final = some after) :
    tables.toolCalls.Extends after.toolCalls ∧
      tables.evidence.Extends after.evidence := by
  obtain ⟨toolCalls, callsInserted, rest⟩ :=
    Option.bind_eq_some_iff.mp persisted
  obtain ⟨evidence, evidenceInserted, shape⟩ :=
    Option.bind_eq_some_iff.mp rest
  cases shape
  exact
    ⟨UniqueTable.insertAll_extends callsInserted,
      UniqueTable.insertAll_extends evidenceInserted⟩

/-- The workers make the control plane grow. -/
theorem WorkersWrite.grows
    {sha256 : String → String}
    {deployment : Deployment}
    {before after : ApiWorld}
    (writes : WorkersWrite sha256 deployment before after) :
    before.Grows after := by
  cases writes with
  | transaction transaction undecided found committed =>
      exact
        ApiWorld.grows_withStore found
          (Transaction.commitStore_grows committed)
          (Transaction.commitStore_incidentPk committed)
  | persist found persisted =>
      obtain ⟨toolCalls, evidence⟩ :=
        InvestigationTables.persist_extends persisted
      exact
        { ApiWorld.Grows.refl before with
          toolCalls := toolCalls
          evidence := evidence }

/-- A committed decision makes the store grow and keeps the incident. -/
theorem ApprovalService.decide_grows
    {sha256 : String → String}
    {loadedResult : RunResult}
    {request : DecisionRequest}
    {updatedAt decidedAt : Instant}
    {store after : Store}
    (decides :
      ApprovalService.decide sha256 loadedResult request updatedAt
        decidedAt store = .ok after) :
    store.Grows after ∧ after.run.incidentPk = store.run.incidentPk := by
  obtain ⟨artifact, approvals, chosen, waiting, inserted, rfl⟩ :=
    ApprovalService.decide_eq_ok.mp decides
  exact
    ⟨⟨rfl, UniqueTable.insert_extends inserted, .refl _, .refl _⟩, rfl⟩

/-- An admission makes the world grow, whatever came of it. -/
theorem ApiWorld.grows_admitted
    (world : ApiWorld)
    (maxQueuedRuns queued : Nat)
    (data : IncidentData)
    (ids : AdmissionIds) :
    world.Grows
      (world.admitted
        (createIncidentAndRun maxQueuedRuns queued data ids
          world.database)) := by
  have leaves :=
    createIncidentAndRun_leaves maxQueuedRuns queued data ids
      world.database
  generalize
    createIncidentAndRun maxQueuedRuns queued data ids world.database =
      outcome at leaves
  obtain ⟨outcome, database⟩ := outcome
  cases outcome with
  | accepted incident run =>
      obtain ⟨-, -, incidents, runs, approvals, artifacts, tests, -⟩ :=
        leaves
      refine
        { incidents := ?_
          runs := ?_
          approvals := ?_
          patchArtifacts := ?_
          testRuns := ?_
          toolCalls := .refl _
          evidence := .refl _
          received := fun call member => member }
      · intro old member
        change old ∈ database.incidents.rows
        rw [incidents]
        exact List.mem_append_left _ member
      · intro old member
        refine ⟨old, ?_, rfl, rfl, rfl⟩
        change old ∈ database.runs.rows
        rw [runs]
        exact List.mem_append_left _ member
      · rw [show (world.admitted (.accepted incident run, database)).database
              = database from rfl, approvals]
        exact .refl _
      · rw [show (world.admitted (.accepted incident run, database)).database
              = database from rfl, artifacts]
        exact .refl _
      · rw [show (world.admitted (.accepted incident run, database)).database
              = database from rfl, tests]
        exact .refl _
  | queueFull message =>
      have same : database = world.database := leaves
      subst same
      exact .refl _
  | integrityError =>
      have same : database = world.database := leaves
      subst same
      exact .refl _

/-- Serving a query makes the control plane grow. -/
theorem ServesApi.grows
    {columns : ColumnValues}
    {sha256 : String → String}
    {maxQueuedRuns : Nat}
    {before after : ApiWorld}
    {asked : ApiQuery}
    {answer : ApiAnswer asked}
    (serves :
      ServesApi columns sha256 maxQueuedRuns before asked answer after) :
    before.Grows after := by
  cases serves with
  | createIncidentAndRun data queued ids stored =>
      exact before.grows_admitted maxQueuedRuns queued data ids
  | decided found decides inserted stored =>
      obtain ⟨grows, sameIncident⟩ := ApprovalService.decide_grows decides
      exact ApiWorld.grows_withStore found grows sameIncident
  | rejected pk =>
      exact { ApiWorld.Grows.refl before with }
  | submit incidentPk runId =>
      exact { ApiWorld.Grows.refl before with }
  | submitResume runId decision =>
      exact { ApiWorld.Grows.refl before with }
  | _ =>
      exact .refl _

end IncidentPilot
