import IncidentPilot.WorkflowExecution

/-!
# What an investigation leaves in the database

`run_agent_workflow` persists the tool calls, the evidence, the hypotheses and
the patch attempts of the final state in four tables of their own, in the
transaction that also inserts the test runs.  A pass that is repeated, because
the worker died or lost its lease before the status was set, skips the rows it
finds by their identifiers; hypotheses and patch attempts have none.
-/

namespace IncidentPilot

/-- A row of `tool_calls`. -/
structure ToolCallRow where
  toolCallId : Uuid
  runPk : String
  toolName : String
  input : Json
  output : Json
  status : ToolCallStatus
  error : Option String
  attemptCount : Nat
  errorCategory : Option String

/-- A row of `evidence`. -/
structure EvidenceRow where
  evidenceId : Uuid
  runPk : String
  source : String
  sourceType : String
  toolCallId : Option Uuid
  summary : String
  contentHash : String
  result : Json

/-- A row of `hypotheses`. -/
structure HypothesisRow where
  runPk : String
  statement : String
  evidenceIds : List Uuid
  status : HypothesisStatus
  confidence : String
  verified : Bool
  verificationNotes : String
  deriving DecidableEq

/-- A row of `patch_attempts`; `none` is the status `CREATED`. -/
structure PatchAttemptRow where
  runPk : String
  attemptNumber : Nat
  patchDiff : String
  patchHash : String
  status : Option PatchAttemptStatus
  notes : String
  deriving DecidableEq

/-- The unique index on `tool_calls.tool_call_id`. -/
def ToolCallRow.conflicts (first second : ToolCallRow) : Bool :=
  first.toolCallId = second.toolCallId

/-- The unique index on `evidence.evidence_id`. -/
def EvidenceRow.conflicts (first second : EvidenceRow) : Bool :=
  first.evidenceId = second.evidenceId

/-- The tables of the investigation besides the test runs. -/
structure InvestigationTables where
  toolCalls : UniqueTable ToolCallRow ToolCallRow.conflicts
  evidence : UniqueTable EvidenceRow EvidenceRow.conflicts
  hypotheses : List HypothesisRow
  patchAttempts : List PatchAttemptRow

/-- The tables without rows. -/
def InvestigationTables.empty : InvestigationTables where
  toolCalls := .empty
  evidence := .empty
  hypotheses := []
  patchAttempts := []

/-- The row of a tool call. -/
def ToolCall.row (runPk : String) (call : ToolCall) : ToolCallRow where
  toolCallId := call.toolCallId
  runPk := runPk
  toolName := call.toolName
  input := call.input
  output := call.output
  status := call.status
  error := call.error
  attemptCount := call.attemptCount
  errorCategory := call.errorCategory

/-- The row of an evidence item. -/
def EvidenceItem.row (runPk : String) (item : EvidenceItem) :
    EvidenceRow where
  evidenceId := item.evidenceId
  runPk := runPk
  source := item.source
  sourceType := item.sourceType
  toolCallId := some item.toolCallId
  summary := item.summary
  contentHash := item.hash
  result := item.result

/-- The row of a hypothesis. -/
def Hypothesis.row (runPk : String) (hypothesis : Hypothesis) :
    HypothesisRow where
  runPk := runPk
  statement := hypothesis.proposal.statement
  evidenceIds := hypothesis.proposal.evidenceIds
  status := hypothesis.status
  confidence := hypothesis.proposal.confidence
  verified := hypothesis.verified
  verificationNotes := hypothesis.verificationNotes

/-- The row of a patch attempt. -/
def PatchAttempt.row
    (sha256 : String → String)
    (runPk : String)
    (attempt : PatchAttempt) : PatchAttemptRow :=
  let patchDiff := attempt.patchDiff.getD ""
  { runPk := runPk
    attemptNumber := attempt.attempt
    patchDiff := patchDiff
    patchHash := if patchDiff = "" then "" else hashPatch sha256 patchDiff
    status := attempt.status
    notes := attempt.reflection.getD "" }

/-- Two tool calls of one run have the same identifier. -/
def ToolCallRow.sameCall (existing row : ToolCallRow) : Bool :=
  decide (existing.runPk = row.runPk) &&
    decide (existing.toolCallId = row.toolCallId)

/-- Two evidence items of one run have the same identifier. -/
def EvidenceRow.sameItem (existing row : EvidenceRow) : Bool :=
  decide (existing.runPk = row.runPk) &&
    decide (existing.evidenceId = row.evidenceId)

/-- What `run_agent_workflow` adds to these tables for a final state. -/
def InvestigationTables.persist
    (sha256 : String → String)
    (runPk : String)
    (final : AgentState)
    (tables : InvestigationTables) : Option InvestigationTables := do
  let toolCalls ←
    tables.toolCalls.insertAll
      (tables.toolCalls.missing ToolCallRow.sameCall
        (final.toolCalls.map (ToolCall.row runPk)))
  let evidence ←
    tables.evidence.insertAll
      (tables.evidence.missing EvidenceRow.sameItem
        (final.evidence.map (EvidenceItem.row runPk)))
  some
    { toolCalls := toolCalls
      evidence := evidence
      hypotheses :=
        tables.hypotheses ++ final.hypotheses.map (Hypothesis.row runPk)
      patchAttempts :=
        tables.patchAttempts ++
          final.patchAttempts.map (PatchAttempt.row sha256 runPk) }

/-- The control plane with the tables of the investigation. -/
structure RecordedPlane where
  plane : ControlPlane
  tables : InvestigationTables

namespace RecordedPlane

section

variable (sha256 : String → String) (deployment : Deployment)

/-- A transaction on the run that adds nothing to these tables. -/
def transact
    (recorded : RecordedPlane)
    (transaction : Transaction) : Option RecordedPlane :=
  (recorded.plane.commit sha256 deployment transaction).map fun plane =>
    { recorded with plane := plane }

/-- The transaction that persists a final state. -/
def persist
    (recorded : RecordedPlane)
    (claim : Option ClaimedRun)
    (current : Instant)
    (loaded : RefreshedRun)
    (final : AgentState) : Option RecordedPlane := do
  let runPk := recorded.plane.store.run.id
  let plane ←
    recorded.plane.commit sha256 deployment
      (.fenced claim current (investigationWrite sha256 loaded runPk final))
  let tables ← recorded.tables.persist sha256 runPk final
  some ⟨plane, tables⟩

end

end RecordedPlane

/-- The transaction persists an investigation. -/
def Transaction.investigates : Transaction → Bool
  | .fenced _ _ (.investigation ..) => true
  | _ => false

/-- What happens to a run and its record. -/
inductive RecordAction where
  | transact (transaction : Transaction)
  | persist
      (claim : Option ClaimedRun)
      (current : Instant)
      (loaded : RefreshedRun)
      (final : AgentState)
  | tick (seconds : Nat)

/-- What an action leads to; `none` when it is rolled back. -/
def RecordedPlane.act
    (sha256 : String → String)
    (deployment : Deployment)
    (recorded : RecordedPlane) : RecordAction → Option RecordedPlane
  | .transact transaction =>
      if transaction.investigates then
        none
      else
        recorded.transact sha256 deployment transaction
  | .persist claim current loaded final =>
      recorded.persist sha256 deployment claim current loaded final
  | .tick seconds =>
      some { recorded with plane := recorded.plane.tick seconds }

/-- A transaction that persists no investigation inserts no test runs. -/
theorem Transaction.commitStore_testRuns
    {sha256 : String → String}
    {deployment : Deployment}
    {store after : Store}
    {transaction : Transaction}
    (other : transaction.investigates = false)
    (committed :
      transaction.commitStore sha256 deployment store = some after) :
    after.testRuns = store.testRuns := by
  cases commits_of_commitStore committed with
  | fenced underClaim passed applied =>
      cases FencedWrite.applies_of_apply applied with
      | investigation inserted =>
          cases other
      | _ =>
          rfl
  | _ =>
      rfl

/-- Two tests of a run have the same identifier. -/
def TestRun.sameTest (runPk : String) (existing test : TestRun) : Bool :=
  decide (existing.runPk = runPk) &&
    decide (existing.testRunId = test.testRunId)

/-- The test rows a run does not have yet are the missing ones. -/
theorem newTestRuns_eq_missing
    (store : Store)
    (testRuns : List TestRun) :
    newTestRuns store testRuns =
      store.testRuns.missing (TestRun.sameTest store.run.id) testRuns :=
  rfl

/-- The test rows of a final state belong to the run. -/
theorem testRows_sameTest
    (sha256 : String → String)
    (runPk : String)
    (final : AgentState) :
    ∀ test ∈ testRows sha256 runPk final,
      TestRun.sameTest runPk test test = true := by
  intro test member
  obtain ⟨attempt, -, found⟩ := List.mem_filterMap.mp member
  obtain ⟨testRunId, -, rfl⟩ := Option.map_eq_some_iff.mp found
  simp [TestRun.sameTest]

namespace RecordedPlane

variable {sha256 : String → String} {deployment : Deployment}

/-- The run of the record. -/
abbrev runPk (recorded : RecordedPlane) : String :=
  recorded.plane.store.run.id

/-- What a committed pass checked and wrote. -/
structure Persists
    (sha256 : String → String)
    (loaded : RefreshedRun)
    (final : AgentState)
    (before after : RecordedPlane) : Prop where
  runPk : after.runPk = before.runPk
  toolCalls :
    before.tables.toolCalls.insertAll
        (before.tables.toolCalls.missing ToolCallRow.sameCall
          (final.toolCalls.map (ToolCall.row before.runPk))) =
      some after.tables.toolCalls
  evidence :
    before.tables.evidence.insertAll
        (before.tables.evidence.missing EvidenceRow.sameItem
          (final.evidence.map (EvidenceItem.row before.runPk))) =
      some after.tables.evidence
  hypotheses :
    after.tables.hypotheses =
      before.tables.hypotheses ++
        final.hypotheses.map (Hypothesis.row before.runPk)
  patchAttempts :
    after.tables.patchAttempts =
      before.tables.patchAttempts ++
        final.patchAttempts.map (PatchAttempt.row sha256 before.runPk)
  testRuns :
    before.plane.store.testRuns.insertAll
        (before.plane.store.testRuns.missing
          (TestRun.sameTest before.runPk)
          (testRows sha256 before.runPk final)) =
      some after.plane.store.testRuns
  toolCallCount :
    after.plane.store.run.toolCallCount =
      (unlessLoaded loaded.toolCallCount final.toolCalls.length).getD
        before.plane.store.run.toolCallCount

/-- A pass that commits persists. -/
theorem persists_of_persist
    {before after : RecordedPlane}
    {claim : Option ClaimedRun}
    {current : Instant}
    {loaded : RefreshedRun}
    {final : AgentState}
    (persisted :
      before.persist sha256 deployment claim current loaded final =
        some after) :
    before.Persists sha256 loaded final after := by
  obtain ⟨plane, committed, rest⟩ := Option.bind_eq_some_iff.mp persisted
  obtain ⟨tables, inserted, same⟩ := Option.bind_eq_some_iff.mp rest
  cases same
  obtain ⟨-, wrote, -, -⟩ := ControlPlane.commit_eq_some.mp committed
  obtain ⟨-, -, applied⟩ := Transaction.commitStore_eq_some.mp wrote
  obtain ⟨table, testRuns, store⟩ :=
    FencedWrite.apply_investigation.mp applied
  obtain ⟨toolCalls, callsInserted, others⟩ :=
    Option.bind_eq_some_iff.mp inserted
  obtain ⟨evidence, itemsInserted, same⟩ :=
    Option.bind_eq_some_iff.mp others
  cases same
  rw [newTestRuns_eq_missing] at testRuns
  exact
    { runPk := by rw [RecordedPlane.runPk, store]
      toolCalls := callsInserted
      evidence := itemsInserted
      hypotheses := rfl
      patchAttempts := rfl
      testRuns := by rw [store, testRuns]
      toolCallCount := by rw [store] }

/-- The record holds every row with an identifier that a state has. -/
structure Covers
    (sha256 : String → String)
    (final : AgentState)
    (recorded : RecordedPlane) : Prop where
  toolCalls :
    recorded.tables.toolCalls.Covers ToolCallRow.sameCall
      (final.toolCalls.map (ToolCall.row recorded.runPk))
  evidence :
    recorded.tables.evidence.Covers EvidenceRow.sameItem
      (final.evidence.map (EvidenceItem.row recorded.runPk))
  testRuns :
    recorded.plane.store.testRuns.Covers
      (TestRun.sameTest recorded.runPk)
      (testRows sha256 recorded.runPk final)

/-- A pass leaves a record that covers its final state. -/
theorem Persists.covers
    {before after : RecordedPlane}
    {loaded : RefreshedRun}
    {final : AgentState}
    (persists : before.Persists sha256 loaded final after) :
    after.Covers sha256 final where
  toolCalls := by
    rw [persists.runPk]
    refine UniqueTable.covers_of_insertAll_missing ?_ persists.toolCalls
    simp [ToolCallRow.sameCall]
  evidence := by
    rw [persists.runPk]
    refine UniqueTable.covers_of_insertAll_missing ?_ persists.evidence
    simp [EvidenceRow.sameItem]
  testRuns := by
    rw [persists.runPk]
    exact
      UniqueTable.covers_of_insertAll_missing
        (testRows_sameTest sha256 before.runPk final) persists.testRuns

/-- A record in its state after some more passes over the same final state. -/
structure Replayed
    (sha256 : String → String)
    (final : AgentState)
    (times : Nat)
    (once later : RecordedPlane) : Prop where
  runPk : later.runPk = once.runPk
  toolCalls : later.tables.toolCalls = once.tables.toolCalls
  evidence : later.tables.evidence = once.tables.evidence
  testRuns : later.plane.store.testRuns = once.plane.store.testRuns
  hypotheses :
    later.tables.hypotheses =
      once.tables.hypotheses ++
        (List.replicate times
          (final.hypotheses.map (Hypothesis.row once.runPk))).flatten
  patchAttempts :
    later.tables.patchAttempts =
      once.tables.patchAttempts ++
        (List.replicate times
          (final.patchAttempts.map
            (PatchAttempt.row sha256 once.runPk))).flatten

/-- A record that was replayed covers what it covered. -/
theorem Replayed.covers
    {final : AgentState}
    {times : Nat}
    {once later : RecordedPlane}
    (replayed : once.Replayed sha256 final times later)
    (covers : once.Covers sha256 final) :
    later.Covers sha256 final where
  toolCalls := by
    rw [replayed.runPk, replayed.toolCalls]
    exact covers.toolCalls
  evidence := by
    rw [replayed.runPk, replayed.evidence]
    exact covers.evidence
  testRuns := by
    rw [replayed.runPk, replayed.testRuns]
    exact covers.testRuns

/-- One more pass adds hypotheses and patch attempts, and nothing else. -/
theorem Replayed.persist
    {final : AgentState}
    {times : Nat}
    {once later after : RecordedPlane}
    {loaded : RefreshedRun}
    (covers : once.Covers sha256 final)
    (replayed : once.Replayed sha256 final times later)
    (persists : later.Persists sha256 loaded final after) :
    once.Replayed sha256 final (times + 1) after := by
  have covered := replayed.covers covers
  have toolCalls := persists.toolCalls
  rw [UniqueTable.missing_of_covers covered.toolCalls] at toolCalls
  have evidence := persists.evidence
  rw [UniqueTable.missing_of_covers covered.evidence] at evidence
  have testRuns := persists.testRuns
  rw [UniqueTable.missing_of_covers covered.testRuns] at testRuns
  simp only [UniqueTable.insertAll, Option.some.injEq]
    at toolCalls evidence testRuns
  exact
    { runPk := persists.runPk.trans replayed.runPk
      toolCalls := toolCalls.symm.trans replayed.toolCalls
      evidence := evidence.symm.trans replayed.evidence
      testRuns := testRuns.symm.trans replayed.testRuns
      hypotheses := by
        rw [persists.hypotheses, replayed.hypotheses, replayed.runPk,
          List.replicate_succ', List.flatten_append, List.append_assoc]
        simp
      patchAttempts := by
        rw [persists.patchAttempts, replayed.patchAttempts,
          replayed.runPk, List.replicate_succ', List.flatten_append,
          List.append_assoc]
        simp }

/-- A transaction that persists nothing leaves the record. -/
theorem Replayed.transact
    {final : AgentState}
    {times : Nat}
    {once later after : RecordedPlane}
    {transaction : Transaction}
    (replayed : once.Replayed sha256 final times later)
    (other : transaction.investigates = false)
    (committed :
      later.transact sha256 deployment transaction = some after) :
    once.Replayed sha256 final times after := by
  obtain ⟨plane, commits, rfl⟩ := Option.map_eq_some_iff.mp committed
  obtain ⟨-, wrote, -, -⟩ := ControlPlane.commit_eq_some.mp commits
  exact
    { runPk :=
        (Transaction.commitStore_grows wrote).sameRun.trans
          replayed.runPk
      toolCalls := replayed.toolCalls
      evidence := replayed.evidence
      testRuns :=
        (Transaction.commitStore_testRuns other wrote).trans
          replayed.testRuns
      hypotheses := replayed.hypotheses
      patchAttempts := replayed.patchAttempts }

/-- Nothing has been replayed yet. -/
theorem Replayed.refl
    (final : AgentState)
    (once : RecordedPlane) :
    once.Replayed sha256 final 0 once where
  runPk := rfl
  toolCalls := rfl
  evidence := rfl
  testRuns := rfl
  hypotheses := by simp
  patchAttempts := by simp

end RecordedPlane

namespace RecordAction

/-- The action is a pass that persists. -/
def persists : RecordAction → Bool
  | persist .. => true
  | _ => false

/-- If the action is a pass, it persists that final state. -/
def Only (final : AgentState) : RecordAction → Prop
  | persist _ _ _ other => other = final
  | _ => True

end RecordAction

namespace RecordedPlane

variable {sha256 : String → String} {deployment : Deployment}

/-- A record after any number of further passes over the same final state. -/
theorem Replayed.run
    {final : AgentState}
    {times : Nat}
    {once later again : RecordedPlane}
    {actions : List RecordAction}
    (covers : once.Covers sha256 final)
    (replayed : once.Replayed sha256 final times later)
    (same : ∀ action ∈ actions, action.Only final)
    (acted : actions.foldlM (act sha256 deployment) later = some again) :
    once.Replayed sha256 final
      (times + actions.countP RecordAction.persists) again := by
  induction actions generalizing times later with
  | nil =>
      cases acted
      exact replayed
  | cons action rest inductionHypothesis =>
      obtain ⟨middle, first, others⟩ :=
        Option.bind_eq_some_iff.mp acted
      have restSame : ∀ action ∈ rest, action.Only final :=
        fun later member => same later (List.mem_cons_of_mem _ member)
      have firstSame := same action List.mem_cons_self
      cases action with
      | transact transaction =>
          simp only [act] at first
          split at first
          · cases first
          · rename_i other
            rw [List.countP_cons_of_neg Bool.false_ne_true]
            exact
              inductionHypothesis
                (replayed.transact (Bool.eq_false_iff.mpr other) first)
                restSame others
      | persist claim current loaded final =>
          cases firstSame
          rw [List.countP_cons_of_pos rfl, ← Nat.add_assoc,
            Nat.add_right_comm]
          exact
            inductionHypothesis
              (replayed.persist covers (persists_of_persist first))
              restSame others
      | tick seconds =>
          cases first
          rw [List.countP_cons_of_neg Bool.false_ne_true]
          refine inductionHypothesis ?_ restSame others
          exact
            ⟨replayed.runPk, replayed.toolCalls, replayed.evidence,
              replayed.testRuns, replayed.hypotheses,
              replayed.patchAttempts⟩

/-- The rows of a run are the same ones, in any order. -/
structure SameRows
    (runPk : String)
    (first second : RecordedPlane) : Prop where
  toolCalls :
    (second.tables.toolCalls.rows.filter fun row => row.runPk = runPk).Perm
      (first.tables.toolCalls.rows.filter fun row => row.runPk = runPk)
  evidence :
    (second.tables.evidence.rows.filter fun row => row.runPk = runPk).Perm
      (first.tables.evidence.rows.filter fun row => row.runPk = runPk)
  hypotheses :
    (second.tables.hypotheses.filter fun row => row.runPk = runPk).Perm
      (first.tables.hypotheses.filter fun row => row.runPk = runPk)
  patchAttempts :
    (second.tables.patchAttempts.filter fun row => row.runPk = runPk).Perm
      (first.tables.patchAttempts.filter fun row => row.runPk = runPk)
  testRuns :
    (second.plane.store.testRuns.rows.filter
        fun row => row.runPk = runPk).Perm
      (first.plane.store.testRuns.rows.filter
        fun row => row.runPk = runPk)

end RecordedPlane

/-- Rows that are appended again are the same rows only when there are none. -/
theorem eq_nil_of_perm_append
    {Row : Type}
    {own : Row → Bool}
    {earlier added : List Row}
    {times : Nat}
    (again : 0 < times)
    (ofRun : ∀ row ∈ added, own row = true)
    (same :
      ((earlier ++ (List.replicate times added).flatten).filter own).Perm
        (earlier.filter own)) :
    added = [] := by
  have lengths := same.length_eq
  rw [List.filter_append, List.length_append] at lengths
  have none : ((List.replicate times added).flatten).filter own = [] :=
    List.eq_nil_of_length_eq_zero (by omega)
  refine List.eq_nil_iff_forall_not_mem.mpr ?_
  intro row member
  have inAll : row ∈ (List.replicate times added).flatten :=
    List.mem_flatten.mpr
      ⟨added, List.mem_replicate.mpr ⟨Nat.pos_iff_ne_zero.mp again, rfl⟩,
        member⟩
  exact List.filter_eq_nil_iff.mp none row inAll (ofRun row member)

/--
Persisting a final state again leaves the rows of the run as they were if and
only if the state has neither hypotheses nor patch attempts.
-/
theorem replay_safe_iff
    {sha256 : String → String}
    {deployment : Deployment}
    {before once again : RecordedPlane}
    {claim : Option ClaimedRun}
    {current : Instant}
    {loaded : RefreshedRun}
    {final : AgentState}
    {actions : List RecordAction}
    (persisted :
      before.persist sha256 deployment claim current loaded final =
        some once)
    (acted :
      actions.foldlM (RecordedPlane.act sha256 deployment) once =
        some again)
    (same : ∀ action ∈ actions, action.Only final)
    (replayed : ∃ action ∈ actions, action.persists = true) :
    RecordedPlane.SameRows once.runPk once again ↔
      final.hypotheses = [] ∧ final.patchAttempts = [] := by
  have covers :=
    (RecordedPlane.persists_of_persist persisted).covers
  have passes :=
    RecordedPlane.Replayed.run covers (.refl final once) same acted
  have some : 0 < 0 + actions.countP RecordAction.persists := by
    rw [Nat.zero_add]
    exact List.countP_pos_iff.mpr replayed
  constructor
  · intro rows
    have hypotheses := rows.hypotheses
    rw [passes.hypotheses] at hypotheses
    have patchAttempts := rows.patchAttempts
    rw [passes.patchAttempts] at patchAttempts
    refine
      ⟨List.map_eq_nil_iff.mp
          (eq_nil_of_perm_append some ?_ hypotheses),
        List.map_eq_nil_iff.mp
          (eq_nil_of_perm_append some ?_ patchAttempts)⟩
    · simp [Hypothesis.row]
    · simp [PatchAttempt.row]
  · rintro ⟨noHypotheses, noAttempts⟩
    have hypotheses := passes.hypotheses
    have patchAttempts := passes.patchAttempts
    rw [noHypotheses] at hypotheses
    rw [noAttempts] at patchAttempts
    simp only [List.map_nil, List.flatten_replicate_nil,
      List.append_nil] at hypotheses patchAttempts
    exact
      { toolCalls := by rw [passes.toolCalls]
        evidence := by rw [passes.evidence]
        hypotheses := by rw [hypotheses]
        patchAttempts := by rw [patchAttempts]
        testRuns := by rw [passes.testRuns] }

/-- What is loaded of a run that was just admitted. -/
def firstLoaded : RefreshedRun := ⟨[], 0, 0⟩

/-- A run just admitted, with nothing recorded. -/
def admittedRecord : RecordedPlane where
  plane := .admitted "pk" "RUN-1" "INC-1" 0
  tables := .empty

/-- The claim of the first worker. -/
def firstClaim : ClaimedRun := ⟨"INC-1", "RUN-1", "first", 1, false⟩

/-- The run is claimed by the first worker. -/
def firstClaimed : List RecordAction :=
  [.transact (.claimNextRun "first" 0),
    .transact (.fenced (some firstClaim) 0 .markRunning)]

/-- The first worker dies, and a second one recovers the same final state. -/
def secondAttempt (final : AgentState) : List RecordAction :=
  let claim : ClaimedRun := ⟨"INC-1", "RUN-1", "second", 2, true⟩
  [.tick 60, .transact (.claimNextRun "second" 60),
    .transact (.fenced (some claim) 60 .markRunning),
    .persist (some claim) 60
      ⟨final.plan, final.toolCalls.length, final.patchAttempts.length⟩
      final]

/-- A final state with a tool call, and nothing concluded from it. -/
def inconclusiveState : AgentState :=
  { initialState "RUN-1" ⟨"api", "app"⟩ with
    status := .insufficientEvidence
    workflowState := .insufficientEvidence
    toolCalls :=
      [{ toolCallId := 1
         toolName := "read_logs"
         status := .succeeded
         input := .object [] }] }

/-- A final state whose hypothesis was rejected. -/
def rejectedState : AgentState :=
  { inconclusiveState with
    status := .needsHumanIntervention
    workflowState := .needsHumanIntervention
    hypotheses :=
      [{ proposal := ⟨"slow loop", [1], "high"⟩
         status := .rejected
         verified := false }] }

/-- Two attempts that are computed over the same final state. -/
theorem attempts_persist
    {final : AgentState}
    {holds : RecordedPlane → RecordedPlane → Bool}
    (twice :
      (firstClaimed.foldlM (RecordedPlane.act id (.durable 2 60))
        admittedRecord).any
        (fun before =>
          (before.persist id (.durable 2 60) (some firstClaim) 0
            firstLoaded final).any fun once =>
              ((secondAttempt final).foldlM
                (RecordedPlane.act id (.durable 2 60)) once).any
                (holds once)) =
        true) :
    ∃ before once again : RecordedPlane,
      before.persist id (.durable 2 60) (some firstClaim) 0
            firstLoaded final =
          some once ∧
        (secondAttempt final).foldlM
            (RecordedPlane.act id (.durable 2 60)) once =
          some again ∧
        holds once again = true := by
  obtain ⟨before, -, once⟩ := (Option.any_eq_true _ _).mp twice
  obtain ⟨once, persisted, again⟩ := (Option.any_eq_true _ _).mp once
  obtain ⟨again, acted, checked⟩ := (Option.any_eq_true _ _).mp again
  exact ⟨before, once, again, persisted, acted, checked⟩

/-- The second of the two attempts is a pass over the same final state. -/
theorem secondAttempt_persists (final : AgentState) :
    (∀ action ∈ secondAttempt final, action.Only final) ∧
      ∃ action ∈ secondAttempt final, action.persists = true := by
  constructor
  · simp [secondAttempt, RecordAction.Only]
  · simp [secondAttempt, RecordAction.persists]

/-- An inconclusive investigation may be persisted again. -/
theorem replay_safe_inconclusive :
    ∃ before once again : RecordedPlane,
      before.persist id (.durable 2 60) (some firstClaim) 0
            firstLoaded inconclusiveState = some once ∧
        (secondAttempt inconclusiveState).foldlM
            (RecordedPlane.act id (.durable 2 60)) once = some again ∧
        RecordedPlane.SameRows once.runPk once again := by
  have twice :
      (firstClaimed.foldlM (RecordedPlane.act id (.durable 2 60))
        admittedRecord).any
        (fun before =>
          (before.persist id (.durable 2 60) (some firstClaim) 0
            firstLoaded inconclusiveState).any fun once =>
              ((secondAttempt inconclusiveState).foldlM
                (RecordedPlane.act id (.durable 2 60)) once).any
                ((fun _ _ => true) once)) =
        true := by
    decide +kernel
  obtain ⟨before, once, again, persisted, acted, -⟩ :=
    attempts_persist twice
  obtain ⟨same, replayed⟩ := secondAttempt_persists inconclusiveState
  exact
    ⟨before, once, again, persisted, acted,
      (replay_safe_iff persisted acted same replayed).mpr ⟨rfl, rfl⟩⟩

/-- More hypotheses of the run are recorded than before. -/
def moreHypotheses (once again : RecordedPlane) : Bool :=
  (once.tables.hypotheses.filter
      fun row => row.runPk = once.runPk).length <
    (again.tables.hypotheses.filter
      fun row => row.runPk = once.runPk).length

/-- A second attempt records a rejected hypothesis a second time. -/
theorem rejected_hypothesis_recorded_twice :
    ¬ ∀ (final : AgentState) (before once again : RecordedPlane),
        before.persist id (.durable 2 60) (some firstClaim) 0
            firstLoaded final =
          some once →
        (secondAttempt final).foldlM
            (RecordedPlane.act id (.durable 2 60)) once = some again →
        RecordedPlane.SameRows once.runPk once again := by
  intro always
  have twice :
      (firstClaimed.foldlM (RecordedPlane.act id (.durable 2 60))
        admittedRecord).any
        (fun before =>
          (before.persist id (.durable 2 60) (some firstClaim) 0
            firstLoaded rejectedState).any fun once =>
              ((secondAttempt rejectedState).foldlM
                (RecordedPlane.act id (.durable 2 60)) once).any
                (moreHypotheses once)) =
        true := by
    decide +kernel
  obtain ⟨before, once, again, persisted, acted, more⟩ :=
    attempts_persist twice
  have same :=
    (always rejectedState before once again persisted acted).hypotheses
  have lengths := same.length_eq
  simp only [moreHypotheses, decide_eq_true_eq] at more
  omega

end IncidentPilot
