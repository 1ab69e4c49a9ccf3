import IncidentPilot.TestedPatch

/-!
# Exporting what was tested

The nodes that run the tests and export the artifact keep the invariant of
tested patches, also where the process that ran the tests is gone and the tests
are run again; and so does everything else that happens to a run.
-/

namespace IncidentPilot

variable {setup : WorkflowSetup}

section Export

variable {world later : WorkflowWorld} {session after : Session}

/-- Running the tests leads on to an export, a reflection or a human. -/
theorem completed_tested
    (tested :
      TestedCheckpoint setup world ⟨some .runTests, session.state⟩)
    (running : session.state.status = .running)
    (testsRun : session.TestsRun setup later after) :
    (testedPatches setup).Completed setup later .runTests after := by
  have unexported : after.state.patchArtifact = none :=
    testsRun.artifact.trans (tested.unexported nofun running)
  have never :
      ∀ artifact,
        after.state.patchArtifact = some artifact →
        (artifact.row later.store.run.id).ExportedFrom setup later
          after.state.patchAttempts := by
    intro artifact found
    rw [unexported] at found
    cases found
  by_cases ran : after.state.status = .running
  · obtain ⟨attempt, runtime, execution, inLog, last, hasPatch, records,
      named, equipped, passes, -, sameBase⟩ := testsRun.ran ran
    have some : after.state.patchAttempts ≠ [] := by
      intro none
      rw [none] at last
      cases last
    constructor
    · refine
        ⟨testsRun.attempts, fun _ _ => ⟨_, sameBase⟩,
          fun _ => ⟨attempt, last, hasPatch⟩, fun _ => some, ?_, never,
          fun _ _ => unexported, ?_⟩
      · intro exports _
        have route :
            WorkflowNode.runTests.next setup.settings after =
              .some .exportPatchArtifact :=
          exports
        have ok := (next_eq_export route).2.2
        rw [equipped, Option.any_some, passes] at ok
        exact
          ⟨attempt, execution, inLog, last, records,
            of_decide_eq_true ok, named⟩
      · intro waits
        rw [show after.state.status = .waitingApproval from waits] at ran
        cases ran
    · intro following follows
      cases following with
      | generatePatch =>
          rcases next_eq_generatePatch follows with ⟨creates, -⟩ | reflects
          · cases creates
          · cases reflects
      | runTests => cases (next_eq_runTests follows).1
      | exportPatchArtifact =>
          intro _ manager other present isLast
          rw [equipped] at present
          cases present
          exact sameBase other (List.mem_of_getLast? isLast)
      | _ => trivial
  · refine
      completed_stopped testsRun.attempts ran never ?_ nofun
    intro waits
    have waited := testsRun.waits waits
    rw [running] at waited
    cases waited

/-- A session whose patch has passed its tests, on the base of all attempts. -/
structure Session.Exportable
    (setup : WorkflowSetup)
    (world : WorkflowWorld)
    (session : Session)
    (runtime : SandboxRuntime) : Prop where
  saved :
    ∃ checkpoint ∈ world.thread,
      checkpoint.next = some .exportPatchArtifact ∧
        ∀ attempt ∈ checkpoint.state.patchAttempts,
          attempt.baseCommitSha = some runtime.baseCommitSha
  attempts :
    ∀ attempt ∈ session.state.patchAttempts,
      attempt.testRunId ≠ none →
      ∃ execution ∈ world.testExecutions, attempt.Records execution
  bases :
    ∀ attempt ∈ session.state.patchAttempts,
      attempt.baseCommitSha = some runtime.baseCommitSha
  passed : session.state.Passed world

namespace Session.Exportable

variable {runtime : SandboxRuntime}

/-- What may be exported may be exported while the world grows. -/
theorem grown
    (exportable : session.Exportable setup world runtime)
    (grows : world.Grows later) :
    session.Exportable setup later runtime where
  saved := by
    obtain ⟨checkpoint, saved, rest⟩ := exportable.saved
    exact ⟨checkpoint, grows.thread checkpoint saved, rest⟩
  attempts attempt member named := by
    obtain ⟨execution, inLog, records⟩ :=
      exportable.attempts attempt member named
    exact ⟨execution, grows.testExecutions execution inLog, records⟩
  bases := exportable.bases
  passed := by
    obtain ⟨attempt, execution, inLog, rest⟩ := exportable.passed
    exact
      ⟨attempt, execution, grows.testExecutions execution inLog, rest⟩

/-- The artifact carries the patch that has passed. -/
theorem carries
    (exportable : session.Exportable setup world runtime)
    (runPk : String)
    (patchArtifactId persistedId : Uuid) :
    ∃ execution ∈ world.testExecutions,
      session.state.result.testRunId = some execution.testRunId ∧
        ({ exportedArtifact setup.tools session.state runtime
              patchArtifactId with
            patchArtifactId := persistedId }.row runPk).Carries
          setup.tools.json.sha256 execution := by
  obtain ⟨attempt, execution, inLog, last, records, passed, named⟩ :=
    exportable.passed
  have diff :
      (session.state.patchAttempts.getLast?.bind
          PatchAttempt.patchDiff).getD "" =
        execution.patchDiff := by
    simp [last, records.patchDiff]
  have base : runtime.baseCommitSha = execution.workspace.baseCommitSha :=
    Option.some.inj
      ((exportable.bases attempt (List.mem_of_getLast? last)).symm.trans
        records.baseCommitSha)
  exact
    ⟨execution, inLog, named, passed, named, diff,
      congrArg (hashPatch setup.tools.json.sha256) diff, base, rfl⟩

end Session.Exportable

/-- Exporting persists the artifact and leads on to its approval. -/
theorem exportArtifact_leads
    {claim : Option ClaimedRun}
    {runtime : SandboxRuntime}
    (exportable : session.Exportable setup world runtime) :
    (testedPatches setup).Leads setup claim .exportPatchArtifact
      (exportArtifact setup.tools session runtime) world := by
  unfold exportArtifact
  refine .bind (.ask fun disturbed interfered => ⟨?_, ?_⟩)
  · exact permits_passive rfl
  · intro patchArtifactId fresh serving
    have serves :
        setup.Serves claim disturbed .freshId patchArtifactId fresh :=
      serving
    have grewFresh := interfered.1.trans serves.grows
    refine .done ?_
    dsimp only
    refine .bind (.ask fun before interferedAgain => ⟨?_, ?_⟩)
    · -- The row that is inserted is the one the last checkpoint is at.
      intro holds answer stored served
      have grew := grewFresh.trans interferedAgain.1
      have serves :
          setup.Serves claim before
            (.persistArtifact
              (exportedArtifact setup.tools session.state runtime
                patchArtifactId))
            answer stored :=
        served
      rcases served with ⟨_, -, rfl⟩ | ⟨current, id, -, persisted⟩
      · exact holds.tables
      · have ready := exportable.grown grew
        obtain ⟨checkpoint, saved, exports, bases⟩ := ready.saved
        obtain ⟨execution, inLog, -, carries⟩ :=
          ready.carries before.store.run.id patchArtifactId
            patchArtifactId
        exact
          holds.tables.persisted serves.grows
            (persisted_of_persistArtifact persisted) saved exports
            ⟨⟨execution, inLog, carries⟩, bases⟩
    · intro answer stored servingAgain
      have servesAgain :
          setup.Serves claim before
            (.persistArtifact
              (exportedArtifact setup.tools session.state runtime
                patchArtifactId))
            answer stored :=
        servingAgain
      have grows := servesAgain.grows
      have grew := (grewFresh.trans interferedAgain.1).trans grows
      cases answer with
      | error error => exact .raise trivial
      | ok persistedId =>
          refine .done (.done ?_)
          have ready := exportable.grown grew
          rcases servesAgain with ⟨_, failed, -⟩ |
            ⟨current, id, isId, persisted⟩
          · cases failed
          · cases isId
            obtain ⟨attempt, execution, inLog, last, records, passed,
              named⟩ := ready.passed
            refine
              completed_stopped ready.attempts nofun ?_ ?_ nofun
            · rintro artifact ⟨⟩
              obtain ⟨ran, inRan, -, carries⟩ :=
                ready.carries stored.store.run.id patchArtifactId
                  persistedId
              exact ⟨⟨ran, inRan, carries⟩, ready.bases⟩
            · intro _
              obtain ⟨row, member, ownRun, sameId, sameTest⟩ :=
                (persisted_of_persistArtifact persisted).found
              refine
                ⟨row, member,
                  ownRun.trans grows.store.sameRun.symm,
                  congrArg some sameId.symm, attempt,
                  List.mem_of_getLast? last, execution.testRunId,
                  records.testRunId, sameTest.trans named⟩

/-- What holds at the export node makes the patch exportable. -/
theorem exportable_entered
    {runtime : SandboxRuntime}
    (saved :
      Checkpoint.mk (some .exportPatchArtifact) session.state ∈
        world.thread)
    (tested :
      TestedCheckpoint setup world
        ⟨some .exportPatchArtifact, session.state⟩)
    (process : TestedProcess setup .exportPatchArtifact session)
    (running : session.state.status = .running)
    (present : session.runtime = some runtime) :
    session.Exportable setup world runtime := by
  have passed := tested.passed rfl running
  have bases :
      ∀ attempt ∈ session.state.patchAttempts,
        attempt.baseCommitSha = some runtime.baseCommitSha := by
    obtain ⟨attempt, -, -, last, -⟩ := passed
    obtain ⟨base, allBase⟩ := tested.sameBase nofun running
    have ofLast := allBase attempt (List.mem_of_getLast? last)
    have ofRuntime := process running runtime attempt present last
    intro other member
    rw [allBase other member, ← ofLast, ofRuntime]
  exact ⟨⟨_, saved, rfl, bases⟩, tested.attempts, bases, passed⟩

/-- Where the tests are run again, their patch is exportable if they pass. -/
theorem exportable_tested
    {runtime : SandboxRuntime}
    (saved :
      Checkpoint.mk (some .exportPatchArtifact) session.state ∈
        later.thread)
    (testsRun : session.TestsRun setup later after)
    (running : after.state.status = .running)
    (present : after.runtime = some runtime)
    (ok : runtime.testOk = true) :
    after.Exportable setup later runtime := by
  obtain ⟨attempt, manager, execution, inLog, last, -, records, named,
    equipped, passes, earlier, sameBase⟩ := testsRun.ran running
  rw [present] at equipped
  cases equipped
  rw [ok] at passes
  exact
    ⟨⟨_, saved, rfl, earlier⟩, testsRun.attempts, sameBase,
      attempt, execution, inLog, last, records,
      of_decide_eq_true passes.symm, named⟩

/-- The export node exports what was tested, or stops. -/
theorem exportArtifactNode_leads
    {claim : Option ClaimedRun}
    (saved :
      Checkpoint.mk (some .exportPatchArtifact) session.state ∈
        world.thread)
    (tested :
      TestedCheckpoint setup world
        ⟨some .exportPatchArtifact, session.state⟩)
    (process : TestedProcess setup .exportPatchArtifact session)
    (running : session.state.status = .running) :
    (testedPatches setup).Leads setup claim .exportPatchArtifact
      (exportArtifactNode setup.tools setup.settings session) world := by
  have unexported := tested.unexported nofun running
  unfold exportArtifactNode
  dsimp only
  split
  · rename_i runtime present
    have exportable :=
      exportable_entered saved tested process running present
    exact
      exportArtifact_leads
        ⟨exportable.saved, exportable.attempts, exportable.bases,
          exportable.passed⟩
  · rename_i absent
    obtain ⟨base, allBase⟩ := tested.sameBase nofun running
    obtain ⟨attempt, last, hasPatch⟩ := tested.hasPatch (.inr ⟨rfl, running⟩)
    have unequipped : session.runtime = none := absent
    have ran :=
      WorkflowInvariant.keeps_framed
        (@runTestsNode_keeps setup claim world
          (session.withState
            { session.state with workflowState := .exportPatchArtifact })
          attempt base tested.attempts allBase last hasPatch
          (fun runtime present => by
            rw [show session.runtime = some runtime from present]
              at unequipped
            cases unequipped))
    refine .bind (ran.mono (fun _ _ => id) ?_ (fun _ _ => id))
    rintro outcome final ⟨testsRun, grows⟩
    have stopped
        {ended : Session}
        (attempts :
          ended.state.patchAttempts = outcome.state.patchAttempts)
        (artifact :
          ended.state.patchArtifact = outcome.state.patchArtifact)
        (failed : ended.state.status = .failed) :
        (testedPatches setup).Completed setup final .exportPatchArtifact
          ended := by
      refine
        completed_stopped (attempts ▸ testsRun.attempts) ?_ ?_ ?_ nofun
      · rw [failed]
        nofun
      · intro exported found
        rw [artifact, testsRun.artifact] at found
        rw [show session.state.patchArtifact = some exported from found]
          at unexported
        cases unexported
      · rw [failed]
        nofun
    split
    · exact .done (stopped rfl rfl rfl)
    · rename_i going
      rw [not_or, not_not, Bool.not_eq_false] at going
      split
      · exact .done (stopped rfl rfl rfl)
      · rename_i runtime present
        rw [present, Option.any_some] at going
        exact
          exportArtifact_leads
            (@exportable_tested setup final session outcome runtime
              (grows.thread _ saved)
              ⟨testsRun.attempts, testsRun.artifact, testsRun.waits,
                testsRun.ran⟩
              going.1 present going.2)

end Export

section Nodes

variable {world : WorkflowWorld} {session : Session}
variable {claim : Option ClaimedRun}

/-- Where a node leads is where it leads after others have moved. -/
theorem testedCompleted_grown
    {earlier later : WorkflowWorld}
    {node : WorkflowNode}
    {outcome : Session}
    (grows : earlier.Grows later)
    (completed :
      (testedPatches setup).Completed setup earlier node outcome) :
    (testedPatches setup).Completed setup later node outcome :=
  ⟨completed.checkpoint.grown grows, completed.process⟩

/-- A guarded node leads where it should when what it runs does. -/
theorem leads_of_body
    {node : WorkflowNode}
    {body : Session → WorkflowProgram Session}
    (tested : TestedCheckpoint setup world ⟨some node, session.state⟩)
    (runs :
      session.state.status = .running →
      ∀ later,
        world.Grows later →
        (testedPatches setup).Leads setup claim node
          (body session.syncBudget) later) :
    (testedPatches setup).Leads setup claim node (guarded body session)
      world :=
  WorkflowInvariant.leads_of_guarded testedCompleted_grown
    (fun _ _ => permits_reports) (completed_skipped tested) runs

/-- A node before the repair leads where it should. -/
theorem leads_of_unrepaired
    {node : WorkflowNode}
    {body : Session → WorkflowProgram Session}
    (tested : TestedCheckpoint setup world ⟨some node, session.state⟩)
    (early :
      node ≠ .createSandbox ∧ node ≠ .generatePatch ∧
        node ≠ .runTests ∧ node ≠ .reflect)
    (unrepaired :
      ∀ entered,
        (body entered).Always fun after =>
          entered.state.Unrepaired after.state)
    (passive : ∀ entered, WorkflowProgram.Passive (body entered)) :
    (testedPatches setup).Leads setup claim node (guarded body session)
      world := by
  refine leads_of_body tested fun running later grows => ?_
  refine
    leads_of_passive (.of_always (unrepaired session.syncBudget))
      (passive _) fun after final grew same => ?_
  exact
    completed_unrepaired ((tested.grown grows).grown grew) running same
      early.2 fun creates => absurd creates early.1

/-- Every node leads where it should. -/
theorem node_leads
    {node : WorkflowNode}
    (saved : Checkpoint.mk (some node) session.state ∈ world.thread)
    (tested : TestedCheckpoint setup world ⟨some node, session.state⟩)
    (process : TestedProcess setup node session) :
    (testedPatches setup).Leads setup claim node
      (node.program setup.tools setup.settings session) world := by
  cases node with
  | plan =>
      exact
        leads_of_unrepaired tested (by simp)
          (planNode_unrepaired setup.settings)
          (planNode_passive setup.settings)
  | collectEvidence =>
      exact
        leads_of_unrepaired tested (by simp)
          (collectEvidenceNode_unrepaired setup.tools setup.settings)
          (collectEvidenceNode_passive setup.tools setup.settings)
  | formHypothesis =>
      exact
        leads_of_unrepaired tested (by simp)
          (formHypothesisNode_unrepaired setup.tools setup.settings)
          (formHypothesisNode_passive setup.tools setup.settings)
  | verifyHypothesis =>
      exact
        leads_of_unrepaired tested (by simp)
          (verifyHypothesisNode_unrepaired setup.tools setup.settings)
          (verifyHypothesisNode_passive setup.tools setup.settings)
  | createSandbox =>
      refine leads_of_body tested fun running later grows => ?_
      refine
        leads_of_passive (createSandboxNode_sandboxed session.syncBudget)
          (createSandboxNode_passive _ _ _)
          fun after final grew sandboxed => ?_
      exact
        completed_unrepaired ((tested.grown grows).grown grew) running
          sandboxed.unrepaired (by simp) fun _ => sandboxed.pristine
  | generatePatch =>
      refine leads_of_body tested fun running later grows => ?_
      refine
        leads_of_passive
          (@generatePatchNode_patches setup session.syncBudget process)
          (generatePatchNode_passive _ _ _)
          fun after final grew patches => ?_
      exact
        @completed_patches setup final session.syncBudget after
          ((tested.grown grows).grown grew) running patches
  | runTests =>
      refine leads_of_body tested fun running later grows => ?_
      obtain ⟨base, allBase⟩ := tested.sameBase nofun running
      obtain ⟨attempt, last, hasPatch⟩ := tested.hasPatch (.inl rfl)
      refine
        (WorkflowInvariant.keeps_framed
          (@runTestsNode_keeps setup claim later session.syncBudget
            attempt base (tested.grown grows).attempts allBase last
            hasPatch fun runtime present =>
              process runtime attempt present last)).mono
          (fun _ _ => id) ?_ (fun _ _ => id)
      rintro after final ⟨testsRun, grew⟩
      exact
        @completed_tested setup final final session.syncBudget after
          ((tested.grown grows).grown grew) running testsRun
  | reflect =>
      refine leads_of_body tested fun running later grows => ?_
      exact
        .done
          (@reflectNode_completed setup later session.syncBudget
            (tested.grown grows) running)
  | exportPatchArtifact =>
      refine leads_of_body tested fun running later grows => ?_
      exact
        @exportArtifactNode_leads setup later session.syncBudget claim
          (grows.thread _ saved) (tested.grown grows) process running
  | waitForApproval =>
      refine
        .bind
          (WorkflowInvariant.transact_keeps
            (fun later _ => permits_reports rfl) fun later grows =>
              .done ?_)
      have later := tested.grown grows
      exact
        ⟨⟨later.attempts, fun ends => absurd rfl ends, nofun, nofun,
            nofun, later.exported, fun ends => absurd rfl ends,
            later.waiting⟩,
          nofun⟩
  | needsHuman =>
      refine leads_of_body tested fun running later grows => ?_
      have grown := tested.grown grows
      exact
        .done
          (completed_stopped grown.attempts nofun grown.exported nofun
            nofun)

end Nodes

section Invariant

variable {world after : WorkflowWorld}

/-- A run that has just been admitted has nothing that was tested. -/
theorem testedTables_initial
    (initial : world.Initial) :
    TestedTables setup world where
  fresh := by simp [initial.untested]
  unique := by simp [initial.untested]
  patched := by simp [initial.untested]
  testRuns test member ownRun :=
    absurd ownRun (initial.plane.noTest test member)
  artifacts artifact member ownRun :=
    absurd ownRun (initial.plane.noArtifact artifact member)
  waiting waits := by
    obtain ⟨id, runId, incidentPk, startedAt, admitted⟩ :=
      initial.plane.admitted
    rw [WorkflowWorld.store, admitted] at waits
    cases waits

/-- Setting the status at the end keeps the tables. -/
theorem testedTables_finished
    {claim : Option ClaimedRun}
    {current utcnow : Instant}
    {final : AgentState}
    (tables : TestedTables setup world)
    (tested : TestedFinal setup world final)
    (committed :
      world.commit setup
          (.fenced claim current
            (.markStatus .running (finalChange final utcnow))) =
        some after) :
    TestedTables setup after := by
  have grows := WorkflowWorld.grows_of_commit committed
  have wrote := WorkflowWorld.commitStore_of_commit committed
  obtain ⟨-, -, applied⟩ := Transaction.commitStore_eq_some.mp wrote
  obtain ⟨run, updated, written⟩ := Except.map_eq_ok applied
  obtain ⟨-, -, rfl⟩ := setStatus_eq_ok.mp updated
  obtain ⟨plane, -, rfl⟩ := WorkflowWorld.commit_eq_some.mp committed
  change plane.store = _ at written
  have sameTests : plane.store.testRuns = world.store.testRuns := by
    rw [written]
    rfl
  have sameArtifacts :
      plane.store.patchArtifacts = world.store.patchArtifacts := by
    rw [written]
    rfl
  refine
    ⟨tables.fresh, tables.unique, tables.patched, ?_, ?_, ?_⟩
  · intro test member ownRun
    exact
      tables.testRuns test (sameTests ▸ member)
        (ownRun.trans grows.store.sameRun)
  · intro artifact member ownRun
    exact tables.artifacts_grown grows (sameArtifacts ▸ member) ownRun
  · intro waits
    change plane.store.run.status = .waitingApproval at waits
    have isRun :
        plane.store.run =
          (finalChange final utcnow).apply world.store.run := by
      rw [written]
      rfl
    rw [isRun, StatusChange.apply_status] at waits
    obtain ⟨artifact, validated, named⟩ := tested.validated tables waits
    refine ⟨artifact, grows.store.validated validated, ?_⟩
    change plane.store.run.result.patchArtifactId = _
    rw [isRun, StatusChange.apply_result]
    exact named

/-- Everything that happens to a run keeps what was tested. -/
theorem testedPatches_inductive (setup : WorkflowSetup) :
    (testedPatches setup).Inductive setup where
  initial _ := testedTables_initial
  pushed world checkpoint tables :=
    tables.spared (.push world checkpoint) rfl (.refl _)
  stableCheckpoint grows tested := tested.grown grows
  stableProcess _ := id
  stablePersisted grows tested := tested.grown grows
  foreign := by
    intro world after transaction holds foreign committed
    have spares :=
      Transaction.commitStore_spares foreign
        (WorkflowWorld.commitStore_of_commit committed)
    have grows := WorkflowWorld.grows_of_commit committed
    obtain ⟨plane, -, rfl⟩ := WorkflowWorld.commit_eq_some.mp committed
    exact holds.tables.spared grows rfl spares
  drifted world seconds tables :=
    tables.spared
      ⟨.refl _, rfl, Nat.le_refl _, fun _ => id, fun _ => id⟩ rfl
      (.refl _)
  resumed _ tested resumes :=
    ⟨tested.attempts, fun ends => absurd rfl ends, nofun, nofun, nofun,
      tested.exported, fun ends => absurd rfl ends,
      fun waits => absurd waits resumes⟩
  begins world :=
    ⟨testedCheckpoint_fresh rfl rfl (.inl rfl) nofun, trivial⟩
  recovers := by
    intro world node state tested
    cases node with
    | generatePatch => exact fun _ _ present => nomatch present
    | runTests => exact fun _ _ present => nomatch present
    | exportPatchArtifact => exact fun _ _ _ present => nomatch present
    | _ => trivial
  node _ holds saved process :=
    node_leads saved (holds.thread _ saved) process
  failed world error :=
    testedCheckpoint_fresh rfl rfl (.inr rfl) nofun
  persists := by
    intro world after next final claim current loaded holds tested
      committed
    obtain ⟨tables, covered⟩ :=
      holds.tables.investigated tested.attempts committed
    exact
      ⟨tables,
        ⟨next, tested.grown (WorkflowWorld.grows_of_commit committed)⟩,
        covered⟩
  finishes _ _ _ holds tested committed :=
    testedTables_finished holds.tables tested committed

end Invariant

end IncidentPilot
