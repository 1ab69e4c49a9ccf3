import IncidentPilot.WorkflowGraph

/-!
# What the nodes do to the investigation

The evidence, the calls, the hypotheses and the root cause are one part of a
state.  The nodes that repair leave it alone; collecting only adds observations
of successful calls; and verifying concludes only on an observation that is new.
-/

namespace IncidentPilot

/-- An item of evidence is the observation of a successful call of the run. -/
structure Observes
    (tools : JsonTools)
    (runId : String)
    (call : ToolCall)
    (item : EvidenceItem) : Prop where
  ownRun : item.runId = runId
  named : call.toolCallId = item.toolCallId
  succeeded : call.status = .succeeded
  sameOutput : call.output = item.result
  hashed : item.hash = contentHash tools call.output
  sameTool : item.source = call.toolName

/-- Every item of evidence is the observation of one of the calls. -/
def ObservedBy
    (tools : JsonTools)
    (runId : String)
    (calls : List ToolCall)
    (evidence : List EvidenceItem) : Prop :=
  ∀ item ∈ evidence, ∃ call ∈ calls, Observes tools runId call item

/-- The second state is the first one once its last hypothesis was verified. -/
def VerifiesLast (proposed verified : AgentState) : Prop :=
  ∃ earlier opened judged,
    proposed.hypotheses = earlier ++ [opened] ∧
      opened.status = .opened ∧
      verified.hypotheses = earlier ++ [judged] ∧
      judged.status = .verified ∧
      judged.proposal.statement = opened.proposal.statement

/--
What a root cause rests on, given the state in which the last hypothesis was
proposed.
-/
structure Grounded
    (tools : JsonTools)
    (proposed state : AgentState)
    (rootCause : RootCause) : Prop where
  verifies : VerifiesLast proposed state
  cites : rootCause.evidenceIds ≠ []
  known :
    ∀ id ∈ rootCause.evidenceIds,
      ∃ item ∈ state.evidence, item.evidenceId = id
  observed :
    ObservedBy tools state.runId state.toolCalls state.evidence
  twoTools :
    ∃ first ∈ state.evidence,
      ∃ second ∈ state.evidence,
        first.evidenceId ∈ rootCause.evidenceIds ∧
          second.evidenceId ∈ rootCause.evidenceIds ∧
          first.source ≠ second.source
  independent :
    ∃ call, ∃ item ∈ state.evidence,
      item.evidenceId ∈ rootCause.evidenceIds ∧
        state.toolCalls = proposed.toolCalls ++ [call] ∧
        Observes tools state.runId call item ∧
        ∀ earlier ∈ proposed.evidence, earlier.hash ≠ item.hash

section Observations

variable {tools : JsonTools} {runId : String}
variable {calls : List ToolCall} {evidence : List EvidenceItem}

/-- Evidence stays observed when more calls are made. -/
theorem ObservedBy.called
    (observed : ObservedBy tools runId calls evidence)
    (call : ToolCall) :
    ObservedBy tools runId (calls ++ [call]) evidence := by
  intro item member
  obtain ⟨observing, made, observes⟩ := observed item member
  exact ⟨observing, List.mem_append_left _ made, observes⟩

/-- Part of observed evidence is observed. -/
theorem ObservedBy.subset
    {kept : List EvidenceItem}
    (observed : ObservedBy tools runId calls evidence)
    (subset : ∀ item ∈ kept, item ∈ evidence) :
    ObservedBy tools runId calls kept :=
  fun item member => observed item (subset item member)

/-- The evidence that the filter keeps is observed. -/
theorem ObservedBy.filtered
    (observed : ObservedBy tools runId calls evidence) :
    ObservedBy tools runId calls
      (validEvidence tools evidence calls runId) :=
  observed.subset fun _ member => (mem_validEvidence member).1

end Observations

/-- What a call was observed as, it was observed as. -/
theorem observationOf_observes
    {tools : WorkflowTools}
    {runId sourceType : String}
    {selection : ToolSelection}
    {call : ToolCall}
    {evidenceId : Uuid}
    (recorded : RecordedRight selection.toolName call)
    (succeeded : call.status = .succeeded) :
    Observes tools.json runId call
      (observationOf tools runId selection sourceType call
        evidenceId) where
  ownRun := rfl
  named := rfl
  succeeded := succeeded
  sameOutput := rfl
  hashed := rfl
  sameTool := recorded.named.symm

/-- Evidence with the observation of the newest call is observed. -/
theorem ObservedBy.observed
    {tools : WorkflowTools}
    {runId sourceType : String}
    {calls : List ToolCall}
    {evidence : List EvidenceItem}
    {selection : ToolSelection}
    {call : ToolCall}
    {evidenceId : Uuid}
    (observed : ObservedBy tools.json runId calls evidence)
    (recorded : RecordedRight selection.toolName call)
    (succeeded : call.status = .succeeded) :
    ObservedBy tools.json runId (calls ++ [call])
      (evidence ++
        [observationOf tools runId selection sourceType call
          evidenceId]) := by
  intro item member
  rcases List.mem_append.mp member with before | newest
  · exact observed.called call item before
  · obtain rfl := List.mem_singleton.mp newest
    exact
      ⟨call, List.mem_append_right _ List.mem_cons_self,
        observationOf_observes recorded succeeded⟩

/-- The part of a state that belongs to the investigation. -/
structure Investigation where
  runId : String
  evidence : List EvidenceItem
  toolCalls : List ToolCall
  hypotheses : List Hypothesis
  rootCause : Option RootCause
  investigationSteps : Option Nat

/-- The investigation of a state. -/
def AgentState.investigation (state : AgentState) : Investigation where
  runId := state.runId
  evidence := state.evidence
  toolCalls := state.toolCalls
  hypotheses := state.hypotheses
  rootCause := state.rootCause
  investigationSteps := state.result.investigationSteps

/-- A root cause stays grounded while the investigation is not touched. -/
theorem Grounded.unchanged
    {tools : JsonTools}
    {proposed before after : AgentState}
    {rootCause : RootCause}
    (grounded : Grounded tools proposed before rootCause)
    (same : after.investigation = before.investigation) :
    Grounded tools proposed after rootCause := by
  have runId : after.runId = before.runId :=
    congrArg Investigation.runId same
  have evidence : after.evidence = before.evidence :=
    congrArg Investigation.evidence same
  have toolCalls : after.toolCalls = before.toolCalls :=
    congrArg Investigation.toolCalls same
  have hypotheses : after.hypotheses = before.hypotheses :=
    congrArg Investigation.hypotheses same
  constructor
  · obtain ⟨earlier, opened, judged, rest⟩ := grounded.verifies
    exact ⟨earlier, opened, judged, hypotheses ▸ rest⟩
  · exact grounded.cites
  · rw [evidence]
    exact grounded.known
  · rw [runId, toolCalls, evidence]
    exact grounded.observed
  · rw [evidence]
    exact grounded.twoTools
  · rw [runId, toolCalls, evidence]
    exact grounded.independent

/-- A node runs behind its guard, or its session is returned as it was. -/
theorem guarded_always
    {node : Session → WorkflowProgram Session}
    {session : Session}
    {holds : Session → Prop}
    (skipped : session.state.status ≠ .running → holds session)
    (runs :
      session.state.status = .running →
      (node session.syncBudget).Always holds) :
    (guarded node session).Always holds := by
  unfold guarded
  split
  · rename_i stopped
    exact skipped stopped
  · rename_i running
    refine .bind ((Program.Always.trivially _).mono fun _ _ => ?_)
    refine .bind ((runs (not_not.mp running)).mono ?_)
    intro outcome good
    exact .bind ((Program.Always.trivially _).mono fun _ _ => good)

/-- The investigation, and what it may still spend, are left alone. -/
structure Session.SameInvestigation (before after : Session) : Prop where
  state : after.state.investigation = before.state.investigation
  budget : after.budget = before.budget

namespace Session.SameInvestigation

/-- What is left alone twice is left alone. -/
theorem trans
    {first second third : Session}
    (left : first.SameInvestigation second)
    (right : second.SameInvestigation third) :
    first.SameInvestigation third :=
  ⟨right.state.trans left.state, right.budget.trans left.budget⟩

end Session.SameInvestigation

section Untouched

variable (tools : WorkflowTools) (settings : WorkflowSettings)

/-- Planning is no part of the investigation. -/
theorem planNode_same (session : Session) :
    (planNode settings session).Always session.SameInvestigation := by
  unfold planNode
  exact .bind ((Program.Always.trivially _).mono fun plan _ => ⟨rfl, rfl⟩)

/-- Creating a sandbox is no part of the investigation. -/
theorem createSandboxNode_same (session : Session) :
    (createSandboxNode tools settings session).Always
      session.SameInvestigation := by
  unfold createSandboxNode
  dsimp only
  split
  · exact ⟨rfl, rfl⟩
  · refine .bind ((Program.Always.trivially _).mono fun created _ => ?_)
    split <;> exact ⟨rfl, rfl⟩

/-- Replaying a patch is no part of the investigation. -/
theorem replayPatch_same
    (session : Session)
    (runtime : SandboxRuntime) :
    (replayPatch tools session runtime).Always
      session.SameInvestigation := by
  unfold replayPatch
  split
  · split
    · trivial
    · refine .bind ((Program.Always.trivially _).mono ?_)
      rintro ⟨applied, outcome⟩ -
      cases outcome with
      | error message => trivial
      | ok => exact ⟨rfl, rfl⟩
  · exact ⟨rfl, rfl⟩

/-- Ensuring a workspace is no part of the investigation. -/
theorem ensureWorkspace_same (replay : Bool) (session : Session) :
    (ensureWorkspace tools settings replay session).Always fun ensured =>
      session.SameInvestigation ensured.1 := by
  unfold ensureWorkspace
  split
  · exact ⟨rfl, rfl⟩
  · refine
      .bind ((createSandboxNode_same tools settings session).mono ?_)
    intro created same
    split
    · exact same
    · split
      · exact same
      · split
        · refine
            .bind ((replayPatch_same tools created _).mono ?_)
          exact fun replayed unchanged => same.trans unchanged
        · exact same

/-- Attempting a patch is no part of the investigation. -/
theorem attemptPatch_same
    (session : Session)
    (runtime : SandboxRuntime) :
    (attemptPatch tools settings session runtime).Always
      session.SameInvestigation := by
  unfold attemptPatch
  dsimp only
  split
  · exact ⟨rfl, rfl⟩
  · refine .bind ((Program.Always.trivially _).mono fun patch _ => ?_)
    refine .bind ((Program.Always.trivially _).mono ?_)
    rintro ⟨applied, outcome⟩ -
    cases outcome <;> exact ⟨rfl, rfl⟩

/-- Generating a patch is no part of the investigation. -/
theorem generatePatchNode_same (session : Session) :
    (generatePatchNode tools settings session).Always
      session.SameInvestigation := by
  unfold generatePatchNode
  refine .bind ((ensureWorkspace_same tools settings _ _).mono ?_)
  rintro ⟨ensured, manager⟩ same
  have kept : session.SameInvestigation ensured :=
    ⟨same.state, same.budget⟩
  cases manager with
  | none =>
      exact kept.trans ⟨rfl, rfl⟩
  | some runtime =>
      have attempted :=
        (attemptPatch_same tools settings ensured runtime).mono
          fun after unchanged => kept.trans unchanged
      dsimp only
      split
      · exact attempted
      · split
        · trivial
        · exact attempted

/-- Running the tests is no part of the investigation. -/
theorem runTestsNode_same (session : Session) :
    (runTestsNode tools settings session).Always
      session.SameInvestigation := by
  unfold runTestsNode
  refine .bind ((ensureWorkspace_same tools settings _ _).mono ?_)
  rintro ⟨ensured, manager⟩ same
  cases manager with
  | none =>
      exact ⟨same.state, same.budget⟩
  | some runtime =>
      refine .bind ((Program.Always.trivially _).mono fun report _ => ?_)
      cases report <;> exact ⟨same.state, same.budget⟩

/-- Exporting an artifact is no part of the investigation. -/
theorem exportArtifact_same
    (session : Session)
    (runtime : SandboxRuntime) :
    (exportArtifact tools session runtime).Always
      session.SameInvestigation := by
  unfold exportArtifact
  refine .bind ((Program.Always.trivially _).mono fun id _ => ?_)
  refine .bind ((Program.Always.trivially _).mono fun persisted _ => ?_)
  exact ⟨rfl, rfl⟩

/-- Exporting is no part of the investigation, also when it tests again. -/
theorem exportArtifactNode_same (session : Session) :
    (exportArtifactNode tools settings session).Always
      session.SameInvestigation := by
  unfold exportArtifactNode
  dsimp only
  split
  · exact
      (exportArtifact_same tools _ _).mono fun after same =>
        ⟨same.state, same.budget⟩
  · refine .bind ((runTestsNode_same tools settings _).mono ?_)
    intro tested same
    have kept : session.SameInvestigation tested :=
      ⟨same.state, same.budget⟩
    split
    · exact kept.trans ⟨rfl, rfl⟩
    · split
      · exact kept.trans ⟨rfl, rfl⟩
      · exact
          (exportArtifact_same tools tested _).mono
            fun after unchanged => kept.trans unchanged

end Untouched

section Collecting

variable {tools : WorkflowTools} {settings : WorkflowSettings}

/-- The collection an iteration of the loop ends with. -/
def loopValue : ForInStep Collection → Collection
  | .done collection => collection
  | .yield collection => collection

/-- The rule for an iteration: it calls a tool, or it stops, or it is done. -/
theorem collectStep_always
    (holds : Collection → Prop)
    {collection : Collection}
    (done : holds collection)
    (insufficient :
      ∀ reason,
        holds
          { collection with
            state := collection.state.insufficient.because reason })
    (handedOver :
      ∀ reason,
        holds
          { collection with
            state := collection.state.handedOver.because reason })
    (observed :
      ∀ selection,
        (observe tools settings collection selection).Always fun step =>
          holds (loopValue step)) :
    (collectStep tools settings collection).Always fun step =>
      holds (loopValue step) := by
  unfold collectStep
  refine .bind ((Program.Always.trivially _).mono fun action _ => ?_)
  cases action.action with
  | insufficientEvidence => exact insufficient _
  | needsHuman => exact handedOver _
  | collectEvidence =>
      dsimp only
      split
      · exact insufficient _
      · exact observed _
  | _ => exact done

/-- The rule for the loop, by induction on the steps it has left. -/
theorem collectLoop_always
    {holds : Collection → Prop}
    (recorded :
      ∀ collection,
        holds collection →
        holds { collection with budget := collection.budget.recordStep })
    (iterates :
      ∀ collection,
        holds collection →
        (collectStep tools settings collection).Always fun step =>
          holds (loopValue step))
    (remaining : Nat)
    {collection : Collection}
    (begins : holds collection) :
    (collectLoop tools settings remaining collection).Always holds := by
  induction remaining generalizing collection with
  | zero =>
      exact begins
  | succ remaining inductionHypothesis =>
      refine
        .bind ((iterates _ (recorded collection begins)).mono ?_)
      intro step stepHolds
      cases step with
      | done last => exact stepHolds
      | yield next => exact inductionHypothesis stepHolds

/-- What a collection keeps of the state it started from. -/
structure Collection.Keeps
    (tools : WorkflowTools)
    (start : AgentState)
    (collection : Collection) : Prop where
  runId : collection.state.runId = start.runId
  hypotheses : collection.state.hypotheses = start.hypotheses
  rootCause : collection.state.rootCause = start.rootCause
  observed :
    ObservedBy tools.json start.runId collection.toolCalls
      collection.evidence

/-- The evidence with an observation is observed. -/
theorem withObservation_observed
    {collection : Collection}
    {selection : ToolSelection}
    {call : ToolCall}
    (observed :
      ObservedBy tools.json collection.state.runId collection.toolCalls
        collection.evidence)
    (recorded : RecordedRight selection.toolName call) :
    (withObservation tools collection selection call).Always
      fun evidence =>
        ObservedBy tools.json collection.state.runId
          (collection.toolCalls ++ [call]) evidence := by
  unfold withObservation
  split
  · rename_i succeeded
    exact
      .bind
        (freshId_always fun _ => observed.observed recorded succeeded)
  · exact observed.called call

/-- A call of the loop keeps what a collection keeps. -/
theorem observe_keeps
    {start : AgentState}
    {collection : Collection}
    (selection : ToolSelection)
    (keeps : collection.Keeps tools start) :
    (observe tools settings collection selection).Always fun step =>
      (loopValue step).Keeps tools start := by
  have sameRun := keeps.runId
  have called :=
    ToolGateway.call_right tools.json readonlyRegistry collection.budget
      selection.toolName selection.arguments
  unfold observe
  refine .bind (called.mono ?_)
  rintro ⟨call, budget⟩ recorded
  dsimp only
  split
  · exact
      ⟨keeps.runId, keeps.hypotheses, keeps.rootCause,
        keeps.observed.called call⟩
  · refine
      .bind
        ((withObservation_observed (sameRun ▸ keeps.observed)
          recorded).mono ?_)
    intro evidence observed
    rw [sameRun] at observed
    split
    · exact
        ⟨keeps.runId, keeps.hypotheses, keeps.rootCause, observed⟩
    · exact
        ⟨keeps.runId, keeps.hypotheses, keeps.rootCause, observed⟩

/-- The loop keeps what a collection keeps, however often it goes round. -/
theorem collectLoop_keeps
    {start : AgentState}
    (remaining : Nat)
    {collection : Collection}
    (keeps : collection.Keeps tools start) :
    (collectLoop tools settings remaining collection).Always
      (Collection.Keeps tools start) := by
  refine collectLoop_always ?_ ?_ remaining keeps
  · rintro _ ⟨runId, hypotheses, rootCause, observed⟩
    exact ⟨runId, hypotheses, rootCause, observed⟩
  · intro collection kept
    have ⟨runId, hypotheses, rootCause, observed⟩ := kept
    exact
      collectStep_always _ kept
        (fun _ => ⟨runId, hypotheses, rootCause, observed⟩)
        (fun _ => ⟨runId, hypotheses, rootCause, observed⟩)
        (fun selection => observe_keeps selection kept)

/-- Closing a collection changes only how the run goes on. -/
theorem closeCollection_investigation (collection : Collection) :
    (closeCollection collection).investigation =
      { runId := collection.state.runId
        evidence := collection.evidence
        toolCalls := collection.toolCalls
        hypotheses := collection.state.hypotheses
        rootCause := collection.state.rootCause
        investigationSteps :=
          if collection.evidence = [] then none
          else some collection.budget.stepCount } := by
  unfold closeCollection
  dsimp only
  split <;> split <;> simp [AgentState.investigation,
    AgentState.insufficient, AgentState.handedOver, AgentState.stop, *]

/-- Collecting keeps the hypotheses, the root cause and the observations. -/
theorem collectEvidenceNode_observed
    (session : Session)
    (observed :
      ObservedBy tools.json session.state.runId session.state.toolCalls
        session.state.evidence) :
    (collectEvidenceNode tools settings session).Always fun after =>
      after.state.runId = session.state.runId ∧
        after.state.rootCause = session.state.rootCause ∧
        ObservedBy tools.json after.state.runId after.state.toolCalls
          after.state.evidence := by
  unfold collectEvidenceNode
  refine
    .bind
      ((collectLoop_keeps _
        (⟨rfl, rfl, rfl, observed⟩ :
          Collection.Keeps tools session.state _)).mono ?_)
  intro collection keeps
  have closed := closeCollection_investigation collection
  have runId : (closeCollection collection).runId = _ :=
    congrArg Investigation.runId closed
  have toolCalls : (closeCollection collection).toolCalls = _ :=
    congrArg Investigation.toolCalls closed
  have evidence : (closeCollection collection).evidence = _ :=
    congrArg Investigation.evidence closed
  have rootCause : (closeCollection collection).rootCause = _ :=
    congrArg Investigation.rootCause closed
  simp only [Program.Always]
  rw [runId, toolCalls, evidence, rootCause]
  exact
    ⟨keeps.runId, keeps.rootCause, keeps.runId.symm ▸ keeps.observed⟩

end Collecting

section Proposing

variable {tools : WorkflowTools} {settings : WorkflowSettings}

/-- The last hypothesis of a state has not been judged. -/
def AgentState.Proposes (state : AgentState) : Prop :=
  ∃ earlier opened,
    state.hypotheses = earlier ++ [opened] ∧ opened.status = .opened

/-- What a state is like once a hypothesis was to be formed. -/
structure FormedFrom
    (tools : JsonTools)
    (before after : AgentState) : Prop where
  runId : after.runId = before.runId
  observed :
    ObservedBy tools before.runId after.toolCalls after.evidence
  unverified :
    ∀ rootCause,
      after.rootCause = some rootCause →
      rootCause.verified = false
  unconcluded : after.status = .running → after.rootCause = none
  proposes : after.status = .running → after.Proposes

/-- A state without a root cause that stops is one that was formed. -/
theorem FormedFrom.stopped
    {before after : AgentState}
    (runId : after.runId = before.runId)
    (observed :
      ObservedBy tools.json before.runId after.toolCalls after.evidence)
    (unconcluded : after.rootCause = none)
    (stops : after.status ≠ .running) :
    FormedFrom tools.json before after where
  runId := runId
  observed := observed
  unverified _ concluded :=
    absurd concluded (unconcluded ▸ nofun)
  unconcluded _ := unconcluded
  proposes running := absurd running stops

/-- A direct diagnosis is never verified. -/
theorem directDiagnosis_formed
    {before state : AgentState}
    (runId : state.runId = before.runId)
    (observed :
      ObservedBy tools.json before.runId state.toolCalls state.evidence)
    (unconcluded : state.rootCause = none) :
    (directDiagnosis state).Always fun after =>
      FormedFrom tools.json before after := by
  unfold directDiagnosis
  refine
    .bind ((Program.Always.trivially _).mono fun conclusion _ => ?_)
  split
  · exact
      ⟨runId, observed, by rintro _ ⟨⟩; rfl, nofun, nofun⟩
  · exact .stopped runId observed unconcluded nofun

/-- A hypothesis that is proposed is still to be judged. -/
theorem proposeHypothesis_formed
    {before state : AgentState}
    (runId : state.runId = before.runId)
    (observed :
      ObservedBy tools.json before.runId state.toolCalls state.evidence)
    (unconcluded : state.rootCause = none) :
    (proposeHypothesis state).Always fun after =>
      FormedFrom tools.json before after := by
  unfold proposeHypothesis
  refine
    .bind ((Program.Always.trivially _).mono fun proposal _ => ?_)
  split
  · exact
      ⟨runId, observed,
        fun _ concluded => absurd concluded (unconcluded ▸ nofun),
        fun _ => unconcluded, fun _ => ⟨_, _, rfl, rfl⟩⟩
  · exact .stopped runId observed unconcluded nofun

/-- Forming a hypothesis proposes one, or stops. -/
theorem formHypothesisNode_formed
    (session : Session)
    (running : session.state.status = .running)
    (observed :
      ObservedBy tools.json session.state.runId session.state.toolCalls
        session.state.evidence)
    (unconcluded : session.state.rootCause = none) :
    (formHypothesisNode tools settings session).Always fun after =>
      FormedFrom tools.json session.state after.state := by
  unfold formHypothesisNode
  refine .bind ?_
  unfold formHypothesis
  split
  · rename_i stopped
    exact absurd running stopped
  · dsimp only
    split
    · exact .stopped rfl observed.filtered unconcluded nofun
    · split
      · exact directDiagnosis_formed rfl observed.filtered unconcluded
      · exact proposeHypothesis_formed rfl observed.filtered unconcluded

end Proposing

section Verifying

variable {tools : WorkflowTools} {settings : WorkflowSettings}

/-- Two of some words differ when not all of them are one. -/
theorem exists_ne_of_two_le_dedup
    {words : List String}
    (two : 2 ≤ words.dedup.length) :
    ∃ first ∈ words, ∃ second ∈ words, first ≠ second := by
  have distinct := words.nodup_dedup
  match spelled : words.dedup, two with
  | first :: second :: rest, _ =>
      rw [spelled] at distinct
      refine
        ⟨first, List.mem_dedup.mp (spelled ▸ List.mem_cons_self),
          second, List.mem_dedup.mp ?_,
          (List.nodup_cons.mp distinct).1 ∘ ?_⟩
      · rw [spelled]
        exact List.mem_cons_of_mem _ List.mem_cons_self
      · rintro rfl
        exact List.mem_cons_self

/-- What a conclusion that is accepted cites. -/
structure CitesWell
    (cited : List Uuid)
    (evidence : List EvidenceItem) : Prop where
  cites : cited ≠ []
  known :
    ∀ id ∈ cited, ∃ item ∈ evidence, item.evidenceId = id
  last :
    ∃ item, evidence.getLast? = some item ∧ item.evidenceId ∈ cited
  twoTools :
    ∃ first ∈ evidence, ∃ second ∈ evidence,
      first.evidenceId ∈ cited ∧
        second.evidenceId ∈ cited ∧
        first.source ≠ second.source

/-- A conclusion that is accepted cites well. -/
theorem acceptsConclusion_cites
    {conclusion : RootCauseConclusion}
    {evidence : List EvidenceItem}
    (accepts : acceptsConclusion settings conclusion evidence = true) :
    CitesWell conclusion.supportingEvidenceIds evidence := by
  simp only [acceptsConclusion, citesKnown, evidenceIds,
    Bool.and_eq_true, Bool.not_eq_true', List.all_eq_true,
    List.contains_iff_mem, decide_eq_true_eq] at accepts
  obtain ⟨⟨⟨⟨cites, known⟩, last⟩, two⟩, -⟩ := accepts
  constructor
  · rintro nothing
    rw [nothing] at cites
    cases cites
  · intro id member
    obtain ⟨item, inEvidence, named⟩ :=
      List.mem_map.mp (known id member)
    exact ⟨item, inEvidence, named⟩
  · rw [Option.any_eq_true] at last
    obtain ⟨item, isLast, isCited⟩ := last
    exact ⟨item, isLast, List.contains_iff_mem.mp isCited⟩
  · obtain ⟨_, first, _, second, differ⟩ :=
      exists_ne_of_two_le_dedup two
    simp only [citedSources, List.mem_map, List.mem_filter,
      List.contains_iff_mem] at first second
    obtain ⟨one, ⟨inEvidence, isCited⟩, rfl⟩ := first
    obtain ⟨other, ⟨alsoInEvidence, alsoCited⟩, rfl⟩ := second
    exact
      ⟨one, inEvidence, other, alsoInEvidence, isCited, alsoCited,
        differ⟩

/-- What verifying leaves of the state in which a hypothesis was proposed. -/
structure VerifiedFrom
    (tools : JsonTools)
    (proposed after : AgentState) : Prop where
  runId : after.runId = proposed.runId
  observed :
    ObservedBy tools proposed.runId after.toolCalls after.evidence
  grounded :
    ∀ rootCause,
      after.rootCause = some rootCause →
      Grounded tools proposed after rootCause

/-- A state without a root cause is one that verifying may leave. -/
theorem VerifiedFrom.unconcluded
    {proposed after : AgentState}
    (runId : after.runId = proposed.runId)
    (observed :
      ObservedBy tools.json proposed.runId after.toolCalls
        after.evidence)
    (unconcluded : after.rootCause = none) :
    VerifiedFrom tools.json proposed after where
  runId := runId
  observed := observed
  grounded _ concluded := absurd concluded (unconcluded ▸ nofun)

/--
What the state is like in which a conclusion is asked for: the last evidence is
the observation of the one call made since the hypothesis was proposed.
-/
structure Observing
    (tools : JsonTools)
    (proposed state : AgentState)
    (call : ToolCall)
    (item : EvidenceItem) : Prop where
  runId : state.runId = proposed.runId
  observed :
    ObservedBy tools proposed.runId state.toolCalls state.evidence
  unconcluded : state.rootCause = none
  toolCalls : state.toolCalls = proposed.toolCalls ++ [call]
  last : state.evidence.getLast? = some item
  observes : Observes tools proposed.runId call item
  independent :
    ∀ earlier ∈ proposed.evidence, earlier.hash ≠ item.hash

/-- A conclusion that is taken is grounded. -/
theorem concludeRootCause_verified
    {proposed state : AgentState}
    {call : ToolCall}
    {item : EvidenceItem}
    (observing : Observing tools.json proposed state call item)
    (verifies : VerifiesLast proposed state)
    (proposal : HypothesisProposal) :
    (concludeRootCause settings state proposal).Always fun after =>
      VerifiedFrom tools.json proposed after := by
  unfold concludeRootCause
  refine
    .bind ((Program.Always.trivially _).mono fun conclusion _ => ?_)
  split
  · rename_i accepts
    have well := acceptsConclusion_cites accepts
    obtain ⟨last, isLast, isCited⟩ := well.last
    rw [observing.last] at isLast
    cases isLast
    refine ⟨observing.runId, observing.observed, ?_⟩
    rintro _ ⟨⟩
    refine
      { verifies := verifies
        cites := well.cites
        known := well.known
        observed := ?_
        twoTools := well.twoTools
        independent := ?_ }
    · exact observing.runId.symm ▸ observing.observed
    · exact
        ⟨call, item, List.mem_of_getLast? observing.last, isCited,
          observing.toolCalls,
          observing.runId.symm ▸ observing.observes,
          observing.independent⟩
  · exact
      .unconcluded observing.runId observing.observed
        observing.unconcluded

/-- A hypothesis that is judged is the last one of the proposed state. -/
theorem judgeHypothesis_verified
    {proposed state : AgentState}
    (call : ToolCall)
    (item : EvidenceItem)
    {earlier : List Hypothesis}
    {hypothesis : Hypothesis}
    (observing : Observing tools.json proposed state call item)
    (last : proposed.hypotheses = earlier ++ [hypothesis])
    (opened : hypothesis.status = .opened)
    (budget : BudgetTracker) :
    (judgeHypothesis settings state budget earlier hypothesis).Always
      fun after => VerifiedFrom tools.json proposed after := by
  unfold judgeHypothesis
  refine .bind ((Program.Always.trivially _).mono fun decision _ => ?_)
  dsimp only
  split
  · rename_i supported
    have verified :
        (hypothesis.judged decision state.evidence).status =
          .verified := by
      simp [Hypothesis.judged, supported]
    have stillObserving :
        Observing tools.json proposed
          { state with
            hypotheses :=
              earlier ++ [hypothesis.judged decision state.evidence] }
          call item :=
      ⟨observing.runId, observing.observed, observing.unconcluded,
        observing.toolCalls, observing.last, observing.observes,
        observing.independent⟩
    exact
      concludeRootCause_verified stillObserving
        ⟨earlier, hypothesis, _, last, opened, rfl, verified, rfl⟩ _
  · unfold rejectHypothesis
    dsimp only
    split
    · exact
        .unconcluded observing.runId observing.observed
          observing.unconcluded
    · exact
        .unconcluded observing.runId observing.observed
          observing.unconcluded

/-- The observation of the newest call is valid evidence. -/
theorem observationOf_valid
    (runId sourceType : String)
    (calls : List ToolCall)
    (evidenceId : Uuid)
    {selection : ToolSelection}
    {call : ToolCall}
    (recorded : RecordedRight selection.toolName call)
    (succeeded : call.status = .succeeded) :
    validItem tools.json (calls ++ [call]) runId
      (observationOf tools runId selection sourceType call
        evidenceId) = true := by
  have complete := recorded.complete succeeded
  have found :
      successfulCall (calls ++ [call]) call.toolCallId = some call :=
    successfulCall_append succeeded
  simp [validItem, observationOf, found, complete.truthy,
    Json.equal_refl, complete.noError, complete.notPartial,
    complete.notTruncated]

/-- Filtering keeps an observation whose content no evidence has. -/
theorem validEvidence_observation
    (runId sourceType : String)
    (evidenceId : Uuid)
    {calls : List ToolCall}
    {evidence : List EvidenceItem}
    {selection : ToolSelection}
    {call : ToolCall}
    (observed : ObservedBy tools.json runId calls evidence)
    (recorded : RecordedRight selection.toolName call)
    (succeeded : call.status = .succeeded)
    (unseen :
      ∀ item ∈ evidence,
        item.hash ≠ contentHash tools.json call.output) :
    validEvidence tools.json
        (evidence ++
          [observationOf tools runId selection sourceType call
            evidenceId])
        (calls ++ [call]) runId =
      validEvidence tools.json evidence (calls ++ [call]) runId ++
        [observationOf tools runId selection sourceType call
          evidenceId] := by
  have valid :
      validItem tools.json (calls ++ [call]) runId
        (observationOf tools runId selection sourceType call
          evidenceId) = true :=
    observationOf_valid runId sourceType calls evidenceId recorded
      succeeded
  refine validEvidenceFrom_append valid ?_ List.not_mem_nil
  intro item member same
  obtain ⟨observing, -, observes⟩ := observed item member
  have hashed : item.hash = contentHash tools.json item.result :=
    observes.sameOutput ▸ observes.hashed
  exact unseen item member (hashed.trans same.symm)

/-- An observation that is made to verify is the last evidence afterwards. -/
theorem verifyWith_verified
    {proposed : AgentState}
    {earlier : List Hypothesis}
    {hypothesis : Hypothesis}
    {selection : ToolSelection}
    {source : ToolCall}
    (observed :
      ObservedBy tools.json proposed.runId proposed.toolCalls
        proposed.evidence)
    (unconcluded : proposed.rootCause = none)
    (last : proposed.hypotheses = earlier ++ [hypothesis])
    (opened : hypothesis.status = .opened)
    (recorded : RecordedRight selection.toolName source)
    (workflowState : WorkflowState)
    (budget : BudgetTracker) :
    (verifyWith tools settings
      { proposed with
        workflowState := workflowState
        toolCalls := proposed.toolCalls ++ [source] }
      budget earlier hypothesis selection source).Always fun after =>
        VerifiedFrom tools.json proposed after := by
  unfold verifyWith
  split
  · exact .unconcluded rfl (observed.called source) unconcluded
  · rename_i independent
    simp only [not_or, ne_eq, not_not] at independent
    obtain ⟨succeeded, seen⟩ := independent
    refine .bind (freshId_always fun evidenceId => ?_)
    have unseen :
        ∀ item ∈ proposed.evidence,
          item.hash ≠ contentHash tools.json source.output :=
      fun item member same =>
        seen (same ▸ List.mem_map_of_mem member)
    have kept :
        validEvidence tools.json _ (proposed.toolCalls ++ [source])
            proposed.runId = _ :=
      validEvidence_observation proposed.runId "verification" evidenceId
        observed recorded succeeded unseen
    refine
      judgeHypothesis_verified source
        (observationOf tools proposed.runId selection "verification"
          source evidenceId)
        ?_ last opened budget
    refine
      ⟨rfl, (observed.observed recorded succeeded).filtered,
        unconcluded, rfl, ?_, observationOf_observes recorded succeeded,
        unseen⟩
    dsimp only
    rw [kept, List.getLast?_concat]

/-- Verifying leaves a root cause only when it is grounded. -/
theorem verifyHypothesisNode_verified
    (session : Session)
    (observed :
      ObservedBy tools.json session.state.runId session.state.toolCalls
        session.state.evidence)
    (unconcluded : session.state.rootCause = none)
    (proposes : session.state.Proposes) :
    (verifyHypothesisNode tools settings session).Always fun after =>
      VerifiedFrom tools.json session.state after.state := by
  obtain ⟨earlier, opened, hypotheses, isOpen⟩ := proposes
  have isLast : session.state.hypotheses.getLast? = some opened := by
    rw [hypotheses, List.getLast?_concat]
  have others : session.state.hypotheses.dropLast = earlier := by
    rw [hypotheses, List.dropLast_concat]
  unfold verifyHypothesisNode
  simp only [Session.withState, isLast, others]
  split
  · exact .unconcluded rfl observed unconcluded
  · unfold verifyHypothesis
    refine
      .bind ((Program.Always.trivially _).mono fun selection _ => ?_)
    have called :=
      ToolGateway.call_right tools.json readonlyRegistry session.budget
        selection.toolName selection.arguments
    refine .bind (called.mono ?_)
    rintro ⟨source, budget⟩ recorded
    refine .bind ?_
    exact
      verifyWith_verified observed unconcluded hypotheses isOpen recorded
        _ budget

end Verifying

end IncidentPilot
