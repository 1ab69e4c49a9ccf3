import IncidentPilot.Investigation
import IncidentPilot.WorkflowReplay

/-!
# The evidence gate

What a verified root cause rests on, in every state a run of the workflow comes
to, whatever the model answers and the tools return.
-/

namespace IncidentPilot

/-- The nodes before a root cause is found. -/
def WorkflowNode.investigates : WorkflowNode → Bool
  | plan => true
  | collectEvidence => true
  | formHypothesis => true
  | verifyHypothesis => true
  | _ => false

/-- What running a node makes of a state. -/
structure Gates
    (tools : JsonTools)
    (settings : WorkflowSettings)
    (node : WorkflowNode)
    (before : AgentState)
    (after : Session) : Prop where
  runId : after.state.runId = before.runId
  observed :
    ObservedBy tools before.runId after.state.toolCalls
      after.state.evidence
  unconcluded :
    ∀ following,
      node.next settings after = some following →
      following.investigates = true →
      after.state.rootCause = none
  proposes :
    node.next settings after = some .verifyHypothesis →
    after.state.Proposes
  grounded :
    ∀ rootCause,
      after.state.rootCause = some rootCause →
      rootCause.verified = true →
      (before.rootCause = some rootCause ∧
          after.state.investigation = before.investigation) ∨
        (node = .verifyHypothesis ∧
          Grounded tools before after.state rootCause)

section Nodes

variable {tools : WorkflowTools} {settings : WorkflowSettings}
variable {node : WorkflowNode} {session : Session}

/-- No node that repairs leads back to the investigation. -/
theorem next_investigates
    {following : WorkflowNode}
    (follows : node.next settings session = some following)
    (investigates : following.investigates = true) :
    node.investigates = true := by
  cases node with
  | runTests =>
      simp only [WorkflowNode.next, WorkflowNode.afterTests] at follows
      split at follows
      · cases follows
        revert investigates
        split
        · nofun
        · split <;> nofun
      · cases follows
  | generatePatch =>
      simp only [WorkflowNode.next, WorkflowNode.afterPatch] at follows
      cases follows
      revert investigates
      split <;> nofun
  | createSandbox =>
      simp only [WorkflowNode.next] at follows
      split at follows <;> cases follows
      cases investigates
  | reflect =>
      cases follows
      cases investigates
  | exportPatchArtifact =>
      cases follows
      cases investigates
  | waitForApproval =>
      cases follows
  | needsHuman =>
      cases follows
  | _ =>
      rfl

/-- Only a run that goes on after a hypothesis was formed verifies it. -/
theorem next_eq_verifyHypothesis
    (follows : node.next settings session = some .verifyHypothesis) :
    node = .formHypothesis ∧ session.state.status = .running := by
  have investigates := next_investigates follows rfl
  cases node with
  | formHypothesis =>
      simp only [WorkflowNode.next] at follows
      split at follows
      · rename_i running
        exact ⟨rfl, running⟩
      · cases follows
  | verifyHypothesis =>
      simp only [WorkflowNode.next, WorkflowNode.afterVerify] at follows
      split at follows
      · split at follows
        · cases follows
        · split at follows <;> cases follows
      · cases follows
  | collectEvidence =>
      simp only [WorkflowNode.next] at follows
      split at follows <;> cases follows
  | plan =>
      cases follows
  | _ =>
      cases investigates

/-- What is asked of the state a node starts from. -/
structure GatedState
    (tools : JsonTools)
    (node : WorkflowNode)
    (state : AgentState) : Prop where
  observed :
    ObservedBy tools state.runId state.toolCalls state.evidence
  unconcluded : node.investigates = true → state.rootCause = none
  proposes : node = .verifyHypothesis → state.Proposes

/-- A node that leaves the investigation alone gates. -/
theorem Gates.untouched
    {before : AgentState}
    {after : Session}
    (gated : GatedState tools.json node before)
    (same : after.state.investigation = before.investigation)
    (stops :
      node = .formHypothesis → after.state.status ≠ .running) :
    Gates tools.json settings node before after where
  runId := congrArg Investigation.runId same
  observed := by
    have evidence : after.state.evidence = before.evidence :=
      congrArg Investigation.evidence same
    have toolCalls : after.state.toolCalls = before.toolCalls :=
      congrArg Investigation.toolCalls same
    rw [evidence, toolCalls]
    exact gated.observed
  unconcluded following follows investigates :=
    (congrArg Investigation.rootCause same).trans
      (gated.unconcluded (next_investigates follows investigates))
  proposes follows := by
    obtain ⟨forms, running⟩ := next_eq_verifyHypothesis follows
    exact absurd running (stops forms)
  grounded rootCause concluded _ :=
    .inl
      ⟨(congrArg Investigation.rootCause same).symm.trans concluded,
        same⟩

/-- Every node gates, whatever it is answered. -/
theorem node_gates
    (gated : GatedState tools.json node session.state) :
    (node.program tools settings session).Always
      (Gates tools.json settings node session.state) := by
  have skipped
      (stopped : session.state.status ≠ .running) :
      Gates tools.json settings node session.state session :=
    .untouched gated rfl fun _ => stopped
  have untouched
      {program : WorkflowProgram Session}
      (other : node ≠ .formHypothesis)
      (same : program.Always session.syncBudget.SameInvestigation) :
      program.Always (Gates tools.json settings node session.state) :=
    same.mono fun after unchanged =>
      .untouched gated unchanged.state fun forms => absurd forms other
  cases node with
  | plan =>
      exact
        guarded_always skipped fun _ =>
          untouched nofun (planNode_same settings session.syncBudget)
  | collectEvidence =>
      refine guarded_always skipped fun _ => ?_
      refine (collectEvidenceNode_observed session.syncBudget
        gated.observed).mono ?_
      rintro after ⟨runId, rootCause, observed⟩
      have none := rootCause.trans (gated.unconcluded rfl)
      refine ⟨runId, runId ▸ observed, fun _ _ _ => none, ?_, ?_⟩
      · intro follows
        cases (next_eq_verifyHypothesis follows).1
      · intro cause concluded
        rw [none] at concluded
        cases concluded
  | formHypothesis =>
      refine guarded_always skipped fun running => ?_
      refine
        (formHypothesisNode_formed session.syncBudget running
          gated.observed (gated.unconcluded rfl)).mono ?_
      intro after formed
      refine ⟨formed.runId, formed.observed, ?_, ?_, ?_⟩
      · intro following follows _
        simp only [WorkflowNode.next] at follows
        split at follows
        · rename_i stillRunning
          exact formed.unconcluded stillRunning
        · cases follows
      · intro follows
        exact formed.proposes (next_eq_verifyHypothesis follows).2
      · intro rootCause concluded verified
        rw [formed.unverified rootCause concluded] at verified
        cases verified
  | verifyHypothesis =>
      refine guarded_always skipped fun running => ?_
      refine
        (verifyHypothesisNode_verified session.syncBudget gated.observed
          (gated.unconcluded rfl) (gated.proposes rfl)).mono ?_
      intro after verified
      refine ⟨verified.runId, verified.observed, ?_, ?_, ?_⟩
      · intro following follows investigates
        simp only [WorkflowNode.next, WorkflowNode.afterVerify]
          at follows
        split at follows
        · split at follows
          · cases follows
            cases investigates
          · rename_i unconcluded
            exact not_not.mp unconcluded
        · cases follows
      · intro follows
        cases (next_eq_verifyHypothesis follows).1
      · intro rootCause concluded _
        exact .inr ⟨rfl, verified.grounded rootCause concluded⟩
  | createSandbox =>
      exact
        guarded_always skipped fun _ =>
          untouched nofun
            (createSandboxNode_same tools settings session.syncBudget)
  | generatePatch =>
      exact
        guarded_always skipped fun _ =>
          untouched nofun
            (generatePatchNode_same tools settings session.syncBudget)
  | runTests =>
      exact
        guarded_always skipped fun _ =>
          untouched nofun
            (runTestsNode_same tools settings session.syncBudget)
  | reflect =>
      exact guarded_always skipped fun _ => untouched nofun ⟨rfl, rfl⟩
  | exportPatchArtifact =>
      exact
        guarded_always skipped fun _ =>
          untouched nofun
            (exportArtifactNode_same tools settings session.syncBudget)
  | waitForApproval =>
      exact
        .bind
          ((Program.Always.trivially _).mono fun _ _ =>
            .untouched gated rfl nofun)
  | needsHuman =>
      exact guarded_always skipped fun _ => untouched nofun ⟨rfl, rfl⟩

end Nodes

/-- What holds of a checkpoint of a thread. -/
structure GatedCheckpoint
    (tools : JsonTools)
    (world : WorkflowWorld)
    (checkpoint : Checkpoint) : Prop where
  runId : checkpoint.state.runId = world.store.run.runId
  observed :
    ObservedBy tools checkpoint.state.runId checkpoint.state.toolCalls
      checkpoint.state.evidence
  unconcluded :
    ∀ node,
      checkpoint.next = some node →
      node.investigates = true →
      checkpoint.state.rootCause = none
  proposes :
    checkpoint.next = some .verifyHypothesis →
    checkpoint.state.Proposes
  grounded :
    ∀ rootCause,
      checkpoint.state.rootCause = some rootCause →
      rootCause.verified = true →
      ∃ proposed ∈ world.thread,
        proposed.next = some .verifyHypothesis ∧
          Grounded tools proposed.state checkpoint.state rootCause

/-- A checkpoint stays gated while the world grows. -/
theorem GatedCheckpoint.grown
    {tools : JsonTools}
    {world later : WorkflowWorld}
    {checkpoint : Checkpoint}
    (grows : world.Grows later)
    (gated : GatedCheckpoint tools world checkpoint) :
    GatedCheckpoint tools later checkpoint where
  runId := gated.runId.trans grows.runId.symm
  observed := gated.observed
  unconcluded := gated.unconcluded
  proposes := gated.proposes
  grounded rootCause concluded verified := by
    obtain ⟨proposed, member, rest⟩ :=
      gated.grounded rootCause concluded verified
    exact ⟨proposed, grows.thread _ member, rest⟩

/-- A node that gates leads to a gated checkpoint. -/
theorem Gates.checkpoint
    {tools : JsonTools}
    {settings : WorkflowSettings}
    {node : WorkflowNode}
    {before : AgentState}
    {after : Session}
    {world : WorkflowWorld}
    (gates : Gates tools settings node before after)
    (gated : GatedCheckpoint tools world ⟨some node, before⟩)
    (saved : ⟨some node, before⟩ ∈ world.thread) :
    GatedCheckpoint tools world
      ⟨node.next settings after, after.state⟩ where
  runId := gates.runId.trans gated.runId
  observed := gates.runId.symm ▸ gates.observed
  unconcluded := gates.unconcluded
  proposes := gates.proposes
  grounded rootCause concluded verified := by
    obtain ⟨was, same⟩ | ⟨rfl, grounded⟩ :=
      gates.grounded rootCause concluded verified
    · obtain ⟨proposed, member, proposes, grounded⟩ :=
        gated.grounded rootCause was verified
      exact ⟨proposed, member, proposes, grounded.unchanged same⟩
    · exact ⟨_, saved, rfl, grounded⟩

/-- The invariant of the evidence gate. -/
def evidenceGate (tools : JsonTools) : WorkflowInvariant where
  tables _ := True
  checkpoint := GatedCheckpoint tools
  process _ _ _ := True
  persisted world final :=
    ∃ next, GatedCheckpoint tools world ⟨next, final⟩

/-- Everything that can happen keeps the evidence gate. -/
theorem evidenceGate_inductive (setup : WorkflowSetup) :
    (evidenceGate setup.tools.json).Inductive setup where
  initial _ _ := trivial
  pushed _ _ _ := trivial
  stableCheckpoint := GatedCheckpoint.grown
  stableProcess _ _ := trivial
  stablePersisted := by
    rintro world later final grows ⟨next, gated⟩
    exact ⟨next, gated.grown grows⟩
  foreign _ _ _ := trivial
  drifted _ _ _ := trivial
  resumed pullRequest gated resumes := by
    refine ⟨gated.runId, gated.observed, nofun, nofun, ?_⟩
    intro rootCause concluded verified
    obtain ⟨proposed, member, proposes, grounded⟩ :=
      gated.grounded rootCause concluded verified
    exact ⟨proposed, member, proposes, grounded.unchanged rfl⟩
  begins world := by
    refine ⟨⟨rfl, ?_, fun _ _ _ => rfl, nofun, nofun⟩, trivial⟩
    exact fun item member => absurd member List.not_mem_nil
  recovers _ := trivial
  node := by
    intro world node session claim holds saved _
    have gated := holds.thread _ saved
    refine
      WorkflowInvariant.leads_of_always
        (node_gates
          ⟨gated.observed, gated.unconcluded node rfl, fun verifies =>
            gated.proposes (verifies ▸ rfl)⟩)
        (fun _ _ _ _ _ _ => trivial) ?_
    intro after later grows gates
    exact
      ⟨gates.checkpoint (GatedCheckpoint.grown grows gated)
          (grows.thread _ saved),
        fun _ _ => trivial⟩
  failed world error := by
    refine ⟨rfl, ?_, nofun, nofun, nofun⟩
    exact fun item member => absurd member List.not_mem_nil
  persists := by
    intro world after next final claim current loaded holds gated
      committed
    exact
      ⟨trivial, next,
        GatedCheckpoint.grown (WorkflowWorld.grows_of_commit committed)
          gated⟩
  finishes _ _ _ _ _ _ := trivial

/-- Every state of a run is gated. -/
theorem holds_gated
    {setup : WorkflowSetup}
    {runs : WorkflowRuns}
    {state : AgentState}
    (reached : (workflow setup).Reachable runs)
    (held : runs.Holds state) :
    ∃ next,
      GatedCheckpoint setup.tools.json runs.world ⟨next, state⟩ :=
  (evidenceGate_inductive setup).held (fun _ _ => id) reached held

/--
A verified root cause rests on evidence of the run, and on an independent
observation made after its hypothesis was proposed, whatever the model answers
and the tools return.
-/
theorem evidence_gate
    (setup : WorkflowSetup)
    {runs : WorkflowRuns}
    {state : AgentState}
    {rootCause : RootCause}
    (reached : (workflow setup).Reachable runs)
    (held : runs.Holds state)
    (concluded : state.rootCause = some rootCause)
    (verified : rootCause.verified = true) :
    state.runId = runs.world.store.run.runId ∧
      ∃ proposed ∈ runs.world.thread,
        proposed.next = some .verifyHypothesis ∧
          Grounded setup.tools.json proposed.state state rootCause := by
  obtain ⟨next, gated⟩ := holds_gated reached held
  exact ⟨gated.runId, gated.grounded rootCause concluded verified⟩

/-- A run comes to a root cause that is verified. -/
theorem evidence_gate_reached :
    ∃ runs state rootCause,
      (workflow appSetup).Reachable runs ∧
        runs.Holds state ∧
        state.rootCause = some rootCause ∧
        rootCause.verified = true ∧
        ∃ proposed ∈ runs.world.thread,
          proposed.next = some .verifyHypothesis ∧
            Grounded appSetup.tools.json proposed.state state
              rootCause := by
  have replayed :
      ((appSetup.replay appAnswers 35
          ((WorkflowRuns.admitted "pk" "RUN-1" "INC-1" 0).world,
            .marking ⟨none, false⟩)).bind
          fun place => place.2.session).any
        (fun session =>
          session.state.rootCause.any RootCause.verified) = true := by
    decide +kernel
  obtain ⟨session, replays, concludes⟩ :=
    (Option.any_eq_true _ _).mp replayed
  obtain ⟨rootCause, concluded, verified⟩ :=
    (Option.any_eq_true _ _).mp concludes
  obtain ⟨runs, attempt, node, reached, stands⟩ :=
    WorkflowRuns.session_of_first 35 rfl appAnswers_clean replays
  have held := WorkflowRuns.Holds.between stands
  exact
    ⟨runs, session.state, rootCause, reached, held, concluded, verified,
      (evidence_gate appSetup reached held concluded verified).2⟩

end IncidentPilot
