import IncidentPilot.GraphExecution

/-!
# How an execution of the graph ends

Every node leaves a state that runs on, or one that is stopped.  The measure
counts the nodes that can still be executed: three for each hypothesis that can
still be rejected, and three for each patch that can still be attempted.
-/

namespace IncidentPilot

/-- The statuses the graph stops with. -/
def AgentState.Stopped (state : AgentState) : Prop :=
  state.status ∈
    [.insufficientEvidence, .needsHumanIntervention, .failed,
      .investigationComplete, .waitingApproval]

/-- The status of a stopped state is told by its workflow state too. -/
def AgentState.Consistent (state : AgentState) : Prop :=
  (state.status, state.workflowState) ∈
    [(.insufficientEvidence, .insufficientEvidence),
      (.needsHumanIntervention, .needsHumanIntervention),
      (.failed, .failed),
      (.investigationComplete, .rootCauseFound),
      (.waitingApproval, .waitForApproval)]

/-- A state is stopped, and consistently so when it is asked to be. -/
structure AgentState.StopsWell
    (strict : Prop)
    (state : AgentState) : Prop where
  stopped : state.Stopped
  consistent : strict → state.Consistent

/-- A consistent state is stopped. -/
theorem AgentState.Consistent.stopsWell
    {strict : Prop}
    {state : AgentState}
    (consistent : state.Consistent) :
    state.StopsWell strict where
  stopped := by
    simp only [Consistent, List.mem_cons, List.not_mem_nil, or_false,
      Prod.mk.injEq] at consistent
    simp only [Stopped, List.mem_cons, List.not_mem_nil, or_false]
    tauto
  consistent _ := consistent

/-- A state that stops for want of evidence is consistent. -/
theorem AgentState.Consistent.insufficient
    {state : AgentState}
    (status : state.status = .insufficientEvidence)
    (workflowState : state.workflowState = .insufficientEvidence) :
    state.Consistent := by
  simp [Consistent, status, workflowState]

/-- A state that is handed over is consistent. -/
theorem AgentState.Consistent.handedOver
    {state : AgentState}
    (status : state.status = .needsHumanIntervention)
    (workflowState : state.workflowState = .needsHumanIntervention) :
    state.Consistent := by
  simp [Consistent, status, workflowState]

/-- A state that has failed is consistent. -/
theorem AgentState.Consistent.failed
    {state : AgentState}
    (status : state.status = .failed)
    (workflowState : state.workflowState = .failed) :
    state.Consistent := by
  simp [Consistent, status, workflowState]

/-- A state whose investigation is complete is consistent. -/
theorem AgentState.Consistent.complete
    {state : AgentState}
    (status : state.status = .investigationComplete)
    (workflowState : state.workflowState = .rootCauseFound) :
    state.Consistent := by
  simp [Consistent, status, workflowState]

/-- A state that waits for its approval is consistent. -/
theorem AgentState.Consistent.waiting
    {state : AgentState}
    (status : state.status = .waitingApproval)
    (workflowState : state.workflowState = .waitForApproval) :
    state.Consistent := by
  simp [Consistent, status, workflowState]

/-- A state of a run that looks for its root cause. -/
structure AgentState.Investigating (state : AgentState) : Prop where
  running : state.status = .running
  rejected : rejectedCount state.hypotheses ≤ 2
  unconcluded : state.rootCause = none
  unrepaired : state.patchAttempts = []

/-- A manager that is kept has its workspace. -/
def Session.Equipped (session : Session) : Prop :=
  ∀ runtime, session.runtime = some runtime → runtime.workspace ≠ none

/-- A session of a run that repairs what it has found. -/
structure Session.Repairing (session : Session) : Prop where
  running : session.state.status = .running
  concluded : session.state.rootCause ≠ none
  equipped : session.Equipped

/-- The number of patches that a run attempts at most. -/
def WorkflowSettings.attemptLimit (settings : WorkflowSettings) : Nat :=
  max 1 settings.maxPatchAttempts

/-- What an execution relies on where it stands. -/
def GraphPoint.Stands
    (settings : WorkflowSettings)
    (strict : Prop)
    (point : GraphPoint) : Prop :=
  let state := point.session.state
  let attempts := state.patchAttempts.length
  match point.next with
  | none => state.StopsWell strict
  | some .plan => state.Investigating
  | some .collectEvidence => state.Investigating
  | some .formHypothesis => state.Investigating
  | some .verifyHypothesis => state.Investigating ∧ state.Proposes
  | some .createSandbox =>
      state.status = .running ∧
        state.rootCause ≠ none ∧ state.patchAttempts = []
  | some .generatePatch =>
      point.session.Repairing ∧ attempts < settings.attemptLimit
  | some .runTests => point.session.Repairing
  | some .reflect =>
      point.session.Repairing ∧ attempts < settings.attemptLimit
  | some .exportPatchArtifact => point.session.Repairing
  | some .waitForApproval => state.StopsWell strict
  | some .needsHuman =>
      state.status = .running ∨
        state.StopsWell strict ∧
          (strict → state.status = .needsHumanIntervention)

/-- The node executions that are left at most. -/
def GraphPoint.remaining
    (settings : WorkflowSettings)
    (point : GraphPoint) : Nat :=
  let limit := settings.attemptLimit
  let hypotheses := 3 - rejectedCount point.session.state.hypotheses
  let patches := limit - point.session.state.patchAttempts.length
  match point.next with
  | none => 0
  | some .plan => 12 + 3 * limit
  | some .collectEvidence => 3 * hypotheses + 3 * limit + 2
  | some .formHypothesis => 3 * hypotheses + 3 * limit + 1
  | some .verifyHypothesis => 3 * hypotheses + 3 * limit
  | some .createSandbox => 3 * limit + 2
  | some .generatePatch => 3 * patches + 1
  | some .runTests => 3 * patches + 3
  | some .reflect => 3 * patches + 2
  | some .exportPatchArtifact => 2
  | some .waitForApproval => 1
  | some .needsHuman => 1

/-- One point follows another: it stands, with less left to do. -/
structure GraphPoint.Follows
    (settings : WorkflowSettings)
    (strict : Prop)
    (before after : GraphPoint) : Prop where
  stands : after.Stands settings strict
  less : after.remaining settings + 1 ≤ before.remaining settings

/-- The sandbox settings with which tests can be executed. -/
def WorkflowSettings.TestsExecutable (settings : WorkflowSettings) : Prop :=
  (settings.protectedEnvironment = true →
      settings.sandboxEnabled = true) ∧
    (settings.sandboxEnabled = true → settings.sandboxNetwork = "none")

/--
What goes wrong outside of the graph does not go wrong: a new copy of the source
can be made for an attempt, its patch applies, and the tests come to a result.
-/
def Smooth
    (tools : WorkflowTools)
    (settings : WorkflowSettings)
    (node : WorkflowNode) :
    (request : WorkflowRequest) → WorkflowAnswer request → Prop
  | .readSource => fun answer =>
      node = .generatePatch →
      ∃ checkout,
        answer = .ok checkout ∧ checkSource settings checkout = .ok ()
  | .patchFault files patchDiff => fun answer =>
      node = .generatePatch →
      answer = none ∧ (applyPatch tools.patch files patchDiff).2 = .ok ()
  | .runTests _ _ => fun answer =>
      node = .runTests → ∃ report, answer = .ok report
  | _ => fun _ => True

/-- As much of that as is asked for. -/
abbrev SmoothIf
    (tools : WorkflowTools)
    (settings : WorkflowSettings)
    (strict : Prop)
    (node : WorkflowNode)
    (request : WorkflowRequest)
    (answer : WorkflowAnswer request) : Prop :=
  strict → Smooth tools settings node request answer

section Investigation

variable {tools : WorkflowTools} {settings : WorkflowSettings}
variable {strict : Prop}

/-- What collecting leaves of a state that runs. -/
structure CollectedFrom (before after : AgentState) : Prop where
  hypotheses : after.hypotheses = before.hypotheses
  rootCause : after.rootCause = before.rootCause
  patchAttempts : after.patchAttempts = before.patchAttempts
  goesOn : after.status = .running ∨ after.Consistent

/-- A state that stops after it was collected was collected. -/
theorem CollectedFrom.stops
    {start state after : AgentState}
    (collected : CollectedFrom start state)
    (hypotheses : after.hypotheses = state.hypotheses)
    (rootCause : after.rootCause = state.rootCause)
    (patchAttempts : after.patchAttempts = state.patchAttempts)
    (consistent : after.Consistent) :
    CollectedFrom start after where
  hypotheses := hypotheses.trans collected.hypotheses
  rootCause := rootCause.trans collected.rootCause
  patchAttempts := patchAttempts.trans collected.patchAttempts
  goesOn := .inr consistent

/-- The loop leaves of a state what collecting leaves of it. -/
theorem collectLoop_collected
    {start : AgentState}
    (remaining : Nat)
    {collection : Collection}
    (collected : CollectedFrom start collection.state) :
    (collectLoop tools settings remaining collection).Always fun after =>
      CollectedFrom start after.state := by
  refine collectLoop_always (fun _ => id) ?_ remaining collected
  intro collection collected
  refine
    collectStep_always (fun after => CollectedFrom start after.state)
      collected ?_ ?_ ?_
  · exact fun _ =>
      collected.stops rfl rfl rfl (.insufficient rfl rfl)
  · exact fun _ => collected.stops rfl rfl rfl (.handedOver rfl rfl)
  · intro selection
    unfold observe
    refine .bind ((Program.Always.trivially _).mono ?_)
    rintro ⟨call, budget⟩ -
    dsimp only
    split
    · exact collected.stops rfl rfl rfl (.handedOver rfl rfl)
    · refine
        .bind ((Program.Always.trivially _).mono fun evidence _ => ?_)
      split
      · exact collected.stops rfl rfl rfl (.handedOver rfl rfl)
      · exact collected

/-- Closing a collection leaves it running, or stops it. -/
theorem closeCollection_collected
    {start : AgentState}
    {collection : Collection}
    (collected : CollectedFrom start collection.state) :
    CollectedFrom start (closeCollection collection) := by
  have ⟨hypotheses, rootCause, patchAttempts, goesOn⟩ := collected
  unfold closeCollection
  dsimp only
  split
  · split <;>
      exact collected.stops rfl rfl rfl (.insufficient rfl rfl)
  · split
    · exact collected.stops rfl rfl rfl (.handedOver rfl rfl)
    · exact ⟨hypotheses, rootCause, patchAttempts, goesOn⟩

/-- Collecting leaves a state running, or stops it. -/
theorem collectEvidenceNode_collected
    (session : Session)
    (running : session.state.status = .running) :
    (collectEvidenceNode tools settings session).Always fun after =>
      CollectedFrom session.state after.state := by
  unfold collectEvidenceNode
  refine
    .bind
      ((collectLoop_collected _
        (⟨rfl, rfl, rfl, .inl running⟩ :
          CollectedFrom session.state
            { session.state with
              workflowState := .collectEvidence })).mono ?_)
  exact fun collection collected => closeCollection_collected collected

/-- A hypothesis more that is not rejected changes no count of rejected ones. -/
theorem rejectedCount_append
    (earlier : List Hypothesis)
    (last : Hypothesis) :
    rejectedCount (earlier ++ [last]) =
      rejectedCount earlier +
        if last.status = .rejected then 1 else 0 := by
  unfold rejectedCount
  rw [List.filter_append, List.length_append]
  by_cases rejected : last.status = .rejected <;> simp [rejected]

/-- What forming a hypothesis leaves of a state that investigates. -/
inductive AgentState.Forms (before after : AgentState) : Prop where
  | proposed
      (running : after.status = .running)
      (unconcluded : after.rootCause = none)
      (unrepaired : after.patchAttempts = before.patchAttempts)
      (rejected :
        rejectedCount after.hypotheses =
          rejectedCount before.hypotheses)
      (proposes : after.Proposes)
  | stops (consistent : after.Consistent)

/-- Forming a hypothesis proposes one, or it stops the run. -/
theorem formHypothesisNode_forms
    (session : Session)
    (running : session.state.status = .running)
    (unconcluded : session.state.rootCause = none) :
    (formHypothesisNode tools settings session).Always fun after =>
      session.state.Forms after.state := by
  unfold formHypothesisNode
  refine .bind ?_
  unfold formHypothesis
  split
  · rename_i stopped
    exact absurd running stopped
  · dsimp only
    split
    · exact .stops (.insufficient rfl rfl)
    · split
      · unfold directDiagnosis
        refine
          .bind ((Program.Always.trivially _).mono fun conclusion _ => ?_)
        split
        · exact .stops (.complete rfl rfl)
        · exact .stops (.insufficient rfl rfl)
      · unfold proposeHypothesis
        refine
          .bind ((Program.Always.trivially _).mono fun proposal _ => ?_)
        split
        · exact
            .proposed running unconcluded rfl
              (rejectedCount_append session.state.hypotheses
                ⟨proposal, .opened, false, ""⟩)
              ⟨_, _, rfl, rfl⟩
        · exact .stops (.insufficient rfl rfl)

/-- What verifying leaves of a state whose hypothesis is proposed. -/
inductive Session.Verifies (before after : Session) : Prop where
  | concluded
      (running : after.state.status = .running)
      (concluded : after.state.rootCause ≠ none)
      (unrepaired :
        after.state.patchAttempts = before.state.patchAttempts)
  | rejected
      (running : after.state.status = .running)
      (unconcluded : after.state.rootCause = none)
      (unrepaired :
        after.state.patchAttempts = before.state.patchAttempts)
      (rejected :
        rejectedCount after.state.hypotheses =
          rejectedCount before.state.hypotheses + 1)
      (fewer : rejectedCount after.state.hypotheses < 3)
      (steps : after.budget.canStep = true)
  | stops (consistent : after.state.Consistent)

/-- A conclusion that is taken lets the run go on, or completes it. -/
theorem concludeRootCause_verifies
    {before : Session}
    {state : AgentState}
    (budget : BudgetTracker)
    (running : state.status = .running)
    (unrepaired : state.patchAttempts = before.state.patchAttempts)
    (proposal : HypothesisProposal) :
    (concludeRootCause settings state proposal).Always fun after =>
      before.Verifies { before with state := after, budget := budget } := by
  unfold concludeRootCause
  refine .bind ((Program.Always.trivially _).mono fun conclusion _ => ?_)
  split
  · by_cases only : settings.investigationOnly = true
    · exact .stops (.complete (if_pos only) rfl)
    · exact
        .concluded ((if_neg only).trans running) (nofun) unrepaired
  · exact .stops (.insufficient rfl rfl)

/-- A hypothesis that is judged lets the run go on, or it stops the run. -/
theorem judgeHypothesis_verifies
    {before : Session}
    {state : AgentState}
    {earlier : List Hypothesis}
    {hypothesis : Hypothesis}
    (budget : BudgetTracker)
    (running : state.status = .running)
    (unconcluded : state.rootCause = none)
    (unrepaired : state.patchAttempts = before.state.patchAttempts)
    (last : before.state.hypotheses = earlier ++ [hypothesis])
    (opened : hypothesis.status = .opened) :
    (judgeHypothesis settings state budget earlier hypothesis).Always
      fun after =>
        before.Verifies
          { before with state := after, budget := budget } := by
  unfold judgeHypothesis
  refine .bind ((Program.Always.trivially _).mono fun decision _ => ?_)
  dsimp only
  split
  · refine concludeRootCause_verifies budget ?_ ?_ _
    · exact running
    · exact unrepaired
  · rename_i unsupported
    have counted :
        rejectedCount
            (earlier ++ [hypothesis.judged decision state.evidence]) =
          rejectedCount before.state.hypotheses + 1 := by
      rw [last, rejectedCount_append, rejectedCount_append]
      simp [Hypothesis.judged, unsupported, opened]
    unfold rejectHypothesis
    dsimp only
    split
    · exact .stops (.insufficient rfl rfl)
    · rename_i goesOn
      simp only [not_or, Nat.not_le, Bool.not_eq_false] at goesOn
      exact
        .rejected running unconcluded unrepaired counted goesOn.1
          goesOn.2

/-- Verifying lets the run go on, or it stops the run. -/
theorem verifyHypothesisNode_verifies
    (session : Session)
    (running : session.state.status = .running)
    (unconcluded : session.state.rootCause = none)
    (proposes : session.state.Proposes) :
    (verifyHypothesisNode tools settings session).Always
      session.Verifies := by
  obtain ⟨earlier, opened, hypotheses, isOpen⟩ := proposes
  have isLast : session.state.hypotheses.getLast? = some opened := by
    rw [hypotheses, List.getLast?_concat]
  have others : session.state.hypotheses.dropLast = earlier := by
    rw [hypotheses, List.dropLast_concat]
  unfold verifyHypothesisNode
  simp only [Session.withState, isLast, others]
  split
  · rename_i stopped
    exact absurd running stopped
  · unfold verifyHypothesis
    refine
      .bind ((Program.Always.trivially _).mono fun selection _ => ?_)
    refine .bind ((Program.Always.trivially _).mono ?_)
    rintro ⟨source, budget⟩ -
    refine .bind ?_
    unfold verifyWith
    split
    · exact .stops (.insufficient rfl rfl)
    · refine .bind (freshId_always fun evidenceId => ?_)
      exact
        judgeHypothesis_verifies budget running unconcluded rfl
          hypotheses isOpen

end Investigation

section Repair

variable {tools : WorkflowTools} {settings : WorkflowSettings}
variable {strict : Prop}
variable {allowed :
  (request : WorkflowRequest) → WorkflowAnswer request → Prop}

/-- What creating a sandbox leaves of a session that repairs. -/
inductive Session.Sandboxes (strict : Prop) (before after : Session) :
    Prop where
  | made
      (repairing : after.Repairing)
      (attempts :
        after.state.patchAttempts = before.state.patchAttempts)
      (managed : after.runtime ≠ none)
  | failed
      (lax : ¬strict)
      (status : after.state.status = .failed)
      (workflowState : after.state.workflowState = .failed)

/-- The source can be copied, if so much is allowed to be relied on. -/
def SourceSound
    (settings : WorkflowSettings)
    (strict : Prop)
    (allowed :
      (request : WorkflowRequest) → WorkflowAnswer request → Prop) :
    Prop :=
  strict →
  ∀ answer,
    allowed .readSource answer →
    ∃ checkout,
      answer = .ok checkout ∧ checkSource settings checkout = .ok ()

/-- A workspace is created when the source can be copied. -/
theorem createWorkspace_created
    (sound : SourceSound settings strict allowed) :
    (createWorkspace tools settings).AlwaysUnder allowed fun created =>
      strict → ∃ workspace, created = .ok workspace := by
  unfold createWorkspace
  intro answer allows
  cases answer with
  | error message =>
      intro holds
      obtain ⟨checkout, answered, -⟩ := sound holds _ allows
      cases answered
  | ok checkout =>
      intro holds
      obtain ⟨_, answered, passes⟩ := sound holds _ allows
      cases answered
      exact ⟨_, by rw [passes]; rfl⟩

/-- A sandbox is created, unless the source cannot be copied. -/
theorem createSandboxNode_sandboxes
    (session : Session)
    (sound : SourceSound settings strict allowed)
    (running : session.state.status = .running)
    (concluded : session.state.rootCause ≠ none) :
    (createSandboxNode tools settings session).AlwaysUnder allowed
      (session.Sandboxes strict) := by
  unfold createSandboxNode
  dsimp only
  split
  · rename_i unconcluded
    exact absurd unconcluded concluded
  · refine .bind ((createWorkspace_created sound).mono ?_)
    intro created succeeds
    cases created with
    | ok workspace =>
        refine
          Session.Sandboxes.made ⟨running, concluded, ?_⟩ rfl nofun
        rintro _ ⟨⟩
        nofun
    | error message =>
        refine Session.Sandboxes.failed (fun holds => ?_) rfl rfl
        obtain ⟨workspace, succeeded⟩ := succeeds holds
        cases succeeded

/-- A patch is applied in the workspace of the manager. -/
theorem applyPatch_equipped
    {runtime : SandboxRuntime}
    (equipped : runtime.workspace ≠ none)
    (patchDiff : String) :
    (runtime.applyPatch tools patchDiff).Always fun applied =>
      applied.1.workspace ≠ none := by
  unfold SandboxRuntime.applyPatch
  split
  · rename_i missing
    exact absurd missing equipped
  · intro fault
    cases fault <;> nofun

/-- Replaying a patch leaves the session repairing. -/
theorem replayPatch_repairs
    {session : Session}
    {runtime : SandboxRuntime}
    (repairing : session.Repairing)
    (managed : session.runtime = some runtime) :
    (replayPatch tools session runtime).Always fun after =>
      after.Repairing ∧
        after.state.patchAttempts = session.state.patchAttempts ∧
        after.runtime ≠ none := by
  unfold replayPatch
  split
  · split
    · trivial
    · refine
        .bind
          ((applyPatch_equipped (repairing.equipped runtime managed)
            _).mono ?_)
      rintro ⟨applied, outcome⟩ equipped
      cases outcome with
      | error message => trivial
      | ok =>
          refine
            ⟨⟨repairing.running, repairing.concluded, ?_⟩, rfl, nofun⟩
          rintro _ ⟨⟩
          exact equipped
  · exact ⟨repairing, rfl, managed ▸ nofun⟩

/-- What ensuring a workspace leaves of a session that repairs. -/
inductive Session.Equips
    (strict : Prop)
    (before : Session)
    (ensured : Session × Option SandboxRuntime) : Prop where
  | ready
      (runtime : SandboxRuntime)
      (manager : ensured.2 = some runtime)
      (managed : ensured.1.runtime = some runtime)
      (repairing : ensured.1.Repairing)
      (attempts :
        ensured.1.state.patchAttempts = before.state.patchAttempts)
  | failed
      (manager : ensured.2 = none)
      (lax : ¬strict)
      (status : ensured.1.state.status = .failed)
      (workflowState : ensured.1.state.workflowState = .failed)

/-- A workspace is ensured, unless the source cannot be copied. -/
theorem ensureWorkspace_equips
    {session : Session}
    (sound : SourceSound settings strict allowed)
    (repairing : session.Repairing)
    (replay : Bool) :
    (ensureWorkspace tools settings replay session).AlwaysUnder allowed
      (session.Equips strict) := by
  unfold ensureWorkspace
  split
  · rename_i runtime managed
    exact Session.Equips.ready runtime rfl managed repairing rfl
  · refine
      .bind
        ((createSandboxNode_sandboxes session sound repairing.running
          repairing.concluded).mono ?_)
    intro created sandboxes
    cases sandboxes with
    | failed lax status workflowState =>
        rw [if_pos (by rw [status]; nofun)]
        exact Session.Equips.failed rfl lax status workflowState
    | made made attempts managed =>
        rw [if_neg (by simp [made.running])]
        split
        · rename_i missing
          exact absurd missing managed
        · rename_i runtime present
          split
          · refine
              .bind
                (.of_always ((replayPatch_repairs made present).mono ?_))
            rintro replayed ⟨repairs, same, kept⟩
            obtain ⟨manager, present⟩ := Option.ne_none_iff_exists'.mp kept
            exact
              Session.Equips.ready manager present present repairs
                (same.trans attempts)
          · exact
              Session.Equips.ready runtime rfl present made attempts

/-- A patch applies, if so much is allowed to be relied on. -/
def PatchSound
    (tools : WorkflowTools)
    (strict : Prop)
    (allowed :
      (request : WorkflowRequest) → WorkflowAnswer request → Prop) :
    Prop :=
  strict →
  ∀ files patchDiff answer,
    allowed (.patchFault files patchDiff) answer →
    answer = none ∧ (applyPatch tools.patch files patchDiff).2 = .ok ()

/-- A patch is applied when patches apply. -/
theorem applyPatch_applied
    {runtime : SandboxRuntime}
    (sound : PatchSound tools strict allowed)
    (equipped : runtime.workspace ≠ none)
    (patchDiff : String) :
    (runtime.applyPatch tools patchDiff).AlwaysUnder allowed
      fun applied =>
        applied.1.workspace ≠ none ∧ (strict → applied.2 = .ok ()) := by
  unfold SandboxRuntime.applyPatch
  split
  · rename_i missing
    exact absurd missing equipped
  · intro fault allows
    cases fault with
    | none => exact ⟨nofun, fun holds => (sound holds _ _ _ allows).2⟩
    | some left =>
        refine ⟨nofun, fun holds => ?_⟩
        cases (sound holds _ _ _ allows).1

/-- What attempting a patch leaves of a session that repairs. -/
inductive Session.Attempts (strict : Prop) (before after : Session) :
    Prop where
  | applied
      (repairing : after.Repairing)
      (attempts :
        after.state.patchAttempts.length =
          before.state.patchAttempts.length + 1)
      (last :
        (after.state.patchAttempts.getLast?.bind PatchAttempt.status) =
          some .applied)
  | exceeded
      (consistent : after.state.Consistent)
      (status : after.state.status = .needsHumanIntervention)
  | failed
      (lax : ¬strict)
      (status : after.state.status = .failed)

/-- An attempt applies its patch, or there is none left, or it fails. -/
theorem attemptPatch_attempts
    {session : Session}
    {runtime : SandboxRuntime}
    (sound : PatchSound tools strict allowed)
    (repairing : session.Repairing)
    (managed : session.runtime = some runtime) :
    (attemptPatch tools settings session runtime).AlwaysUnder allowed
      (session.Attempts strict) := by
  unfold attemptPatch
  dsimp only
  split
  · exact Session.Attempts.exceeded (.handedOver rfl rfl) rfl
  · refine
      .bind (.of_always ((Program.Always.trivially _).mono ?_))
    intro patchDiff _
    refine
      .bind
        ((applyPatch_applied sound (repairing.equipped runtime managed)
          patchDiff).mono ?_)
    rintro ⟨applied, outcome⟩ ⟨equipped, succeeds⟩
    cases outcome with
    | ok =>
        refine
          Session.Attempts.applied
            ⟨repairing.running, repairing.concluded, ?_⟩ ?_ ?_
        · rintro _ ⟨⟩
          exact equipped
        · exact List.length_append
        · exact congrArg (Option.bind · _) List.getLast?_concat
    | error message =>
        refine Session.Attempts.failed (fun holds => ?_) rfl
        cases succeeds holds

/-- Generating a patch applies it, or there is none left, or it fails. -/
theorem generatePatchNode_attempts
    {session : Session}
    (source : SourceSound settings strict allowed)
    (sound : PatchSound tools strict allowed)
    (repairing : session.Repairing) :
    (generatePatchNode tools settings session).AlwaysUnder allowed
      (session.Attempts strict) := by
  have entered :
      Session.Repairing
        { session with
          state := { session.state with workflowState := .generatePatch }
          runtime :=
            if session.state.patchAttempts = [] then session.runtime
            else none } := by
    refine ⟨repairing.running, repairing.concluded, ?_⟩
    intro runtime managed
    simp only [Option.ite_none_right_eq_some] at managed
    exact repairing.equipped runtime managed.2
  unfold generatePatchNode
  refine .bind ((ensureWorkspace_equips source entered false).mono ?_)
  rintro ⟨ensured, manager⟩ equips
  cases equips with
  | failed manager lax status workflowState =>
      cases manager
      exact Session.Attempts.failed lax rfl
  | ready runtime manager managed repairs attempts =>
      cases manager
      have attempted :
          (attemptPatch tools settings ensured runtime).AlwaysUnder
            allowed (session.Attempts strict) := by
        refine (attemptPatch_attempts sound repairs managed).mono ?_
        intro after attempt
        cases attempt with
        | applied repairing length last =>
            exact .applied repairing (attempts ▸ length) last
        | exceeded consistent status =>
            exact .exceeded consistent status
        | failed lax status => exact .failed lax status
      dsimp only
      split
      · exact attempted
      · split
        · trivial
        · exact attempted

/-- Tests come to a result, if so much is allowed to be relied on. -/
def TestsSound
    (settings : WorkflowSettings)
    (strict : Prop)
    (allowed :
      (request : WorkflowRequest) → WorkflowAnswer request → Prop) :
    Prop :=
  strict →
  settings.TestsExecutable ∧
    ∀ workspace attempt answer,
      allowed (.runTests workspace attempt) answer →
      ∃ report, answer = .ok report

/-- Tests are executed when they can be. -/
theorem runTests_reported
    {runtime : SandboxRuntime}
    (sound : TestsSound settings strict allowed)
    (equipped : runtime.workspace ≠ none)
    (attempt : Option PatchAttempt) :
    (runtime.runTests settings attempt).AlwaysUnder allowed
      fun reported => strict → ∃ report, reported = .ok report := by
  unfold SandboxRuntime.runTests
  split
  · rename_i missing
    exact absurd missing equipped
  · split
    · rename_i unprotected
      intro holds
      have enabled := (sound holds).1.1 unprotected.1
      rw [enabled] at unprotected
      cases unprotected.2
    · split
      · rename_i networked
        intro holds
        exact absurd ((sound holds).1.2 networked.1) networked.2
      · intro answer allows holds
        exact (sound holds).2 _ _ answer allows

/-- What running the tests leaves of a session that repairs. -/
inductive Session.Tests (strict : Prop) (before after : Session) :
    Prop where
  | tested
      (repairing : after.Repairing)
      (attempts :
        after.state.patchAttempts.length =
          before.state.patchAttempts.length)
      (managed : after.runtime ≠ none)
  | stops (stopped : after.state.StopsWell strict)

/-- A list whose last item is changed is as long as before. -/
theorem length_changeLast
    (attempts : List PatchAttempt)
    (change : PatchAttempt → PatchAttempt) :
    (attempts.dropLast ++
        (attempts.getLast?.map change).toList).length =
      attempts.length := by
  obtain rfl | ⟨earlier, last, rfl⟩ := List.eq_nil_or_concat attempts <;>
    simp

/-- A failed state is stopped where consistency is not asked for. -/
theorem AgentState.StopsWell.failed
    {state : AgentState}
    (lax : ¬strict)
    (status : state.status = .failed) :
    state.StopsWell strict where
  stopped := by simp [Stopped, status]
  consistent holds := absurd holds lax

/-- The tests are executed, or they stop the run. -/
theorem runTestsNode_tests
    {session : Session}
    (sound : TestsSound settings strict allowed)
    (repairing : session.Repairing) :
    (runTestsNode tools settings session).AlwaysUnder allowed
      (session.Tests strict) := by
  have anySource : SourceSound settings False allowed := False.elim
  have entered :
      (session.withState
        { session.state with workflowState := .runTests }).Repairing :=
    ⟨repairing.running, repairing.concluded, repairing.equipped⟩
  unfold runTestsNode
  refine .bind ((ensureWorkspace_equips anySource entered true).mono ?_)
  rintro ⟨ensured, manager⟩ equips
  cases equips with
  | failed manager lax status workflowState =>
      cases manager
      have consistent :
          AgentState.Consistent { ensured.state with status := .failed } :=
        .failed rfl workflowState
      exact Session.Tests.stops consistent.stopsWell
  | ready runtime manager managed repairs attempts =>
      cases manager
      refine
        .bind
          ((runTests_reported sound (repairs.equipped runtime managed)
            _).mono ?_)
      intro reported succeeds
      cases reported with
      | error message =>
          refine
            Session.Tests.stops (.failed (fun holds => ?_) rfl)
          obtain ⟨report, succeeded⟩ := succeeds holds
          cases succeeded
      | ok report =>
          refine
            Session.Tests.tested
              ⟨repairs.running, repairs.concluded, ?_⟩ ?_ nofun
          · rintro _ ⟨⟩
            exact repairs.equipped runtime managed
          · refine (length_changeLast ensured.state.patchAttempts _).trans ?_
            exact congrArg List.length attempts

/-- Reflecting makes no attempt. -/
theorem reflectNode_repairs
    {session : Session}
    (repairing : session.Repairing) :
    (reflectNode session).Always fun after =>
      after.Repairing ∧
        after.state.patchAttempts.length =
          session.state.patchAttempts.length :=
  ⟨⟨repairing.running, repairing.concluded, repairing.equipped⟩,
    length_changeLast session.state.patchAttempts _⟩

/-- Exporting waits for an approval, or it fails. -/
theorem exportArtifactNode_consistent
    {session : Session}
    (repairing : session.Repairing) :
    (exportArtifactNode tools settings session).AlwaysUnder allowed
      fun after => after.state.Consistent := by
  have exported (session : Session) (runtime : SandboxRuntime) :
      (exportArtifact tools session runtime).AlwaysUnder allowed
        fun after => after.state.Consistent := by
    refine .of_always ?_
    unfold exportArtifact
    refine .bind ((Program.Always.trivially _).mono fun id _ => ?_)
    refine .bind ((Program.Always.trivially _).mono fun persisted _ => ?_)
    exact AgentState.Consistent.waiting rfl rfl
  have anyTests : TestsSound settings False allowed := False.elim
  have entered :
      (session.withState
        { session.state with
          workflowState := .exportPatchArtifact }).Repairing :=
    ⟨repairing.running, repairing.concluded, repairing.equipped⟩
  unfold exportArtifactNode
  dsimp only
  split
  · exact exported _ _
  · refine .bind ((runTestsNode_tests anyTests entered).mono ?_)
    intro tested tests
    split
    · exact AgentState.Consistent.failed rfl rfl
    · rename_i passed
      simp only [not_or, ne_eq, not_not] at passed
      cases tests with
      | tested repairs attempts managed =>
          split
          · rename_i missing
            exact absurd missing managed
          · exact exported _ _
      | stops stopped =>
          have running := stopped.stopped
          rw [AgentState.Stopped, passed.1] at running
          simp at running

end Repair

section Nodes

variable {tools : WorkflowTools} {settings : WorkflowSettings}
variable {strict : Prop} {session : Session}

/-- A stopped state does not run. -/
theorem AgentState.StopsWell.not_running
    {state : AgentState}
    (stops : state.StopsWell strict) :
    state.status ≠ .running := by
  intro running
  have stopped := stops.stopped
  simp [Stopped, running] at stopped

/-- A node that has stopped the run leads to the end. -/
theorem follows_end
    {before : GraphPoint}
    {after : Session}
    (stops : after.state.StopsWell strict)
    (left : 0 < before.remaining settings) :
    before.Follows settings strict ⟨none, after⟩ where
  stands := stops
  less := left

/-- An edge that is taken only when the run goes on, in a run that does. -/
theorem next_running
    {session : Session}
    {following : Option WorkflowNode}
    (running : session.state.status = .running) :
    (if session.state.status = .running then following else none) =
      following :=
  if_pos running

/-- An edge that is taken only when the run goes on, in a run that stops. -/
theorem next_stopped
    {session : Session}
    {following : Option WorkflowNode}
    (stops : session.state.StopsWell strict) :
    (if session.state.status = .running then following else none) =
      none :=
  if_neg stops.not_running

/-- Collecting leads to forming a hypothesis, or to the end. -/
theorem collectEvidence_follows
    (investigating : session.state.Investigating)
    {after : Session}
    (collected : CollectedFrom session.state after.state) :
    GraphPoint.Follows settings strict ⟨some .collectEvidence, session⟩
      (WorkflowNode.collectEvidence.leadsTo settings after) := by
  obtain ⟨hypotheses, rootCause, patchAttempts, goesOn⟩ := collected
  simp only [WorkflowNode.leadsTo, WorkflowNode.next]
  rcases goesOn with running | consistent
  · rw [next_running running]
    refine
      ⟨⟨running, hypotheses ▸ investigating.rejected,
        rootCause.trans investigating.unconcluded,
        patchAttempts.trans investigating.unrepaired⟩, ?_⟩
    simp only [GraphPoint.remaining, hypotheses]
    omega
  · have stops : after.state.StopsWell strict := consistent.stopsWell
    rw [next_stopped stops]
    exact follows_end stops (by simp [GraphPoint.remaining])

/-- Forming a hypothesis leads to verifying it, or to the end. -/
theorem formHypothesis_follows
    (investigating : session.state.Investigating)
    {after : Session}
    (forms : session.state.Forms after.state) :
    GraphPoint.Follows settings strict ⟨some .formHypothesis, session⟩
      (WorkflowNode.formHypothesis.leadsTo settings after) := by
  simp only [WorkflowNode.leadsTo, WorkflowNode.next]
  cases forms with
  | proposed running unconcluded unrepaired rejected proposes =>
      rw [next_running running]
      refine
        ⟨⟨⟨running, rejected ▸ investigating.rejected, unconcluded,
          unrepaired.trans investigating.unrepaired⟩, proposes⟩, ?_⟩
      simp only [GraphPoint.remaining, rejected]
      omega
  | stops consistent =>
      have stops : after.state.StopsWell strict := consistent.stopsWell
      rw [next_stopped stops]
      exact follows_end stops (by simp [GraphPoint.remaining])

/-- Verifying leads to the repair, to another collection, or to the end. -/
theorem verifyHypothesis_follows
    (investigating : session.state.Investigating)
    {after : Session}
    (verifies : session.Verifies after) :
    GraphPoint.Follows settings strict ⟨some .verifyHypothesis, session⟩
      (WorkflowNode.verifyHypothesis.leadsTo settings after) := by
  have fewer := investigating.rejected
  have limited : 1 ≤ settings.attemptLimit := Nat.le_max_left _ _
  simp only [WorkflowNode.leadsTo, WorkflowNode.next]
  cases verifies with
  | concluded running concluded unrepaired =>
      rw [next_running running, WorkflowNode.afterVerify,
        if_pos concluded]
      refine
        ⟨⟨running, concluded,
          unrepaired.trans investigating.unrepaired⟩, ?_⟩
      simp only [GraphPoint.remaining]
      omega
  | rejected running unconcluded unrepaired rejected fewer steps =>
      rw [next_running running, WorkflowNode.afterVerify,
        if_neg (not_not.mpr unconcluded),
        if_pos ⟨by omega, steps, fewer⟩]
      refine
        ⟨⟨running, Nat.le_of_lt_succ fewer, unconcluded,
          unrepaired.trans investigating.unrepaired⟩, ?_⟩
      simp only [GraphPoint.remaining, rejected]
      omega
  | stops consistent =>
      have stops : after.state.StopsWell strict := consistent.stopsWell
      rw [next_stopped stops]
      refine follows_end stops ?_
      simp only [GraphPoint.remaining]
      omega

/-- Creating a sandbox leads to the first attempt, or to the end. -/
theorem createSandbox_follows
    (unrepaired : session.state.patchAttempts = [])
    {after : Session}
    (sandboxes : session.Sandboxes False after) :
    GraphPoint.Follows settings strict ⟨some .createSandbox, session⟩
      (WorkflowNode.createSandbox.leadsTo settings after) := by
  have limited : 1 ≤ settings.attemptLimit := Nat.le_max_left _ _
  simp only [WorkflowNode.leadsTo, WorkflowNode.next]
  cases sandboxes with
  | made repairing attempts managed =>
      rw [next_running repairing.running]
      have none : after.state.patchAttempts = [] :=
        attempts.trans unrepaired
      refine ⟨⟨repairing, ?_⟩, ?_⟩
      · rw [none]
        exact limited
      · simp only [GraphPoint.remaining, none, List.length_nil]
        omega
  | failed lax status workflowState =>
      have stops : after.state.StopsWell strict :=
        (AgentState.Consistent.failed status workflowState).stopsWell
      rw [next_stopped stops]
      exact follows_end stops (by simp [GraphPoint.remaining])

/-- Generating a patch leads to its tests, or to a human. -/
theorem generatePatch_follows
    (fewer :
      session.state.patchAttempts.length < settings.attemptLimit)
    {after : Session}
    (attempts : session.Attempts strict after) :
    GraphPoint.Follows settings strict ⟨some .generatePatch, session⟩
      (WorkflowNode.generatePatch.leadsTo settings after) := by
  simp only [WorkflowNode.leadsTo, WorkflowNode.next,
    WorkflowNode.afterPatch]
  have hands
      (stops : after.state.StopsWell strict)
      (handed :
        strict → after.state.status = .needsHumanIntervention) :
      GraphPoint.Follows settings strict ⟨some .generatePatch, session⟩
        ⟨some .needsHuman, after⟩ := by
    refine ⟨.inr ⟨stops, handed⟩, ?_⟩
    simp only [GraphPoint.remaining]
    omega
  cases attempts with
  | applied repairing length last =>
      rw [if_pos ⟨repairing.running, last⟩]
      refine ⟨repairing, ?_⟩
      simp only [GraphPoint.remaining, length]
      omega
  | exceeded consistent status =>
      rw [if_neg (by simp [status])]
      exact hands consistent.stopsWell fun _ => status
  | failed lax status =>
      rw [if_neg (by simp [status])]
      exact hands (.failed lax status) fun holds => absurd holds lax

/-- Running the tests leads to the export, a reflection, a human or the end. -/
theorem runTests_follows
    {after : Session}
    (tests : session.Tests strict after) :
    GraphPoint.Follows settings strict ⟨some .runTests, session⟩
      (WorkflowNode.runTests.leadsTo settings after) := by
  simp only [WorkflowNode.leadsTo, WorkflowNode.next]
  cases tests with
  | tested repairing attempts managed =>
      rw [next_running repairing.running, WorkflowNode.afterTests]
      split
      · refine ⟨repairing, ?_⟩
        simp only [GraphPoint.remaining]
        omega
      · split
        · rename_i fewer
          refine ⟨⟨repairing, ?_⟩, ?_⟩
          · exact Nat.lt_of_lt_of_le fewer (Nat.le_max_right _ _)
          · simp only [GraphPoint.remaining, attempts]
            omega
        · refine ⟨.inl repairing.running, ?_⟩
          simp only [GraphPoint.remaining]
          omega
  | stops stopped =>
      rw [next_stopped stopped]
      exact follows_end stopped (by simp [GraphPoint.remaining])

/-- Counting what the budget has missed changes nothing of where it stands. -/
theorem GraphPoint.Follows.synced
    {node : WorkflowNode}
    {after : GraphPoint}
    (follows :
      GraphPoint.Follows settings strict
        ⟨some node, session.syncBudget⟩ after) :
    GraphPoint.Follows settings strict ⟨some node, session⟩ after :=
  ⟨follows.stands, follows.less⟩

/-- Every node leads to a point that stands, with less left to do. -/
theorem node_follows
    (node : WorkflowNode)
    (tests : strict → node = .runTests → settings.TestsExecutable)
    (stands :
      (⟨some node, session⟩ : GraphPoint).Stands settings strict) :
    (node.program tools settings session).AlwaysUnder
      (SmoothIf tools settings strict node)
      fun after =>
        GraphPoint.Follows settings strict ⟨some node, session⟩
          (node.leadsTo settings after) := by
  have runs
      {body : Session → WorkflowProgram Session}
      {allowed :
        (request : WorkflowRequest) → WorkflowAnswer request → Prop}
      (running : session.state.status = .running)
      (always :
        (body session.syncBudget).AlwaysUnder allowed fun after =>
          GraphPoint.Follows settings strict
            ⟨some node, session.syncBudget⟩
            (node.leadsTo settings after)) :
      (guarded body session).AlwaysUnder allowed fun after =>
        GraphPoint.Follows settings strict ⟨some node, session⟩
          (node.leadsTo settings after) :=
    guarded_alwaysUnder (fun stopped => absurd running stopped)
      fun _ => always.mono fun _ => GraphPoint.Follows.synced
  have investigates
      (investigating : session.state.Investigating) :
      session.syncBudget.state.Investigating := investigating
  have repairs
      (repairing : session.Repairing) : session.syncBudget.Repairing :=
    ⟨repairing.running, repairing.concluded, repairing.equipped⟩
  cases node with
  | plan =>
      have investigating : session.state.Investigating := stands
      refine runs investigating.running (.of_always ?_)
      unfold planNode
      refine .bind ((Program.Always.trivially _).mono fun plan _ => ?_)
      refine
        ⟨⟨investigating.running, investigating.rejected,
          investigating.unconcluded, investigating.unrepaired⟩, ?_⟩
      simp only [GraphPoint.remaining, WorkflowNode.leadsTo,
        WorkflowNode.next]
      omega
  | collectEvidence =>
      have investigating : session.state.Investigating := stands
      refine runs investigating.running (.of_always ?_)
      refine
        (collectEvidenceNode_collected session.syncBudget
          investigating.running).mono ?_
      exact fun after collected =>
        collectEvidence_follows (investigates investigating) collected
  | formHypothesis =>
      have investigating : session.state.Investigating := stands
      refine runs investigating.running (.of_always ?_)
      refine
        (formHypothesisNode_forms session.syncBudget
          investigating.running investigating.unconcluded).mono ?_
      exact fun after forms =>
        formHypothesis_follows (investigates investigating) forms
  | verifyHypothesis =>
      obtain ⟨investigating, proposes⟩ := stands
      refine runs investigating.running (.of_always ?_)
      refine
        (verifyHypothesisNode_verifies session.syncBudget
          investigating.running investigating.unconcluded
          proposes).mono ?_
      exact fun after verifies =>
        verifyHypothesis_follows (investigates investigating) verifies
  | createSandbox =>
      obtain ⟨running, concluded, unrepaired⟩ := stands
      have synced : session.syncBudget.state.patchAttempts = [] :=
        unrepaired
      refine runs running ?_
      refine
        (createSandboxNode_sandboxes session.syncBudget False.elim
          running concluded).mono ?_
      exact fun after sandboxes =>
        createSandbox_follows synced sandboxes
  | generatePatch =>
      obtain ⟨repairing, fewer⟩ := stands
      have source :
          SourceSound settings strict
            (SmoothIf tools settings strict .generatePatch) :=
        fun holds answer allows => allows holds rfl
      have patches :
          PatchSound tools strict
            (SmoothIf tools settings strict .generatePatch) :=
        fun holds files patchDiff answer allows => allows holds rfl
      have synced :
          session.syncBudget.state.patchAttempts.length <
            settings.attemptLimit := fewer
      refine runs repairing.running ?_
      refine
        (generatePatchNode_attempts source patches
          (repairs repairing)).mono ?_
      exact fun after attempts => generatePatch_follows synced attempts
  | runTests =>
      have repairing : session.Repairing := stands
      have sound :
          TestsSound settings strict
            (SmoothIf tools settings strict .runTests) :=
        fun holds =>
          ⟨tests holds rfl, fun workspace attempt answer allows =>
            allows holds rfl⟩
      refine runs repairing.running ?_
      refine (runTestsNode_tests sound (repairs repairing)).mono ?_
      exact fun after tested => runTests_follows tested
  | reflect =>
      obtain ⟨repairing, fewer⟩ := stands
      refine runs repairing.running ?_
      refine
        .of_always ((reflectNode_repairs (repairs repairing)).mono ?_)
      rintro after ⟨reflected, length⟩
      refine
        ⟨⟨reflected, Nat.lt_of_le_of_lt (Nat.le_of_eq length) fewer⟩, ?_⟩
      simp only [GraphPoint.remaining, WorkflowNode.leadsTo,
        WorkflowNode.next, length]
      omega
  | exportPatchArtifact =>
      have repairing : session.Repairing := stands
      refine runs repairing.running ?_
      refine
        (exportArtifactNode_consistent (repairs repairing)).mono ?_
      intro after consistent
      exact ⟨consistent.stopsWell, Nat.le_refl _⟩
  | waitForApproval =>
      have stops : session.state.StopsWell strict := stands
      refine .bind (.of_always ?_)
      exact
        (Program.Always.trivially _).mono fun _ _ =>
          follows_end stops Nat.one_pos
  | needsHuman =>
      refine guarded_alwaysUnder ?_ ?_
      · intro stopped
        rcases stands with running | ⟨stops, -⟩
        · exact absurd running stopped
        · exact follows_end stops Nat.one_pos
      · intro running
        have consistent :
            session.syncBudget.state.handedOver.Consistent :=
          .handedOver rfl rfl
        exact follows_end consistent.stopsWell Nat.one_pos

end Nodes

end IncidentPilot
