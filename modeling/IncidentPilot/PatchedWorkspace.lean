import IncidentPilot.Investigation
import IncidentPilot.PatchRecord
import IncidentPilot.WorkflowRequests

/-!
# Workspaces and their patches

What a workspace holds while a process repairs.  A workspace that is created
holds the copy of its base commit, and an attempt applies its patch to such a
copy, whether the process has just created it, creates it again for another
attempt, or recovers the attempt from a checkpoint.
-/

namespace IncidentPilot

section

variable (setup : WorkflowSetup)

/-- A workspace holds the copy of its base commit, and nothing else. -/
def Workspace.Pristine (workspace : Workspace) : Prop :=
  workspace.baseCommitSha ≠ "UNVERSIONED" →
  workspace.files =
    sandboxCopy setup.tools.patch
      (setup.contentAt workspace.baseCommitSha)

/-- A workspace holds the copy of its base commit with a patch applied once. -/
def Workspace.Patched
    (workspace : Workspace)
    (patchDiff : String) : Prop :=
  workspace.baseCommitSha ≠ "UNVERSIONED" →
  applyPatch setup.tools.patch
      (sandboxCopy setup.tools.patch
        (setup.contentAt workspace.baseCommitSha))
      patchDiff =
    (workspace.files, .ok ())

/-- The workspace of a manager is pristine. -/
def SandboxRuntime.Pristine (runtime : SandboxRuntime) : Prop :=
  ∃ workspace,
    runtime.workspace = some workspace ∧ workspace.Pristine setup

/-- The workspace of a manager has the base and the patch of an attempt. -/
def SandboxRuntime.Patched
    (runtime : SandboxRuntime)
    (attempt : PatchAttempt) : Prop :=
  ∃ workspace patchDiff,
    runtime.workspace = some workspace ∧
      attempt.patchDiff = some patchDiff ∧
      attempt.baseCommitSha = some workspace.baseCommitSha ∧
      workspace.Patched setup patchDiff

/-- A clean checkout that is answered has the content of its commit. -/
def WorkflowSetup.CleanSource :
    (request : WorkflowRequest) → WorkflowAnswer request → Prop
  | .readSource => fun answer =>
      ∀ checkout sha,
        answer = .ok checkout →
        checkout.head = some sha →
        checkout.dirty = false →
        checkout.files = setup.contentAt sha
  | _ => fun _ => True

end

variable {setup : WorkflowSetup}

/-- The world serves clean sources. -/
theorem WorkflowSetup.Serves.cleanSource
    {claim : Option ClaimedRun}
    {world after : WorkflowWorld}
    {request : WorkflowRequest}
    {answer : WorkflowAnswer request}
    (served : setup.Serves claim world request answer after) :
    setup.CleanSource request answer := by
  cases request with
  | readSource => exact served.2
  | _ => trivial

/-- The attempt has a patch that a recovery would replay. -/
def PatchAttempt.HasPatch (attempt : PatchAttempt) : Prop :=
  ∃ patchDiff, attempt.patchDiff = some patchDiff ∧ patchDiff ≠ ""

/-- No patch is attempted and nothing is exported. -/
structure AgentState.Unrepaired (before after : AgentState) : Prop where
  attempts : after.patchAttempts = before.patchAttempts
  artifact : after.patchArtifact = before.patchArtifact
  waits :
    after.status = .waitingApproval → before.status = .waitingApproval

namespace AgentState.Unrepaired

/-- A state leaves its own repair alone. -/
theorem refl (state : AgentState) :
    state.Unrepaired state :=
  ⟨rfl, rfl, id⟩

/-- What is left alone twice is left alone. -/
theorem trans
    {first second third : AgentState}
    (left : first.Unrepaired second)
    (right : second.Unrepaired third) :
    first.Unrepaired third where
  attempts := right.attempts.trans left.attempts
  artifact := right.artifact.trans left.artifact
  waits waiting := left.waits (right.waits waiting)

end AgentState.Unrepaired

section Investigation

variable (tools : WorkflowTools) (settings : WorkflowSettings)

/-- Planning leaves the repair alone. -/
theorem planNode_unrepaired (session : Session) :
    (planNode settings session).Always fun after =>
      session.state.Unrepaired after.state := by
  unfold planNode
  exact
    .bind ((Program.Always.trivially _).mono fun plan _ => ⟨rfl, rfl, id⟩)

/-- Collecting evidence leaves the repair alone. -/
theorem collectEvidenceNode_unrepaired (session : Session) :
    (collectEvidenceNode tools settings session).Always fun after =>
      session.state.Unrepaired after.state := by
  have loop :
      (collectLoop tools settings session.budget.remainingSteps
        { state :=
            { session.state with workflowState := .collectEvidence }
          budget := session.budget
          toolCalls := session.state.toolCalls
          evidence := session.state.evidence }).Always fun collection =>
            session.state.Unrepaired collection.state := by
    refine
      collectLoop_always (fun collection unrepaired => unrepaired) ?_ _
        ⟨rfl, rfl, id⟩
    intro collection unrepaired
    refine
      collectStep_always
        (fun collection => session.state.Unrepaired collection.state)
        unrepaired ?_ ?_ ?_
    · exact fun reason =>
        ⟨unrepaired.attempts, unrepaired.artifact, nofun⟩
    · exact fun reason =>
        ⟨unrepaired.attempts, unrepaired.artifact, nofun⟩
    · intro selection
      unfold observe
      refine .bind ((Program.Always.trivially _).mono ?_)
      rintro ⟨call, budget⟩ -
      dsimp only
      split
      · exact ⟨unrepaired.attempts, unrepaired.artifact, nofun⟩
      · refine
          .bind ((Program.Always.trivially _).mono fun evidence _ => ?_)
        split
        · exact ⟨unrepaired.attempts, unrepaired.artifact, nofun⟩
        · exact unrepaired
  unfold collectEvidenceNode
  refine .bind (loop.mono ?_)
  intro collection unrepaired
  show session.state.Unrepaired (closeCollection collection)
  unfold closeCollection
  dsimp only
  split
  · split <;>
      exact ⟨unrepaired.attempts, unrepaired.artifact, nofun⟩
  · split
    · exact ⟨unrepaired.attempts, unrepaired.artifact, nofun⟩
    · exact
        ⟨unrepaired.attempts, unrepaired.artifact, unrepaired.waits⟩

/-- Forming a hypothesis leaves the repair of its state alone. -/
theorem formHypothesis_unrepaired (entered : AgentState) :
    (formHypothesis tools settings entered).Always
      entered.Unrepaired := by
  unfold formHypothesis
  split
  · exact .refl entered
  · dsimp only
    split
    · exact ⟨rfl, rfl, nofun⟩
    · split
      · unfold directDiagnosis
        refine
          .bind ((Program.Always.trivially _).mono fun conclusion _ => ?_)
        split <;> exact ⟨rfl, rfl, nofun⟩
      · unfold proposeHypothesis
        refine
          .bind ((Program.Always.trivially _).mono fun proposal _ => ?_)
        split
        · exact ⟨rfl, rfl, id⟩
        · exact ⟨rfl, rfl, nofun⟩

/-- Forming a hypothesis leaves the repair alone. -/
theorem formHypothesisNode_unrepaired (session : Session) :
    (formHypothesisNode tools settings session).Always fun after =>
      session.state.Unrepaired after.state :=
  .bind
    ((formHypothesis_unrepaired tools settings _).mono
      fun _ unrepaired =>
        ⟨unrepaired.attempts, unrepaired.artifact, unrepaired.waits⟩)

/-- Judging a hypothesis leaves the repair alone. -/
theorem judgeHypothesis_unrepaired
    (state : AgentState)
    (budget : BudgetTracker)
    (earlier : List Hypothesis)
    (hypothesis : Hypothesis) :
    (judgeHypothesis settings state budget earlier hypothesis).Always
      state.Unrepaired := by
  unfold judgeHypothesis
  refine .bind ((Program.Always.trivially _).mono fun decision _ => ?_)
  dsimp only
  split
  · unfold concludeRootCause
    refine
      .bind ((Program.Always.trivially _).mono fun conclusion _ => ?_)
    split
    · refine ⟨rfl, rfl, ?_⟩
      dsimp only
      split
      · nofun
      · exact id
    · exact ⟨rfl, rfl, nofun⟩
  · unfold rejectHypothesis
    dsimp only
    split
    · exact ⟨rfl, rfl, nofun⟩
    · exact ⟨rfl, rfl, id⟩

/-- Verifying with an observation leaves the repair alone. -/
theorem verifyWith_unrepaired
    (state : AgentState)
    (budget : BudgetTracker)
    (earlier : List Hypothesis)
    (hypothesis : Hypothesis)
    (selection : ToolSelection)
    (source : ToolCall) :
    (verifyWith tools settings state budget earlier hypothesis selection
      source).Always state.Unrepaired := by
  unfold verifyWith
  split
  · exact ⟨rfl, rfl, nofun⟩
  · refine .bind (freshId_always fun evidenceId => ?_)
    exact
      (judgeHypothesis_unrepaired settings _ budget earlier
        hypothesis).mono fun after unrepaired =>
          ⟨unrepaired.attempts, unrepaired.artifact, unrepaired.waits⟩

/-- Verifying a hypothesis leaves the repair alone. -/
theorem verifyHypothesisNode_unrepaired (session : Session) :
    (verifyHypothesisNode tools settings session).Always fun after =>
      session.state.Unrepaired after.state := by
  unfold verifyHypothesisNode
  dsimp only
  split
  · exact ⟨rfl, rfl, id⟩
  · split
    · exact ⟨rfl, rfl, nofun⟩
    · unfold verifyHypothesis
      refine
        .bind ((Program.Always.trivially _).mono fun selection _ => ?_)
      refine .bind ((Program.Always.trivially _).mono ?_)
      rintro ⟨source, budget⟩ -
      refine .bind ((verifyWith_unrepaired tools settings ..).mono ?_)
      exact fun state unrepaired =>
        ⟨unrepaired.attempts, unrepaired.artifact, unrepaired.waits⟩

end Investigation

section Repair

/-- What creating a sandbox makes of a session. -/
structure Session.Sandboxed
    (setup : WorkflowSetup)
    (before after : Session) : Prop where
  unrepaired : before.state.Unrepaired after.state
  pristine :
    after.state.status = .running →
    ∃ runtime, after.runtime = some runtime ∧ runtime.Pristine setup

/-- A checkout that may be copied is clean at its base, if it has one. -/
theorem checkout_pristine
    {checkout : Checkout}
    (clean :
      setup.CleanSource .readSource (.ok checkout)) :
    Workspace.Pristine setup
      { files := sandboxCopy setup.tools.patch checkout.files
        baseCommitSha := checkout.baseCommitSha } := by
  intro versioned
  unfold Checkout.baseCommitSha at versioned ⊢
  split
  · rename_i headless
    rw [headless] at versioned
    exact absurd rfl versioned
  · rename_i sha head
    simp only [head] at versioned
    split
    · rename_i dirty
      rw [if_pos dirty] at versioned
      exact absurd rfl versioned
    · rename_i tidy
      exact
        congrArg (sandboxCopy setup.tools.patch)
          (clean checkout sha rfl head (Bool.eq_false_iff.mpr tidy))

/-- A sandbox that is created is pristine. -/
theorem createSandboxNode_sandboxed (session : Session) :
    (createSandboxNode setup.tools setup.settings session).AlwaysUnder
      setup.CleanSource (session.Sandboxed setup) := by
  unfold createSandboxNode
  dsimp only
  split
  · exact ⟨⟨rfl, rfl, nofun⟩, nofun⟩
  · have created :
        (createWorkspace setup.tools setup.settings).AlwaysUnder
          setup.CleanSource fun created =>
            ∀ workspace,
              created = .ok workspace → workspace.Pristine setup := by
      unfold createWorkspace
      intro answer clean
      cases answer with
      | error message =>
          nofun
      | ok checkout =>
          intro workspace made
          cases checked : checkSource setup.settings checkout with
          | error message =>
              rw [checked] at made
              cases made
          | ok =>
              rw [checked] at made
              cases made
              exact checkout_pristine clean
    refine .bind (created.mono ?_)
    intro created pristine
    cases created with
    | ok workspace =>
        exact
          ⟨⟨rfl, rfl, id⟩, fun _ =>
            ⟨_, rfl, workspace, rfl, pristine workspace rfl⟩⟩
    | error message =>
        exact ⟨⟨rfl, rfl, nofun⟩, nofun⟩

/-- A patch that is applied in a workspace has been applied to its files. -/
theorem applyPatch_workspace
    {tools : WorkflowTools}
    {runtime : SandboxRuntime}
    {workspace : Workspace}
    (equipped : runtime.workspace = some workspace)
    (patchDiff : String) :
    (runtime.applyPatch tools patchDiff).Always fun result =>
      result.2 = .ok () →
      ∃ files,
        result.1 =
            { runtime with
              workspace := some { workspace with files := files } } ∧
          applyPatch tools.patch workspace.files patchDiff =
            (files, .ok ()) := by
  unfold SandboxRuntime.applyPatch
  rw [equipped]
  intro fault
  cases fault with
  | some left =>
      nofun
  | none =>
      exact fun succeeded => ⟨_, rfl, Prod.ext rfl succeeded⟩

/-- A patch on a pristine workspace leaves it patched. -/
theorem applyPatch_patched
    {runtime : SandboxRuntime}
    (pristine : runtime.Pristine setup)
    (patchDiff : String) :
    (runtime.applyPatch setup.tools patchDiff).Always fun result =>
      result.2 = .ok () →
      result.1.baseCommitSha = runtime.baseCommitSha ∧
        (∃ files after,
          applyPatch setup.tools.patch files patchDiff =
            (after, .ok ())) ∧
        ∀ attempt : PatchAttempt,
          attempt.patchDiff = some patchDiff →
          attempt.baseCommitSha = some runtime.baseCommitSha →
          result.1.Patched setup attempt := by
  obtain ⟨workspace, equipped, copied⟩ := pristine
  refine (applyPatch_workspace equipped patchDiff).mono ?_
  rintro ⟨applied, outcome⟩ made succeeded
  obtain ⟨files, rfl, changed⟩ := made succeeded
  have base : runtime.baseCommitSha = workspace.baseCommitSha := by
    simp [SandboxRuntime.baseCommitSha, equipped]
  refine ⟨base.symm, ⟨_, _, changed⟩, ?_⟩
  intro attempt diff sameBase
  refine ⟨_, patchDiff, rfl, diff, sameBase.trans (congrArg some base), ?_⟩
  intro versioned
  rw [copied versioned] at changed
  exact changed

/-- An empty text is no patch. -/
theorem applyPatch_empty
    {tools : PatchTools}
    {files after : Files} :
    applyPatch tools files "" ≠ (after, .ok ()) := by
  intro applied
  obtain ⟨paths, declared, -⟩ := applyPatch_ok applied
  unfold patchPaths at declared
  split at declared
  · cases declared
  · unfold simpleReplace at declared
    rw [tools.jsonLoads_empty, tools.numstat_empty] at declared
    simp only at declared
    split at declared <;> cases declared

/-- Replaying the patch of the last attempt leaves the workspace patched. -/
theorem replayPatch_patched
    {session : Session}
    {runtime : SandboxRuntime}
    {attempt : PatchAttempt}
    (last : session.state.patchAttempts.getLast? = some attempt)
    (hasPatch : attempt.HasPatch)
    (pristine : runtime.Pristine setup) :
    (replayPatch setup.tools session runtime).Always fun after =>
      after.state = session.state ∧
        ∃ manager,
          after.runtime = some manager ∧
            manager.Patched setup attempt := by
  obtain ⟨patchDiff, diff, nonempty⟩ := hasPatch
  have lastPatch : session.state.lastPatch = some patchDiff := by
    simp [AgentState.lastPatch, last, diff, nonempty]
  unfold replayPatch
  rw [last, lastPatch]
  dsimp only
  split
  · trivial
  · rename_i sameBase
    refine .bind ((applyPatch_patched pristine patchDiff).mono ?_)
    rintro ⟨applied, outcome⟩ patched
    cases outcome with
    | error message =>
        trivial
    | ok =>
        exact
          ⟨rfl, applied, rfl,
            (patched rfl).2.2 attempt diff (not_not.mp sameBase)⟩

/-- The manager that is ensured, where the sandbox is only created. -/
theorem ensureWorkspace_pristine
    {session : Session}
    (pristine :
      ∀ runtime,
        session.runtime = some runtime → runtime.Pristine setup) :
    (ensureWorkspace setup.tools setup.settings false
      session).AlwaysUnder setup.CleanSource fun ensured =>
        session.state.Unrepaired ensured.1.state ∧
          ∀ manager,
            ensured.2 = some manager → manager.Pristine setup := by
  unfold ensureWorkspace
  split
  · rename_i runtime present
    refine ⟨.refl _, ?_⟩
    rintro _ ⟨⟩
    exact pristine runtime present
  · refine .bind ((createSandboxNode_sandboxed session).mono ?_)
    intro created sandboxed
    split
    · exact ⟨sandboxed.unrepaired, nofun⟩
    · rename_i running
      obtain ⟨runtime, present, copied⟩ :=
        sandboxed.pristine (not_not.mp running)
      rw [present]
      refine ⟨sandboxed.unrepaired, ?_⟩
      rintro _ ⟨⟩
      exact copied

/-- The manager that is ensured, where the last patch is replayed. -/
theorem ensureWorkspace_patched
    {session : Session}
    {attempt : PatchAttempt}
    (last : session.state.patchAttempts.getLast? = some attempt)
    (hasPatch : attempt.HasPatch)
    (patched :
      ∀ runtime,
        session.runtime = some runtime →
        runtime.Patched setup attempt) :
    (ensureWorkspace setup.tools setup.settings true
      session).AlwaysUnder setup.CleanSource fun ensured =>
        session.state.Unrepaired ensured.1.state ∧
          ∀ manager,
            ensured.2 = some manager →
            manager.Patched setup attempt := by
  unfold ensureWorkspace
  split
  · rename_i runtime present
    refine ⟨.refl _, ?_⟩
    rintro _ ⟨⟩
    exact patched runtime present
  · refine .bind ((createSandboxNode_sandboxed session).mono ?_)
    intro created sandboxed
    split
    · exact ⟨sandboxed.unrepaired, nofun⟩
    · rename_i running
      obtain ⟨runtime, present, copied⟩ :=
        sandboxed.pristine (not_not.mp running)
      rw [present]
      have stillLast :
          created.state.patchAttempts.getLast? = some attempt :=
        sandboxed.unrepaired.attempts ▸ last
      refine
        .bind
          (.of_always
            ((replayPatch_patched stillLast hasPatch copied).mono ?_))
      rintro replayed ⟨same, manager, equipped, replays⟩
      refine ⟨same ▸ sandboxed.unrepaired, ?_⟩
      intro other isManager
      change replayed.runtime = some other at isManager
      rw [equipped] at isManager
      cases isManager
      exact replays

/-- What generating a patch makes of a session. -/
inductive Session.Patches
    (setup : WorkflowSetup)
    (before after : Session) : Prop where
  | applied
      {attempt : PatchAttempt}
      {runtime : SandboxRuntime}
      (attempts :
        after.state.patchAttempts =
          before.state.patchAttempts ++ [attempt])
      (untested : attempt.testRunId = none)
      (hasPatch : attempt.HasPatch)
      (equipped : after.runtime = some runtime)
      (patched : runtime.Patched setup attempt)
      (sameBase :
        ∀ first,
          before.state.patchAttempts.head? = some first →
          first.baseCommitSha = attempt.baseCommitSha)
      (artifact :
        after.state.patchArtifact = before.state.patchArtifact)
      (waits :
        after.state.status = .waitingApproval →
        before.state.status = .waitingApproval)
  | stopped
      (attempts :
        ∀ attempt ∈ after.state.patchAttempts,
          attempt ∈ before.state.patchAttempts ∨
            attempt.testRunId = none)
      (status :
        after.state.status = .failed ∨
          after.state.status = .needsHumanIntervention)
      (artifact :
        after.state.patchArtifact = before.state.patchArtifact)

/-- A session whose repair has been left alone patches as it did before. -/
theorem Session.Patches.unrepaired
    {first second third : Session}
    (unrepaired : first.state.Unrepaired second.state)
    (patches : second.Patches setup third) :
    first.Patches setup third := by
  cases patches with
  | applied attempts untested hasPatch equipped patched sameBase
      artifact waits =>
      rw [unrepaired.attempts] at attempts sameBase
      exact
        .applied attempts untested hasPatch equipped patched sameBase
          (artifact.trans unrepaired.artifact)
          fun waiting => unrepaired.waits (waits waiting)
  | stopped attempts status artifact =>
      rw [unrepaired.attempts] at attempts
      exact
        .stopped attempts status (artifact.trans unrepaired.artifact)

/-- Attempting a patch in a pristine workspace patches. -/
theorem attemptPatch_patches
    {session : Session}
    {runtime : SandboxRuntime}
    (pristine : runtime.Pristine setup)
    (sameBase :
      ∀ first,
        session.state.patchAttempts.head? = some first →
        first.baseCommitSha = some runtime.baseCommitSha) :
    (attemptPatch setup.tools setup.settings session runtime).Always
      (session.Patches setup) := by
  have made
      {attempt : PatchAttempt}
      (untested : attempt.testRunId = none) :
      ∀ other ∈ session.state.patchAttempts ++ [attempt],
        other ∈ session.state.patchAttempts ∨ other.testRunId = none := by
    intro other member
    rcases List.mem_append.mp member with before | new
    · exact .inl before
    · obtain rfl := List.mem_singleton.mp new
      exact .inr untested
  unfold attemptPatch
  dsimp only
  split
  · exact .stopped (made rfl) (.inr rfl) rfl
  · refine
      .bind ((Program.Always.trivially _).mono fun patchDiff _ => ?_)
    refine .bind ((applyPatch_patched pristine patchDiff).mono ?_)
    rintro ⟨applied, outcome⟩ patched
    cases outcome with
    | error message =>
        exact .stopped (made rfl) (.inl rfl) rfl
    | ok =>
        obtain ⟨base, ⟨files, after, changed⟩, patches⟩ := patched rfl
        have nonempty : patchDiff ≠ "" := by
          rintro rfl
          exact applyPatch_empty changed
        refine
          .applied rfl rfl ⟨patchDiff, rfl, nonempty⟩ rfl
            (patches _ rfl (congrArg some base)) ?_ rfl id
        intro first isFirst
        exact (sameBase first isFirst).trans (congrArg some base.symm)

/-- Generating a patch patches a new copy of the base. -/
theorem generatePatchNode_patches
    {session : Session}
    (pristine :
      session.state.patchAttempts = [] →
      ∀ runtime,
        session.runtime = some runtime → runtime.Pristine setup) :
    (generatePatchNode setup.tools setup.settings session).AlwaysUnder
      setup.CleanSource (session.Patches setup) := by
  unfold generatePatchNode
  refine .bind ((ensureWorkspace_pristine ?_).mono ?_)
  · intro runtime present
    simp only [Option.ite_none_right_eq_some] at present
    exact pristine present.1 runtime present.2
  · rintro ⟨ensured, manager⟩ ⟨unrepaired, copied⟩
    have leftAlone : session.state.Unrepaired ensured.state :=
      ⟨unrepaired.attempts, unrepaired.artifact, unrepaired.waits⟩
    cases manager with
    | none =>
        refine .stopped ?_ (.inl rfl) leftAlone.artifact
        intro attempt member
        exact .inl (leftAlone.attempts ▸ member)
    | some runtime =>
        have attempted
            (sameBase :
              ∀ first,
                ensured.state.patchAttempts.head? = some first →
                first.baseCommitSha = some runtime.baseCommitSha) :
            (attemptPatch setup.tools setup.settings ensured
              runtime).AlwaysUnder setup.CleanSource
                (session.Patches setup) :=
          .of_always
            ((attemptPatch_patches (copied runtime rfl) sameBase).mono
              fun after patches => patches.unrepaired leftAlone)
        dsimp only
        split
        · rename_i none
          refine attempted fun first isFirst => ?_
          rw [none] at isFirst
          cases isFirst
        · rename_i first rest some
          split
          · trivial
          · rename_i sameBase
            refine attempted fun other isFirst => ?_
            rw [some] at isFirst
            cases isFirst
            exact not_not.mp sameBase

end Repair

end IncidentPilot
