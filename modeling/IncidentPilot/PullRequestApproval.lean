import IncidentPilot.ApprovalResume

/-!
# No pull request without an approval

An attempt reaches the GitHub call only past the validation of the approval and
of the artifact.  The tables it has read are insert-only, so what it has found
there is still true when it calls, whatever other workers have done since.
-/

namespace IncidentPilot

/-- An artifact the human has approved, and that its test vouches for. -/
structure Approved
    (sha256 : String → String)
    (store : Store)
    (artifact : PatchArtifact) : Prop where
  validated : Validated sha256 store artifact
  approval :
    ∃ approval,
      approval ∈ store.approvals ∧
        approval.runPk = store.run.id ∧
        approval.decision = .approve ∧
        approval.payload = binding artifact

/-- An approved artifact stays approved. -/
theorem Store.Grows.approved
    {sha256 : String → String}
    {earlier later : Store}
    {artifact : PatchArtifact}
    (grows : earlier.Grows later)
    (approved : Approved sha256 earlier artifact) :
    Approved sha256 later artifact where
  validated := grows.validated approved.validated
  approval := by
    obtain ⟨approval, member, ownRun, decision, payload⟩ :=
      approved.approval
    exact
      ⟨approval, grows.approvals approval member,
        ownRun.trans grows.sameRun.symm, decision, payload⟩

/-- What an attempt has found out by the time it stands at a point. -/
def ResumePoint.Justified
    (sha256 : String → String)
    (store : Store) : ResumePoint → Prop
  | .validating decision _ approval =>
      approval ∈ store.approvals ∧
        approval.runPk = store.run.id ∧
        approval.decision = decision
  | .marking _ artifact => Approved sha256 store artifact
  | .refreshing artifact => Approved sha256 store artifact
  | .opening _ artifact => Approved sha256 store artifact
  | .fencing _ artifact => Approved sha256 store artifact
  | .calling _ artifact => Approved sha256 store artifact
  | _ => True

/-- What an attempt has found out stays true. -/
theorem Store.Grows.justified
    {sha256 : String → String}
    {earlier later : Store}
    {point : ResumePoint}
    (grows : earlier.Grows later)
    (justified : point.Justified sha256 earlier) :
    point.Justified sha256 later := by
  cases point with
  | validating decision loaded approval =>
      obtain ⟨member, ownRun, decided⟩ := justified
      exact
        ⟨grows.approvals approval member,
          ownRun.trans grows.sameRun.symm, decided⟩
  | marking loaded artifact => exact grows.approved justified
  | refreshing artifact => exact grows.approved justified
  | opening loaded artifact => exact grows.approved justified
  | fencing loaded artifact => exact grows.approved justified
  | calling loaded artifact => exact grows.approved justified
  | _ => trivial

/-- Validation turns a matching approval into an approved artifact. -/
theorem move_validating_justified
    {sha256 : String → String}
    {store : Store}
    {input : ResumeInput}
    {decision : ApprovalDecision}
    {loaded : LoadedRun}
    {approval : Approval}
    {move : ResumeMove}
    (justified :
      (ResumePoint.validating decision loaded approval).Justified sha256
        store)
    (next :
      (ResumePoint.validating decision loaded approval).move sha256 store
          input =
        some move) :
    move.target.Justified sha256 store := by
  obtain ⟨member, ownRun, decided⟩ := justified
  simp only [ResumePoint.move] at next
  split at next
  · cases next
    trivial
  · rename_i artifact accepted
    split at next
    · cases next
      trivial
    · rename_i sameBinding
      cases decision with
      | reject =>
          cases next
          trivial
      | approve =>
          cases next
          exact
            ⟨(validatedArtifact_eq_ok.mp accepted).1, approval, member,
              ownRun, decided, Classical.not_not.mp sameBinding⟩

/-- Every move of an attempt leads to a point that is justified. -/
theorem ResumePoint.move_justified
    {sha256 : String → String}
    {store : Store}
    {input : ResumeInput}
    {point : ResumePoint}
    {move : ResumeMove}
    (justified : point.Justified sha256 store)
    (next : point.move sha256 store input = some move) :
    move.target.Justified sha256 store := by
  cases point with
  | choosing =>
      simp only [ResumePoint.move] at next
      split at next <;> cases next <;> trivial
  | selectingApproval decision loaded =>
      simp only [ResumePoint.move] at next
      split at next
      · cases next
        trivial
      · rename_i approval found
        obtain ⟨member, ownRun⟩ := findApproval_eq_some_iff.mp found
        split at next
        · cases next
          trivial
        · rename_i same
          cases next
          exact ⟨member, ownRun, Classical.not_not.mp same⟩
  | validating decision loaded approval =>
      exact move_validating_justified justified next
  | opening loaded artifact =>
      simp only [ResumePoint.move] at next
      split at next
      · cases next
        trivial
      · cases next
        exact justified
  | calling loaded artifact =>
      simp only [ResumePoint.move] at next
      split at next <;> cases next <;> trivial
  | recording loaded artifact outcome =>
      cases outcome with
      | ok pullRequest =>
          cases next
          trivial
      | failed retryable error =>
          cases next
          cases retryable <;> trivial
      | raised =>
          cases next
  | entering decision =>
      cases next
      trivial
  | guarding decision =>
      cases next
      trivial
  | selectingRun decision =>
      cases next
      trivial
  | rejecting loaded =>
      cases next
      trivial
  | marking loaded artifact =>
      cases next
      exact justified
  | refreshing artifact =>
      cases next
      exact justified
  | fencing loaded artifact =>
      cases next
      exact justified
  | failing loaded error =>
      cases next
      trivial
  | resolving loaded artifact pullRequest =>
      cases next
      trivial
  | idle =>
      cases next
  | executing =>
      cases next
  | returned status pullRequest =>
      cases next
  | raised error =>
      cases next
  | crashed =>
      cases next

section

variable {sha256 : String → String}
variable {deployment : Deployment}
variable {allowed : RowLock.Action Transaction Nat → Prop}

/-- Every attempt has found out what its point says. -/
def ResumeState.Justified
    (sha256 : String → String)
    (state : ResumeState) : Prop :=
  ∀ claim, (state.attempts claim).Justified sha256 state.plane.store

/-- A point that is justified may be written over any attempt. -/
theorem ResumeState.Justified.update
    {before : ResumeState}
    {after : ControlPlane}
    {claim : ClaimedRun}
    {point : ResumePoint}
    (justified : before.Justified sha256)
    (grows : before.plane.store.Grows after.store)
    (reached : point.Justified sha256 after.store) :
    ResumeState.Justified sha256
      { plane := after
        attempts := Function.update before.attempts claim point } := by
  intro other
  by_cases same : other = claim
  · subst same
    simpa using reached
  · simpa [same] using grows.justified (justified other)

/-- Every step leaves every attempt justified. -/
theorem ResumeStep.justified
    {before after : ResumeState}
    {action : ResumeAction}
    (justified : before.Justified sha256)
    (step : ResumeStep sha256 deployment allowed before action after) :
    after.Justified sha256 := by
  have grows := step.grows
  cases step with
  | environment moved allows =>
      exact fun claim => grows.justified (justified claim)
  | @start claim decision granted idle =>
      refine justified.update (.refl _) ?_
      cases decision <;> trivial
  | @advance claim input move after point next performed =>
      refine justified.update grows ?_
      rcases ResumeMove.perform_cases performed with
          ⟨rfl, rfl | rfl⟩ | ⟨write, rfl, committed⟩
      · exact ResumePoint.move_justified (justified claim) next
      · trivial
      · exact
          grows.justified
            (ResumePoint.move_justified (justified claim) next)
  | crash claim =>
      exact justified.update (.refl _) trivial

/-- In every reachable state every attempt is justified. -/
theorem justified_of_reachable
    {state : ResumeState}
    (reached :
      (resumption sha256 deployment allowed).Reachable state) :
    state.Justified sha256 := by
  refine reached.invariant ?_ ResumeStep.justified
  intro state begins claim
  rw [begins.2 claim]
  trivial

end

/--
Whenever an attempt calls GitHub, the run has exactly one approval, an APPROVE
bound to an immutable artifact of the run that a passing test vouches for, the
call carries the diff and the base of that artifact, and no approval of the run
is ever a REJECT, before or after.
-/
theorem pull_request_needs_approval
    {sha256 : String → String}
    {deployment : Deployment}
    {state : ResumeState}
    {claim : ClaimedRun}
    {call : GithubCall}
    (reached :
      (resumption sha256 deployment fun _ => True).Reachable state)
    (calls : state.githubCall claim = some call) :
    (∃ approval artifact test,
        (∀ other,
          other ∈ state.plane.store.approvals ∧
              other.runPk = state.plane.store.run.id ↔
            other = approval) ∧
          approval.decision = .approve ∧
          approval.payload = binding artifact ∧
          artifact ∈ state.plane.store.patchArtifacts ∧
          artifact.runPk = state.plane.store.run.id ∧
          artifact.immutable = true ∧
          sha256 artifact.patchDiff = artifact.patchHash ∧
          call.patchDiff = artifact.patchDiff ∧
          call.baseCommitSha = artifact.baseCommitSha ∧
          test ∈ state.plane.store.testRuns ∧
          test.runPk = state.plane.store.run.id ∧
          some test.testRunId = artifact.testRunId ∧
          test.status = .passed ∧
          test.exitCode = some 0 ∧
          test.patchHash = artifact.patchHash ∧
          test.baseCommitSha = artifact.baseCommitSha) ∧
      ∀ {later},
        (resumption sha256 deployment fun _ => True).Leads state later →
        ∀ other,
          other ∈ later.plane.store.approvals →
          other.runPk = later.plane.store.run.id →
          other.decision = .approve := by
  obtain ⟨loaded, artifact, stands, rfl⟩ :=
    ResumeState.githubCall_eq_some calls
  have justified := justified_of_reachable reached claim
  rw [stands] at justified
  obtain ⟨validated, approval, member, ownRun, approved, payload⟩ :=
    justified
  obtain ⟨test, testMember, testRun, testNamed, passed, exit, hash, base⟩ :=
    validated.tested
  constructor
  · refine
      ⟨approval, artifact, test, ?_, approved, payload,
        validated.member, validated.ownRun, validated.immutable,
        validated.hashed, rfl, rfl, testMember, testRun, testNamed,
        passed, exit, hash, base⟩
    intro other
    constructor
    · rintro ⟨otherMember, otherRun⟩
      exact
        approval_unique otherMember member (otherRun.trans ownRun.symm)
    · rintro rfl
      exact ⟨member, ownRun⟩
  · intro later path other otherMember otherRun
    have grows := resumption_grows path
    have same : other = approval :=
      approval_unique otherMember (grows.approvals approval member)
        ((otherRun.trans grows.sameRun).trans ownRun.symm)
    rw [same]
    exact approved

/-- The resumed run calls GitHub with the approved diff and base. -/
theorem pull_request_needs_approval_resumed :
    ∃ state call,
      (ResumeState.admitted "pk" "RUN-1" "INC-1" 0).execute id
          (.durable 2 60) (resumedRun .raised 10) = some state ∧
        state.githubCall ⟨"INC-1", "RUN-1", "worker", 2, false⟩ =
          some call ∧
        call.patchDiff = "diff" ∧
        ∃ approval,
          approval ∈ state.plane.store.approvals ∧
            approval.decision = .approve := by
  have executed :
      (ResumeState.admitted "pk" "RUN-1" "INC-1" 0).execute id
          (.durable 2 60) (resumedRun .raised 10) = some _ :=
    rfl
  have reached :
      (resumption id (.durable 2 60) fun _ => True).Reachable _ :=
    ResumeState.reachable_of_execute (fun _ _ => trivial) executed
  obtain ⟨⟨approval, artifact, test, only, approved, -⟩, -⟩ :=
    pull_request_needs_approval reached
      (rfl :
        ResumeState.githubCall _
          ⟨"INC-1", "RUN-1", "worker", 2, false⟩ = some _)
  exact
    ⟨_, _, executed, rfl, rfl, approval, ((only approval).mpr rfl).1,
      approved⟩

end IncidentPilot
