import IncidentPilot.SideEffectRecord

/-!
# A completed pull request stays completed

Once the row of the pull request is completed it lasts, and it keeps every
attempt that has not opened the side effect yet from calling GitHub.
-/

namespace IncidentPilot

section

variable {sha256 : String → String}
variable {deployment : Deployment}

/-- A completed pull request row of the run. -/
structure Store.Completed
    (store : Store)
    (row : ExternalSideEffect) : Prop where
  member : row ∈ store.sideEffects
  ownRun : row.runPk = store.run.id
  ownType : row.effectType = "github_pull_request"
  completed : row.status = .completed

/-- With a completed row, no side effect is opened. -/
theorem openSideEffect_blocked
    {store after : Store}
    {artifact : PatchArtifact}
    {row : ExternalSideEffect}
    (recorded : store.Recorded)
    (done : store.Completed row)
    (notCompleted :
      (findSideEffect store
            (sideEffectKey store.run.runId artifact.patchHash)).filter
          (fun effect => effect.status = .completed) =
        none) :
    store.openSideEffect "github_pull_request"
        (sideEffectKey store.run.runId artifact.patchHash) ≠
      .ok after := by
  intro opened
  rcases Store.openSideEffect_cases opened with
      ⟨-, table, inserted, -⟩ | ⟨effect, found, -⟩
  · have free := UniqueTable.insert_free inserted done.member
    simp [ExternalSideEffect.conflicts, done.ownRun, done.ownType]
      at free
  · obtain ⟨member, key⟩ := findSideEffect_eq_some_iff.mp found
    obtain ⟨ownRun, ownType⟩ := recorded.keyed effect member _ key
    have same : effect = row :=
      sideEffect_unique member done.member
        (.inr
          ⟨ownRun.trans done.ownRun.symm,
            ownType.trans done.ownType.symm⟩)
    have unfinished : effect.status ≠ .completed := by
      simpa [found] using notCompleted
    rw [same] at unfinished
    exact unfinished done.completed

/-- The points between opening the side effect and recording its outcome. -/
def ResumePoint.PastOpening : ResumePoint → Prop
  | .fencing _ _ => True
  | .calling _ _ => True
  | .recording _ _ _ => True
  | _ => False

/-- With a completed row, no move leads past the opening. -/
theorem move_notPast
    {store : Store}
    {input : ResumeInput}
    {point : ResumePoint}
    {move : ResumeMove}
    {row : ExternalSideEffect}
    (recorded : store.Recorded)
    (done : store.Completed row)
    (notPast : ¬ point.PastOpening)
    (next : point.move sha256 store input = some move)
    (committed :
      ∀ write target,
        move = .transact write target →
          ∃ after, write.apply store = .ok after) :
    ¬ move.target.PastOpening := by
  cases point with
  | choosing =>
      simp only [ResumePoint.move] at next
      split at next <;> cases next <;> exact id
  | selectingApproval decision loaded =>
      simp only [ResumePoint.move] at next
      split at next
      · cases next
        exact id
      · split at next <;> cases next <;> exact id
  | validating decision loaded approval =>
      simp only [ResumePoint.move] at next
      split at next
      · cases next
        exact id
      · split at next
        · cases next
          exact id
        · cases decision <;> cases next <;> exact id
  | opening loaded artifact =>
      simp only [ResumePoint.move] at next
      split at next
      · cases next
        exact id
      · rename_i notCompleted
        cases next
        obtain ⟨after, opened⟩ := committed _ _ rfl
        exact
          absurd opened
            (openSideEffect_blocked recorded done notCompleted)
  | fencing loaded artifact => exact absurd trivial notPast
  | calling loaded artifact => exact absurd trivial notPast
  | recording loaded artifact outcome => exact absurd trivial notPast
  | entering decision =>
      cases next
      exact id
  | guarding decision =>
      cases next
      exact id
  | selectingRun decision =>
      cases next
      exact id
  | rejecting loaded =>
      cases next
      exact id
  | marking loaded artifact =>
      cases next
      exact id
  | refreshing artifact =>
      cases next
      exact id
  | failing loaded error =>
      cases next
      exact id
  | resolving loaded artifact pullRequest =>
      cases next
      exact id
  | idle =>
      cases next
  | executing =>
      cases next
  | returned status pullRequest =>
      cases next
  | raised error =>
      cases next
  | crashed =>
      cases next

/-- With a completed row, an attempt not past the opening stays so. -/
theorem ResumeStep.notPast
    {before after : ResumeState}
    {action : ResumeAction}
    {row : ExternalSideEffect}
    {claim : ClaimedRun}
    (consistent : before.Consistent)
    (done : before.plane.store.Completed row)
    (notPast : ¬ (before.attempts claim).PastOpening)
    (step :
      ResumeStep sha256 deployment LeavesSideEffects before action
        after) :
    ¬ (after.attempts claim).PastOpening := by
  cases step with
  | environment moved leaves =>
      exact notPast
  | @start started decision granted idle =>
      by_cases same : claim = started
      · subst same
        cases decision <;> simp [ResumePoint.PastOpening]
      · simpa [same] using notPast
  | @advance advanced input move plane point next performed =>
      by_cases same : claim = advanced
      · subst same
        simp only [Function.update_self]
        rcases ResumeMove.perform_cases performed with
            ⟨rfl, rfl | rfl⟩ | ⟨write, rfl, committed⟩
        · refine
            move_notPast consistent.recorded done notPast next ?_
          intro write target moves
          cases moves
        · exact id
        · refine
            move_notPast consistent.recorded done notPast next ?_
          intro other target moves
          cases moves
          have written := (ControlPlane.commit_eq_some.mp committed).2.1
          exact
            ⟨_, (Transaction.commitStore_eq_some.mp written).2.2⟩
      · simpa [same] using notPast
  | crash crashed =>
      by_cases same : claim = crashed
      · subst same
        simp [ResumePoint.PastOpening]
      · simpa [same] using notPast

/-- A completed row lasts, and keeps attempts from getting past the opening. -/
theorem completed_lasts
    {state later : ResumeState}
    {row : ExternalSideEffect}
    (reached :
      (resumption sha256 deployment LeavesSideEffects).Reachable state)
    (done : state.plane.store.Completed row)
    (path :
      (resumption sha256 deployment LeavesSideEffects).Leads state
        later) :
    later.plane.store.Completed row ∧
      ∀ claim,
        ¬ (state.attempts claim).PastOpening →
          ¬ (later.attempts claim).PastOpening := by
  obtain ⟨steps, run⟩ := path
  induction run with
  | nil =>
      exact ⟨done, fun _ notPast => notPast⟩
  | @snoc middle final steps action earlier last inductionHypothesis =>
      obtain ⟨middleDone, middleNotPast⟩ := inductionHypothesis
      have middleReached := reached.leads ⟨steps, earlier⟩
      have consistent := consistent_of_reachable middleReached
      have kept :=
        (ResumeStep.consistent consistent
          (resumption_plane middleReached) last).2
      refine ⟨⟨kept row middleDone.member middleDone.completed, ?_,
        middleDone.ownType, middleDone.completed⟩, ?_⟩
      · rw [(ResumeStep.grows last).sameRun]
        exact middleDone.ownRun
      · intro claim notPast
        exact
          ResumeStep.notPast consistent middleDone
            (middleNotPast claim notPast) last

end

/--
The record of the pull request over any sequence of attempts: a run has at most
one such row; a completed row never changes, and no attempt that has not opened
the side effect by then calls GitHub; and a resolved run has a completed row
whose result is the pull request it reports.
-/
theorem durable_side_effect_record
    {sha256 : String → String}
    {deployment : Deployment}
    {state : ResumeState}
    (reached :
      (resumption sha256 deployment LeavesSideEffects).Reachable
        state) :
    (∀ first ∈ state.plane.store.sideEffects,
        ∀ second ∈ state.plane.store.sideEffects,
          first.runPk = state.plane.store.run.id →
          second.runPk = state.plane.store.run.id →
          first.effectType = "github_pull_request" →
          second.effectType = "github_pull_request" →
          first = second) ∧
      (∀ row later,
        state.plane.store.Completed row →
        (resumption sha256 deployment LeavesSideEffects).Leads state
            later →
          row ∈ later.plane.store.sideEffects ∧
            ∀ claim,
              ¬ (state.attempts claim).PastOpening →
                later.githubCall claim = none) ∧
      (state.plane.store.run.status = .resolved →
        ∃ row,
          state.plane.store.Completed row ∧
            state.plane.store.run.result.pullRequest = row.result) := by
  refine ⟨?_, ?_, ?_⟩
  · intro first firstMember second secondMember firstRun secondRun
      firstType secondType
    exact
      sideEffect_unique firstMember secondMember
        (.inr
          ⟨firstRun.trans secondRun.symm,
            firstType.trans secondType.symm⟩)
  · intro row later done path
    obtain ⟨laterDone, notPast⟩ := completed_lasts reached done path
    refine ⟨laterDone.member, ?_⟩
    intro claim before
    cases calls : later.githubCall claim with
    | none =>
        rfl
    | some call =>
        obtain ⟨loaded, artifact, stands, -⟩ :=
          ResumeState.githubCall_eq_some calls
        have after := notPast claim before
        rw [stands] at after
        exact absurd trivial after
  · intro resolved
    obtain ⟨row, member, ownRun, ownType, completed, sameResult⟩ :=
      (consistent_of_reachable reached).recorded.resolved resolved
    exact ⟨row, ⟨member, ownRun, ownType, completed⟩, sameResult⟩

/-- The approved run ends resolved, with the pull request it was given. -/
theorem durable_side_effect_record_resolved :
    ∃ state row,
      (ResumeState.admitted "pk" "RUN-1" "INC-1" 0).execute id
          (.durable 2 60)
          (resumedRun (.ok ⟨"url", some 7, "branch", "real"⟩) 13) =
        some state ∧
        state.plane.store.run.status = .resolved ∧
        state.plane.store.Completed row ∧
        row.result = some ⟨"url", some 7, "branch", "real"⟩ := by
  have executed :
      (ResumeState.admitted "pk" "RUN-1" "INC-1" 0).execute id
          (.durable 2 60)
          (resumedRun (.ok ⟨"url", some 7, "branch", "real"⟩) 13) =
        some _ :=
    rfl
  have reached :
      (resumption id (.durable 2 60) LeavesSideEffects).Reachable _ :=
    ResumeState.reachable_of_execute
      (by
        simp [resumedRun, approvedRun, LeavesSideEffects,
          FencedWrite.LeavesSideEffects])
      executed
  obtain ⟨row, completed, sameResult⟩ :=
    (durable_side_effect_record reached).2.2 rfl
  exact ⟨_, row, executed, rfl, completed, sameResult.symm⟩

end IncidentPilot
