import IncidentPilot.ExportedPatch

/-!
# Runs that wait for approval

A run that waits for approval has an artifact that `validated_artifact` accepts,
named by its result.  Rows are never taken back, so the artifact stays accepted
whatever happens next, and a decision about it can only fail because the run is
decided or waits no more.
-/

namespace IncidentPilot

/-- A decision cannot be committed: the run waits no more, or it is decided. -/
def Store.PastDecision (store : Store) : Prop :=
  store.run.status ≠ .waitingApproval ∨ store.Decided

/-- What a decision about an accepted artifact can come to. -/
inductive DecisionRequest.Outcome
    (request : DecisionRequest)
    (artifact : PatchArtifact)
    (store : Store) : Except String Store → Prop where
  | committed (after : Store) :
      Outcome request artifact store (.ok after)
  | otherHash
      {hash : String}
      (requested : request.patchHash = some hash)
      (differs : hash ≠ artifact.patchHash) :
      Outcome request artifact store
        (.error "approval patch hash mismatch")
  | tooLate (past : store.PastDecision) :
      Outcome request artifact store
        (.error "approval was already decided")

/-- A request that names no artifact is about the one the result names. -/
theorem DecisionRequest.artifact_of_validated
    {sha256 : String → String}
    {store : Store}
    {loadedResult : RunResult}
    {request : DecisionRequest}
    {artifact : PatchArtifact}
    (accepted :
      validatedArtifact sha256 store loadedResult none = .ok artifact)
    (unnamed : request.patchArtifactId = none) :
    request.artifact sha256 store loadedResult =
      if request.patchHash.any fun hash => hash ≠ artifact.patchHash then
        .error "approval patch hash mismatch"
      else
        .ok artifact := by
  unfold DecisionRequest.artifact
  rw [unnamed, accepted]

/--
A decision about a validated artifact is committed, unless it names another hash
or comes too late.
-/
theorem ApprovalService.decide_of_validated
    {sha256 : String → String}
    {store : Store}
    {loadedResult : RunResult}
    {request : DecisionRequest}
    {artifact : PatchArtifact}
    (accepted :
      validatedArtifact sha256 store loadedResult none = .ok artifact)
    (unnamed : request.patchArtifactId = none)
    (updatedAt decidedAt : Instant) :
    request.Outcome artifact store
      (ApprovalService.decide sha256 loadedResult request updatedAt
        decidedAt store) := by
  unfold ApprovalService.decide
  rw [DecisionRequest.artifact_of_validated accepted unnamed]
  by_cases otherHash :
      request.patchHash.any fun hash => hash ≠ artifact.patchHash
  · obtain ⟨hash, requested, differs⟩ :=
      (Option.any_eq_true _ _).mp otherHash
    rw [if_pos otherHash]
    exact .otherHash requested (of_decide_eq_true differs)
  · rw [if_neg otherHash]
    by_cases waits : store.run.status = .waitingApproval
    · cases inserted :
          store.approvals.insert
            (request.approval store.run.id artifact decidedAt) with
      | some approvals =>
          simp only [waits, ne_eq, not_true_eq_false, if_false, inserted]
          exact .committed _
      | none =>
          obtain ⟨approval, member, clash⟩ :=
            UniqueTable.insert_conflicts inserted
          have ofRun : approval.runPk = store.run.id :=
            of_decide_eq_true clash
          simp only [waits, ne_eq, not_true_eq_false, if_false, inserted]
          exact .tooLate (.inr ⟨approval, member, ofRun⟩)
    · simp only [ne_eq, waits, not_false_eq_true, if_true]
      exact .tooLate (.inl waits)

/--
A run that waits for approval, and whatever it leads to: the artifact named by
the result that was read while it waited is accepted, and a decision about it is
committed unless it names another hash or comes too late.
-/
theorem waiting_run_can_be_decided
    (setup : WorkflowSetup)
    {waiting later : WorkflowRuns}
    (reached : (workflow setup).Reachable waiting)
    (waits : waiting.world.store.run.status = .waitingApproval)
    (leads : (workflow setup).Leads waiting later) :
    ∃ artifact,
      waiting.world.store.run.result.patchArtifactId =
          some artifact.patchArtifactId ∧
        Validated setup.tools.json.sha256 later.world.store artifact ∧
        validatedArtifact setup.tools.json.sha256 later.world.store
            waiting.world.store.run.result none =
          .ok artifact ∧
        ∀ (request : DecisionRequest) updatedAt decidedAt,
          request.patchArtifactId = none →
          request.Outcome artifact later.world.store
            (ApprovalService.decide setup.tools.json.sha256
              waiting.world.store.run.result request updatedAt decidedAt
              later.world.store) := by
  obtain ⟨holds, -⟩ := (testedPatches_inductive setup).reachable reached
  obtain ⟨artifact, validated, named⟩ := holds.tables.waiting waits
  have grows := WorkflowRuns.grows_of_leads leads
  have validatedLater := grows.store.validated validated
  have accepted :
      validatedArtifact setup.tools.json.sha256 later.world.store
          waiting.world.store.run.result none =
        .ok artifact :=
    validatedArtifact_eq_ok.mpr ⟨validatedLater, named.symm⟩
  refine ⟨artifact, named, validatedLater, accepted, ?_⟩
  intro request updatedAt decidedAt unnamed
  exact
    ApprovalService.decide_of_validated accepted unnamed updatedAt
      decidedAt

/-- A run that waits for approval after one patch and its tests. -/
theorem waiting_run_can_be_decided_app :
    ∃ runs artifact,
      (workflow appSetup).Reachable runs ∧
        runs.world.store.run.status = .waitingApproval ∧
        validatedArtifact appSetup.tools.json.sha256 runs.world.store
            runs.world.store.run.result none =
          .ok artifact := by
  have replayed :
      (appSetup.replay appAnswers 62
          ((WorkflowRuns.admitted "pk" "RUN-1" "INC-1" 0).world,
            .marking ⟨none, false⟩)).any
        (fun place =>
          decide (place.1.store.run.status = .waitingApproval)) =
        true := by
    decide +kernel
  obtain ⟨⟨after, point⟩, replays, ended⟩ :=
    (Option.any_eq_true _ _).mp replayed
  obtain ⟨runs, reached, rfl, -⟩ :=
    WorkflowRuns.reachable_of_first 62 rfl appAnswers_clean replays
  have waits := of_decide_eq_true ended
  obtain ⟨artifact, -, -, accepted, -⟩ :=
    waiting_run_can_be_decided appSetup reached waits (.refl runs)
  exact ⟨runs, artifact, reached, waits, accepted⟩

end IncidentPilot
