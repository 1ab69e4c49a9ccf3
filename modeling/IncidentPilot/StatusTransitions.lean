import IncidentPilot.RunLifecycle

/-!
# Status changes follow the table

Only `mark_status` reads `RUN_TRANSITIONS`; the other writers of the status
column state their own conditions.  Every committed change follows the table all
the same, so a terminal status is final.
-/

namespace IncidentPilot

/-- A status is kept, or it changes to one the table allows next. -/
def StatusFollows (before after : AgentRunStatus) : Prop :=
  after = before ∨ after ∈ runTransitions before

/-- A status that follows a terminal one is the same. -/
theorem StatusFollows.of_terminal
    {before after : AgentRunStatus}
    (follows : StatusFollows before after)
    (terminal : before ∈ terminalRunStatuses) :
    after = before := by
  rcases follows with kept | allowed
  · exact kept
  · exact runTransitions_of_terminal terminal allowed

/-- A fenced write gives the run a status the table allows. -/
theorem FencedWrite.apply_statusFollows
    {write : FencedWrite}
    {store after : Store}
    (applied : write.apply store = .ok after) :
    StatusFollows store.run.status after.run.status := by
  cases applies_of_apply applied with
  | markRunning active =>
      rcases active with pending | running
      · right
        rw [pending]
        show AgentRunStatus.running ∈ runTransitions .pending
        decide
      · left
        rw [running]
        rfl
  | markStatus allowed same =>
      right
      rw [same, Store.withRun_run, StatusChange.apply_status]
      exact allowed
  | _ =>
      exact .inl rfl

/-- Every transaction gives the run a status the table allows. -/
theorem Transaction.commitStore_statusFollows
    {sha256 : String → String}
    {deployment : Deployment}
    {store after : Store}
    {transaction : Transaction}
    (committed :
      transaction.commitStore sha256 deployment store = some after) :
    StatusFollows store.run.status after.run.status := by
  cases commits_of_commitStore committed with
  | claimNextRun claimable =>
      obtain ⟨eligible, -⟩ := claimable
      rcases eligible with ⟨pending, -⟩ | ⟨running, -⟩
      · right
        rw [pending]
        show AgentRunStatus.running ∈ runTransitions .pending
        decide
      · left
        rw [running]
        rfl
  | renewLease sameRun running owner held attempt =>
      exact .inl rfl
  | retryClaim sameRun running owner held attempt =>
      right
      rw [running]
      exact mem_runTransitions_running _
  | releaseClaim sameRun owner attempt =>
      exact .inl rfl
  | expireExhaustedRuns exhausted =>
      right
      rw [exhausted.1]
      exact mem_runTransitions_running _
  | @decide loadedResult request updatedAt decidedAt artifact approvals
      chosen waiting inserted =>
      right
      rw [waiting]
      cases decision : request.decision <;>
        simp [AgentRun.decided, runTransitions]
  | fenced underClaim passed applied =>
      exact FencedWrite.apply_statusFollows applied

/-- One step under the row lock follows the table. -/
theorem lockedStep_statusFollows
    {sha256 : String → String}
    {deployment : Deployment}
    {before after : RowLock.Locked ControlPlane Transaction}
    {action : RowLock.LockedAction Transaction Nat}
    (step :
      (ControlPlane.lockedLifecycle sha256 deployment).step before action
        after) :
    StatusFollows before.store.store.run.status
      after.store.store.run.status := by
  cases step with
  | acquire guard =>
      exact .inl rfl
  | commit committed =>
      exact
        Transaction.commitStore_statusFollows
          (ControlPlane.commit_eq_some.mp committed).2.1
  | rollback store transaction =>
      exact .inl rfl
  | drift locked seconds =>
      exact .inl rfl

/-- A terminal status lasts to the end of every run of the machine. -/
theorem terminal_lasts
    {sha256 : String → String}
    {deployment : Deployment}
    {start final : RowLock.Locked ControlPlane Transaction}
    (path :
      (ControlPlane.lockedLifecycle sha256 deployment).Leads start final)
    (terminal : start.store.store.run.status ∈ terminalRunStatuses) :
    final.store.store.run.status = start.store.store.run.status := by
  obtain ⟨steps, run⟩ := path
  induction run with
  | nil =>
      rfl
  | snoc earlier last inductionHypothesis =>
      have follows := lockedStep_statusFollows last
      rw [inductionHypothesis] at follows
      exact follows.of_terminal terminal

/--
Whatever interleaving of claims, retries, expiries, decisions and status marks
with stale objects a run goes through, each status change follows
`RUN_TRANSITIONS`, and a terminal status reached on the way is never left.
-/
theorem status_transition_safety
    {sha256 : String → String}
    {deployment : Deployment}
    {start final : RowLock.Locked ControlPlane Transaction}
    {steps :
      List
        (Machine.Step (RowLock.Locked ControlPlane Transaction)
          (RowLock.LockedAction Transaction Nat))}
    (run :
      (ControlPlane.lockedLifecycle sha256 deployment).Run start steps
        final) :
    (∀ taken ∈ steps,
        StatusFollows taken.before.store.store.run.status
          taken.after.store.store.run.status) ∧
      (start.store.store.run.status ∈ terminalRunStatuses →
        final.store.store.run.status = start.store.store.run.status) := by
  constructor
  · intro taken member
    exact lockedStep_statusFollows (run.step_mem member)
  · exact terminal_lasts ⟨steps, run⟩

/-- A run whose only attempt is lost ends with a human and stays there. -/
theorem status_transition_safety_exhausted :
    ∃ final,
      (ControlPlane.rowLock id (.durable 1 60)).execute
          (.admitted "pk" "RUN-1" "INC-1" 0)
          [.commit (.claimNextRun "worker" 0), .drift 60,
            .commit (.expireExhaustedRuns 60)] = some final ∧
        final.store.run.status = .needsHumanIntervention ∧
        ∀ {later},
          (ControlPlane.lockedLifecycle id (.durable 1 60)).Leads
              ⟨final, none⟩ later →
            later.store.store.run.status = .needsHumanIntervention := by
  refine ⟨_, rfl, rfl, ?_⟩
  rintro later ⟨steps, run⟩
  exact (status_transition_safety run).2 (by decide)

end IncidentPilot
