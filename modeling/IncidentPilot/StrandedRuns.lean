import IncidentPilot.RunLifecycle

/-!
# Runs nobody can pick up

A pending or running run needs somebody to claim it or to expire it later.
Whether that is still possible depends on the status, the attempts and the lease
together.  Two transactions can end that possibility: approving a run that has
used up its attempts, and releasing a run that is still running.
-/

namespace IncidentPilot

/-- The shape of the `mark_status` calls a leased worker makes. -/
def StatusChange.FromWorker (change : StatusChange) : Prop :=
  change.status ≠ .pending ∧
    (change.finished = true ↔ change.status ∈ terminalRunStatuses)

/-- The fenced writes a leased worker makes. -/
def FencedWrite.FromWorker : FencedWrite → Prop
  | .markStatus _ change => change.FromWorker
  | _ => True

/-- The steps of workers, of the deciding human and of the clock. -/
def FromWorker : RowLock.Action Transaction Nat → Prop
  | .commit (.fenced _ _ write) => write.FromWorker
  | _ => True

namespace ControlPlane

/-- The life of a run that only leased workers execute. -/
def workerLifecycle
    (sha256 : String → String)
    (maxJobAttempts jobLeaseSeconds : Nat) :
    Machine ControlPlane (RowLock.Action Transaction Nat) :=
  (lifecycle sha256 (.durable maxJobAttempts jobLeaseSeconds)).restrict
    FromWorker

/--
An unfinished run will meet the selection predicate of `claim_next_run` or of
`expire_exhausted_runs` if nothing else touches it.
-/
def Resumable (maxAttempts : Nat) (plane : ControlPlane) : Prop :=
  plane.store.run.status = .pending ∨
      plane.store.run.status = .running →
    ∃ later,
      plane.clock ≤ later ∧
        (Claimable maxAttempts later plane.store.run ∨
          Exhausted maxAttempts later plane.store.run)

end ControlPlane

/-- What keeps a row from being stranded. -/
structure AgentRun.Recoverable
    (maxAttempts : Nat)
    (run : AgentRun) : Prop where
  pending : run.status = .pending → run.attemptCount < maxAttempts
  running : run.status = .running → run.leaseExpiresAt ≠ none

/-- A pending run with attempts left can be claimed later. -/
theorem claimable_later
    {maxAttempts : Nat}
    {run : AgentRun}
    (clock : Instant)
    (pending : run.status = .pending)
    (attemptsLeft : run.attemptCount < maxAttempts) :
    ∃ later, clock ≤ later ∧ Claimable maxAttempts later run := by
  cases due : run.nextAttemptAt with
  | none =>
      exact ⟨clock, Int.le_refl _, .inl ⟨pending, .inl due⟩, attemptsLeft⟩
  | some instant =>
      refine
        ⟨max clock instant, Int.le_max_left _ _,
          .inl ⟨pending, .inr ?_⟩, attemptsLeft⟩
      rw [due, sqlAtMost_some, decide_eq_true_eq]
      exact Int.le_max_right _ _

/-- A running run with a lease can be claimed or expired later. -/
theorem claimable_or_exhausted_later
    {run : AgentRun}
    (maxAttempts : Nat)
    (clock : Instant)
    (running : run.status = .running)
    (leased : run.leaseExpiresAt ≠ none) :
    ∃ later,
      clock ≤ later ∧
        (Claimable maxAttempts later run ∨
          Exhausted maxAttempts later run) := by
  obtain ⟨expiry, lease⟩ := Option.ne_none_iff_exists'.mp leased
  have expired :
      sqlAtMost run.leaseExpiresAt (max clock expiry) = true := by
    rw [lease, sqlAtMost_some, decide_eq_true_eq]
    exact Int.le_max_right _ _
  refine ⟨max clock expiry, Int.le_max_left _ _, ?_⟩
  rcases Nat.lt_or_ge run.attemptCount maxAttempts with left | used
  · exact .inl ⟨.inr ⟨running, leased, expired⟩, left⟩
  · exact .inr ⟨running, expired, used⟩

namespace ControlPlane

/-- A run can be picked up exactly when its row is recoverable. -/
theorem resumable_iff
    {maxAttempts : Nat}
    {plane : ControlPlane} :
    plane.Resumable maxAttempts ↔
      plane.store.run.Recoverable maxAttempts := by
  constructor
  · intro resumable
    constructor
    · intro pending
      obtain ⟨later, -, claimable | exhausted⟩ := resumable (.inl pending)
      · exact claimable.2
      · have running := exhausted.1
        rw [pending] at running
        cases running
    · intro running unleased
      obtain ⟨later, -, claimable | exhausted⟩ := resumable (.inr running)
      · rcases claimable.1 with ⟨pending, -⟩ | ⟨-, leased, -⟩
        · rw [running] at pending
          cases pending
        · exact leased unleased
      · have expired := exhausted.2.1
        rw [unleased] at expired
        cases expired
  · intro recoverable unfinished
    rcases unfinished with pending | running
    · obtain ⟨later, reached, claimable⟩ :=
        claimable_later plane.clock pending (recoverable.pending pending)
      exact ⟨later, reached, .inl claimable⟩
    · exact
        claimable_or_exhausted_later maxAttempts plane.clock running
          (recoverable.running running)

end ControlPlane

/-- A row in another status than pending or running cannot be stranded. -/
theorem AgentRun.recoverable_of_parked
    {maxAttempts : Nat}
    {run : AgentRun}
    (notPending : run.status ≠ .pending)
    (notRunning : run.status ≠ .running) :
    run.Recoverable maxAttempts :=
  ⟨fun pending => absurd pending notPending,
    fun running => absurd running notRunning⟩

/-- A running row with a lease is recoverable. -/
theorem AgentRun.recoverable_of_leased
    {maxAttempts : Nat}
    {run : AgentRun}
    (running : run.status = .running)
    (leased : run.leaseExpiresAt ≠ none) :
    run.Recoverable maxAttempts where
  pending pending := by
    rw [running] at pending
    cases pending
  running _ := leased

/-- A status change of a worker keeps a leased running row recoverable. -/
theorem StatusChange.apply_recoverable
    {maxAttempts : Nat}
    {change : StatusChange}
    {run : AgentRun}
    (fromWorker : change.FromWorker)
    (leased : run.leaseExpiresAt ≠ none) :
    (change.apply run).Recoverable maxAttempts := by
  constructor
  · intro pending
    rw [StatusChange.apply_status] at pending
    exact absurd pending fromWorker.1
  · intro running
    rw [StatusChange.apply_status] at running
    have unfinished : change.finished = false := by
      rw [Bool.eq_false_iff]
      intro finished
      have terminal := fromWorker.2.mp finished
      rw [running] at terminal
      revert terminal
      decide
    rw [StatusChange.apply_leaseExpiresAt, unfinished]
    exact leased

/-- A fenced write of a worker keeps a leased running row recoverable. -/
theorem FencedWrite.apply_recoverable
    {maxAttempts : Nat}
    {write : FencedWrite}
    {store after : Store}
    (fromWorker : write.FromWorker)
    (running : store.run.status = .running)
    (leased : store.run.leaseExpiresAt ≠ none)
    (applied : write.apply store = .ok after) :
    after.run.Recoverable maxAttempts := by
  have kept : store.run.Recoverable maxAttempts :=
    AgentRun.recoverable_of_leased running leased
  cases applies_of_apply applied with
  | check =>
      exact kept
  | markRunning active =>
      exact AgentRun.recoverable_of_leased rfl leased
  | markStatus allowed same =>
      exact StatusChange.apply_recoverable fromWorker leased
  | progress =>
      exact AgentRun.recoverable_of_leased running leased
  | investigation inserted =>
      exact AgentRun.recoverable_of_leased running leased
  | artifactFound =>
      exact kept
  | artifactInserted inserted =>
      exact kept
  | openSideEffect opened =>
      exact kept
  | recordSideEffect recorded =>
      exact kept

/-- What a step must respect for the run to stay recoverable. -/
def RespectsRecovery
    (maxAttempts : Nat)
    (plane : ControlPlane) : RowLock.Action Transaction Nat → Prop
  | .commit (.decide _ request _ _) =>
      request.decision = .approve →
        plane.store.run.attemptCount < maxAttempts
  | .commit (.releaseClaim _) => plane.store.run.status ≠ .running
  | _ => True

/-- A transaction that respects the recovery keeps the row recoverable. -/
theorem Transaction.commitStore_recoverable
    {sha256 : String → String}
    {maxJobAttempts jobLeaseSeconds : Nat}
    {plane : ControlPlane}
    {after : Store}
    {transaction : Transaction}
    (recoverable : plane.store.run.Recoverable maxJobAttempts)
    (fromWorker : FromWorker (.commit transaction))
    (respects :
      RespectsRecovery maxJobAttempts plane (.commit transaction))
    (committed :
      transaction.commitStore sha256
          (.durable maxJobAttempts jobLeaseSeconds) plane.store =
        some after) :
    after.run.Recoverable maxJobAttempts := by
  cases commits_of_commitStore committed with
  | claimNextRun claimable =>
      exact AgentRun.recoverable_of_leased rfl (by simp [AgentRun.claimed])
  | renewLease sameRun running owner held attempt =>
      exact AgentRun.recoverable_of_leased running (by simp)
  | retryClaim sameRun running owner held attempt =>
      rw [Store.withRun_run]
      unfold AgentRun.retried
      split
      · exact AgentRun.recoverable_of_parked (by simp) (by simp)
      · rename_i attemptsLeft
        exact ⟨fun _ => Nat.lt_of_not_le attemptsLeft, by simp⟩
  | releaseClaim sameRun owner attempt =>
      exact
        ⟨recoverable.pending, fun running => absurd running respects⟩
  | expireExhaustedRuns exhausted =>
      exact AgentRun.recoverable_of_parked (by simp) (by simp)
  | @decide loadedResult request updatedAt decidedAt artifact approvals
      chosen waiting inserted =>
      cases decision : request.decision with
      | approve =>
          exact ⟨fun _ => respects decision, by simp [AgentRun.decided]⟩
      | reject =>
          exact
            AgentRun.recoverable_of_parked
              (by simp [AgentRun.decided])
              (by simp [AgentRun.decided])
  | @fenced currentClaim current write after underClaim passed applied =>
      cases currentClaim with
      | none =>
          cases underClaim rfl
      | some claim =>
          obtain ⟨-, -, -, leased, running⟩ := fence_some_eq_ok.mp passed
          refine
            FencedWrite.apply_recoverable fromWorker running ?_ applied
          intro unleased
          rw [unleased] at leased
          cases leased

/-- A transaction that does not respect the recovery strands the run. -/
theorem Transaction.commitStore_stranded
    {sha256 : String → String}
    {maxJobAttempts jobLeaseSeconds : Nat}
    {plane : ControlPlane}
    {after : Store}
    {transaction : Transaction}
    (disregards :
      ¬ RespectsRecovery maxJobAttempts plane (.commit transaction))
    (committed :
      transaction.commitStore sha256
          (.durable maxJobAttempts jobLeaseSeconds) plane.store =
        some after) :
    ¬ after.run.Recoverable maxJobAttempts := by
  intro recoverable
  apply disregards
  cases commits_of_commitStore committed with
  | decide chosen waiting inserted =>
      intro approved
      exact
        recoverable.pending (by simp [AgentRun.decided, approved])
  | releaseClaim sameRun owner attempt =>
      intro running
      exact recoverable.running running rfl
  | _ =>
      trivial

/-- A step of the worker's machine keeps a run resumable, or it strands it. -/
theorem workerStep_resumable_iff
    {sha256 : String → String}
    {maxJobAttempts jobLeaseSeconds : Nat}
    {before after : ControlPlane}
    {action : RowLock.Action Transaction Nat}
    (resumable : before.Resumable maxJobAttempts)
    (step :
      (ControlPlane.workerLifecycle sha256 maxJobAttempts
        jobLeaseSeconds).step before action after) :
    after.Resumable maxJobAttempts ↔
      RespectsRecovery maxJobAttempts before action := by
  have recoverable := ControlPlane.resumable_iff.mp resumable
  rw [ControlPlane.resumable_iff]
  obtain ⟨moved, fromWorker⟩ := step
  cases moved with
  | commit committed =>
      have written := (ControlPlane.commit_eq_some.mp committed).2.1
      constructor
      · intro stays
        by_contra disregards
        exact Transaction.commitStore_stranded disregards written stays
      · intro respects
        exact
          Transaction.commitStore_recoverable recoverable fromWorker
            respects written
  | drift seconds =>
      exact ⟨fun _ => trivial, fun _ => recoverable⟩

/-- With attempts to give, a run just admitted can be picked up. -/
theorem ControlPlane.Initial.resumable
    {maxAttempts : Nat}
    {plane : ControlPlane}
    (initial : plane.Initial)
    (positive : 1 ≤ maxAttempts) :
    plane.Resumable maxAttempts := by
  obtain ⟨id, runId, incidentPk, startedAt, fresh⟩ := initial.admitted
  rw [ControlPlane.resumable_iff, fresh]
  exact ⟨fun _ => positive, by simp [newRun]⟩

/--
A run is never stranded exactly as long as no approval is committed on used-up
attempts and no running row is released.
-/
theorem no_stranded_run_iff
    {sha256 : String → String}
    {maxJobAttempts jobLeaseSeconds : Nat}
    {start final : ControlPlane}
    {steps :
      List (Machine.Step ControlPlane (RowLock.Action Transaction Nat))}
    (positive : 1 ≤ maxJobAttempts)
    (initial : start.Initial)
    (run :
      (ControlPlane.workerLifecycle sha256 maxJobAttempts
        jobLeaseSeconds).Run start steps final) :
    (start.Resumable maxJobAttempts ∧
        ∀ taken ∈ steps, taken.after.Resumable maxJobAttempts) ↔
      ∀ taken ∈ steps,
        RespectsRecovery maxJobAttempts taken.before taken.action := by
  have begins := initial.resumable positive
  constructor
  · rintro ⟨-, reached⟩ taken member
    have before := run.before_holds begins reached member
    exact
      (workerStep_resumable_iff before (run.step_mem member)).mp
        (reached taken member)
  · intro respects
    refine ⟨begins, ?_⟩
    exact
      (run.guarded
        (fun resumable respect step =>
          (workerStep_resumable_iff resumable step).mpr respect)
        begins respects).2

/-- With one attempt allowed, losing it leaves the run resumable throughout. -/
theorem no_stranded_run_iff_expired :
    ∃ steps final,
      (ControlPlane.workerLifecycle id 1 60).Run
          (.admitted "pk" "RUN-1" "INC-1" 0) steps final ∧
        final.store.run.status = .needsHumanIntervention ∧
        ((ControlPlane.admitted "pk" "RUN-1" "INC-1" 0).Resumable 1 ∧
            (∀ taken ∈ steps, taken.after.Resumable 1) ↔
          ∀ taken ∈ steps,
            RespectsRecovery 1 taken.before taken.action) := by
  obtain ⟨steps, run⟩ :
      (ControlPlane.workerLifecycle id 1 60).Leads
        (.admitted "pk" "RUN-1" "INC-1" 0) _ :=
    RowLock.atomic_leads
      (by simp [FromWorker])
      (rfl :
        (ControlPlane.rowLock id (.durable 1 60)).execute
            (.admitted "pk" "RUN-1" "INC-1" 0)
            [.commit (.claimNextRun "worker" 0), .drift 60,
              .commit (.expireExhaustedRuns 60)] = some _)
  exact
    ⟨steps, _, run, rfl,
      no_stranded_run_iff (by decide)
        (ControlPlane.admitted_initial "pk" "RUN-1" "INC-1" 0) run⟩

/--
Approving a run on its last attempt leaves it pending for ever: nothing claims
it and nothing expires it.
-/
theorem approval_strands_last_attempt :
    ¬ ∀ plane,
        (ControlPlane.workerLifecycle id 1 60).Reachable plane →
        plane.Resumable 1 := by
  intro never
  have path :
      (ControlPlane.workerLifecycle id 1 60).Leads
        (.admitted "pk" "RUN-1" "INC-1" 0) _ :=
    RowLock.atomic_leads
      (by
        simp [approvedRun, FromWorker, FencedWrite.FromWorker,
          StatusChange.FromWorker, terminalRunStatuses])
      (rfl :
        (ControlPlane.rowLock id (.durable 1 60)).execute
            (.admitted "pk" "RUN-1" "INC-1" 0) approvedRun =
          some _)
  have reached :=
    (Machine.Reachable.initial
      (ControlPlane.admitted_initial "pk" "RUN-1" "INC-1" 0)).leads path
  have recoverable :=
    ControlPlane.resumable_iff.mp (never _ reached)
  exact absurd (recoverable.pending rfl) (by decide)

end IncidentPilot
