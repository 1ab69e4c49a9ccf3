import IncidentPilot.AgentRun

/-!
# Claims, leases and fenced writes

The row operations of `persistence/jobs.py` and `services/incidents.py`, and
the fence of `persistence/ownership.py`.  An operation that matches no row, or
that rolls back, returns `none` or an error; otherwise it returns the row it
commits.
-/

namespace IncidentPilot

/-- `ClaimedRun`: what a worker is told about the claim it was granted. -/
structure ClaimedRun where
  incidentPk : String
  runId : String
  workerId : String
  attemptCount : Nat
  recover : Bool
  deriving Repr, DecidableEq

/-- SQL `column <= value`, which a NULL column never satisfies. -/
def sqlAtMost (column : Option Instant) (value : Instant) : Bool :=
  column.any fun instant => decide (instant ≤ value)

/-- SQL `column > value`, which a NULL column never satisfies. -/
def sqlAfter (column : Option Instant) (value : Instant) : Bool :=
  column.any fun instant => decide (value < instant)

@[simp] theorem sqlAtMost_none (value : Instant) :
    sqlAtMost none value = false :=
  rfl

@[simp] theorem sqlAtMost_some (instant value : Instant) :
    sqlAtMost (some instant) value = decide (instant ≤ value) :=
  rfl

@[simp] theorem sqlAfter_none (value : Instant) :
    sqlAfter none value = false :=
  rfl

@[simp] theorem sqlAfter_some (instant value : Instant) :
    sqlAfter (some instant) value = decide (value < instant) :=
  rfl

/-- The selection predicate of `claim_next_run`. -/
def Claimable
    (maxAttempts : Nat)
    (current : Instant)
    (run : AgentRun) : Prop :=
  ((run.status = .pending ∧
        (run.nextAttemptAt = none ∨
          sqlAtMost run.nextAttemptAt current = true)) ∨
      (run.status = .running ∧
        run.leaseExpiresAt ≠ none ∧
        sqlAtMost run.leaseExpiresAt current = true)) ∧
    run.attemptCount < maxAttempts

instance
    (maxAttempts : Nat)
    (current : Instant)
    (run : AgentRun) :
    Decidable (Claimable maxAttempts current run) :=
  inferInstanceAs (Decidable (_ ∧ _))

/-- The attributes `claim_next_run` assigns to the row it selected. -/
def AgentRun.claimed
    (run : AgentRun)
    (workerId : String)
    (leaseSeconds : Nat)
    (current : Instant) : AgentRun :=
  { run with
    status := .running
    workerId := some workerId
    attemptCount := run.attemptCount + 1
    lastHeartbeatAt := some current
    leaseExpiresAt := some (current + leaseSeconds)
    nextAttemptAt := none }

/-- The claim reported for a row that has just been claimed. -/
def AgentRun.claimOf (run : AgentRun) (workerId : String) : ClaimedRun where
  incidentPk := run.incidentPk
  runId := run.runId
  workerId := workerId
  attemptCount := run.attemptCount + 1
  recover := decide (run.status = .running)

/-- The `attempt_count` condition of a query that may leave it out. -/
def attemptMatches (run : AgentRun) (attemptCount : Option Nat) : Bool :=
  attemptCount.all fun expected => run.attemptCount = expected

@[simp] theorem attemptMatches_some
    (run : AgentRun)
    (expected : Nat) :
    attemptMatches run (some expected) = true ↔
      run.attemptCount = expected := by
  simp [attemptMatches]

/-- `renew_lease`. -/
def renewLease
    (workerId : String)
    (leaseSeconds : Nat)
    (current : Instant)
    (attemptCount : Option Nat)
    (run : AgentRun) : Option AgentRun :=
  if run.status = .running ∧
      run.workerId = some workerId ∧
      sqlAfter run.leaseExpiresAt current = true ∧
      attemptMatches run attemptCount = true then
    some
      { run with
        lastHeartbeatAt := some current
        leaseExpiresAt := some (current + leaseSeconds) }
  else
    none

/-- What a renewal that matched the row checked and wrote. -/
theorem renewLease_eq_some
    {workerId : String}
    {leaseSeconds : Nat}
    {current : Instant}
    {attemptCount : Option Nat}
    {run after : AgentRun} :
    renewLease workerId leaseSeconds current attemptCount run =
        some after ↔
      (run.status = .running ∧
          run.workerId = some workerId ∧
          sqlAfter run.leaseExpiresAt current = true ∧
          attemptMatches run attemptCount = true) ∧
        after =
          { run with
            lastHeartbeatAt := some current
            leaseExpiresAt := some (current + leaseSeconds) } := by
  unfold renewLease
  rw [Option.ite_none_right_eq_some, Option.some.injEq]
  exact and_congr_right fun _ => eq_comm

/-- `release_claim`, which looks at the owner and not at the status. -/
def releaseClaim
    (workerId : String)
    (attemptCount : Option Nat)
    (run : AgentRun) : Option AgentRun :=
  if run.workerId = some workerId ∧
      attemptMatches run attemptCount = true then
    some
      { run with
        workerId := none
        leaseExpiresAt := none
        lastHeartbeatAt := none }
  else
    none

/-- What a release that matched the row checked and wrote. -/
theorem releaseClaim_eq_some
    {workerId : String}
    {attemptCount : Option Nat}
    {run after : AgentRun} :
    releaseClaim workerId attemptCount run = some after ↔
      (run.workerId = some workerId ∧
          attemptMatches run attemptCount = true) ∧
        after =
          { run with
            workerId := none
            leaseExpiresAt := none
            lastHeartbeatAt := none } := by
  unfold releaseClaim
  rw [Option.ite_none_right_eq_some, Option.some.injEq]
  exact and_congr_right fun _ => eq_comm

/--
`expiry.replace(tzinfo=UTC)`: the wall clock of an instant read back with the
given UTC offset, taken for UTC.
-/
def replaceTzUtc (utcOffset : Int) (instant : Instant) : Instant :=
  instant + utcOffset

/-- The lease test of `retry_claim` on the value read back. -/
def retryLeaseHeld
    (utcOffset : Int)
    (utcnow : Instant)
    (run : AgentRun) : Bool :=
  run.leaseExpiresAt.any fun expiry =>
    decide (utcnow < replaceTzUtc utcOffset expiry)

/-- What `retry_claim` writes once its guards have passed. -/
def AgentRun.retried
    (run : AgentRun)
    (maxAttempts : Nat)
    (failureCategory : String)
    (delaySeconds : Nat)
    (utcnow : Instant) : AgentRun :=
  let surrendered :=
    { run with
      workerId := none
      leaseExpiresAt := none
      lastHeartbeatAt := none
      failureCategory := some failureCategory }
  if maxAttempts ≤ run.attemptCount then
    { surrendered with
      status := .needsHumanIntervention
      workflowState := .needsHumanIntervention
      error := some ("job attempts exhausted: " ++ failureCategory)
      finishedAt := some utcnow }
  else
    { surrendered with
      status := .pending
      nextAttemptAt := some (utcnow + delaySeconds)
      error := some ("retry scheduled: " ++ failureCategory) }

/-- `retry_claim`; `none` is each of its three rollbacks. -/
def retryClaim
    (workerId : String)
    (maxAttempts : Nat)
    (failureCategory : String)
    (delaySeconds : Nat)
    (attemptCount : Option Nat)
    (utcOffset : Int)
    (checkedAt writtenAt : Instant)
    (run : AgentRun) : Option AgentRun :=
  if run.workerId = some workerId ∧
      attemptMatches run attemptCount = true then
    if run.status = .running then
      if retryLeaseHeld utcOffset checkedAt run = true then
        some (run.retried maxAttempts failureCategory delaySeconds writtenAt)
      else
        none
    else
      none
  else
    none

/-- What a committed retry checked and wrote. -/
theorem retryClaim_eq_some
    {workerId failureCategory : String}
    {maxAttempts delaySeconds : Nat}
    {attemptCount : Option Nat}
    {utcOffset : Int}
    {checkedAt writtenAt : Instant}
    {run after : AgentRun} :
    retryClaim workerId maxAttempts failureCategory delaySeconds
          attemptCount utcOffset checkedAt writtenAt run =
        some after ↔
      ((run.workerId = some workerId ∧
            attemptMatches run attemptCount = true) ∧
          run.status = .running ∧
          retryLeaseHeld utcOffset checkedAt run = true) ∧
        after =
          run.retried maxAttempts failureCategory delaySeconds
            writtenAt := by
  unfold retryClaim
  rw [Option.ite_none_right_eq_some, Option.ite_none_right_eq_some,
    Option.ite_none_right_eq_some, Option.some.injEq]
  constructor
  · rintro ⟨owner, running, held, rfl⟩
    exact ⟨⟨owner, running, held⟩, rfl⟩
  · rintro ⟨⟨owner, running, held⟩, rfl⟩
    exact ⟨owner, running, held, rfl⟩

/-- The selection predicate of `expire_exhausted_runs`. -/
def Exhausted
    (maxAttempts : Nat)
    (current : Instant)
    (run : AgentRun) : Prop :=
  run.status = .running ∧
    sqlAtMost run.leaseExpiresAt current = true ∧
    maxAttempts ≤ run.attemptCount

instance
    (maxAttempts : Nat)
    (current : Instant)
    (run : AgentRun) :
    Decidable (Exhausted maxAttempts current run) :=
  inferInstanceAs (Decidable (_ ∧ _))

/-- `expire_exhausted_runs` on one row. -/
def expireExhaustedRuns
    (maxAttempts : Nat)
    (current : Instant)
    (run : AgentRun) : Option AgentRun :=
  if Exhausted maxAttempts current run then
    some
      { run with
        status := .needsHumanIntervention
        workflowState := .needsHumanIntervention
        failureCategory := some "lease_expired"
        error := some "job attempts exhausted after lease expiration"
        finishedAt := some current
        workerId := none
        leaseExpiresAt := none
        lastHeartbeatAt := none }
  else
    none

/-- What an expiry that matched the row checked and wrote. -/
theorem expireExhaustedRuns_eq_some
    {maxAttempts : Nat}
    {current : Instant}
    {run after : AgentRun} :
    expireExhaustedRuns maxAttempts current run = some after ↔
      Exhausted maxAttempts current run ∧
        after =
          { run with
            status := .needsHumanIntervention
            workflowState := .needsHumanIntervention
            failureCategory := some "lease_expired"
            error := some "job attempts exhausted after lease expiration"
            finishedAt := some current
            workerId := none
            leaseExpiresAt := none
            lastHeartbeatAt := none } := by
  unfold expireExhaustedRuns
  rw [Option.ite_none_right_eq_some, Option.some.injEq]
  exact and_congr_right fun _ => eq_comm

/-- The exceptions a fenced transaction may raise. -/
inductive RunError where
  | lostLease (message : String)
  | runtime (message : String)
  | integrity
  deriving Repr, DecidableEq

/-- The `WHERE` clause of the fence. -/
def FenceHolds
    (claim : ClaimedRun)
    (current : Instant)
    (run : AgentRun) : Prop :=
  run.runId = claim.runId ∧
    run.workerId = some claim.workerId ∧
    run.attemptCount = claim.attemptCount ∧
    sqlAfter run.leaseExpiresAt current = true ∧
    run.status = .running

instance
    (claim : ClaimedRun)
    (current : Instant)
    (run : AgentRun) :
    Decidable (FenceHolds claim current run) :=
  inferInstanceAs (Decidable (_ ∧ _))

/-- `fence`, given the claim carried by the context variable. -/
def fence
    (currentClaim : Option ClaimedRun)
    (current : Instant)
    (run : AgentRun) : Except RunError Unit :=
  match currentClaim with
  | none =>
      if run.workerId ≠ none then
        .error (.lostLease "leased run requires worker context")
      else
        .ok ()
  | some claim =>
      if claim.runId ≠ run.runId then
        .error (.lostLease "claim belongs to another run")
      else if FenceHolds claim current run then
        .ok ()
      else
        .error (.lostLease "lease expired or superseded")

/-- Under a claim, the fence passes exactly when its `WHERE` clause matches. -/
theorem fence_some_eq_ok
    {claim : ClaimedRun}
    {current : Instant}
    {run : AgentRun} :
    fence (some claim) current run = .ok () ↔
      FenceHolds claim current run := by
  unfold fence
  by_cases sameRun : claim.runId = run.runId
  · by_cases holds : FenceHolds claim current run <;>
      simp [sameRun, holds]
  · have fails : ¬ FenceHolds claim current run := by
      intro holds
      exact sameRun holds.1.symm
    simp [sameRun, fails]

/-- The `UPDATE` of `mark_running`, behind its fence. -/
def setRunning (run : AgentRun) : Except RunError AgentRun :=
  if run.status = .pending ∨ run.status = .running then
    .ok { run with status := .running }
  else
    .error
      (.runtime ("terminal run cannot return to RUNNING: " ++ run.runId))

/-- The arguments of `RunService.mark_status` after the run. -/
structure StatusChange where
  status : AgentRunStatus
  workflowState : Option WorkflowState := none
  error : Option String := none
  result : Option RunResult := none
  rootCause : Option RootCause := none
  finished : Bool := false
  utcnow : Instant
  deriving Repr, DecidableEq

/-- The values `mark_status` writes. -/
def StatusChange.apply (change : StatusChange) (run : AgentRun) : AgentRun :=
  let marked :=
    { run with
      status := change.status
      workflowState := change.workflowState.getD run.workflowState
      error := change.error.or run.error
      result := change.result.getD run.result
      rootCause := change.rootCause.or run.rootCause }
  if change.finished then
    { marked with
      finishedAt := some change.utcnow
      workerId := none
      leaseExpiresAt := none
      lastHeartbeatAt := none }
  else
    marked

/--
The check and the `UPDATE` of `mark_status`, behind its fence.
`previousStatus` is the status of the `AgentRun` object it was called with,
which may be stale.
-/
def setStatus
    (previousStatus : AgentRunStatus)
    (change : StatusChange)
    (run : AgentRun) : Except RunError AgentRun :=
  if change.status ∉ runTransitions previousStatus then
    .error
      (.runtime
        ("terminal run transition denied: " ++
          previousStatus.value ++ " -> " ++ change.status.value))
  else if run.status ≠ previousStatus then
    .error (.runtime "concurrent run status transition")
  else
    .ok (change.apply run)

@[simp] theorem StatusChange.apply_status
    (change : StatusChange)
    (run : AgentRun) :
    (change.apply run).status = change.status := by
  unfold StatusChange.apply
  split <;> rfl

@[simp] theorem StatusChange.apply_attemptCount
    (change : StatusChange)
    (run : AgentRun) :
    (change.apply run).attemptCount = run.attemptCount := by
  unfold StatusChange.apply
  split <;> rfl

@[simp] theorem StatusChange.apply_nextAttemptAt
    (change : StatusChange)
    (run : AgentRun) :
    (change.apply run).nextAttemptAt = run.nextAttemptAt := by
  unfold StatusChange.apply
  split <;> rfl

@[simp] theorem StatusChange.apply_workerId
    (change : StatusChange)
    (run : AgentRun) :
    (change.apply run).workerId =
      if change.finished then none else run.workerId := by
  unfold StatusChange.apply
  split <;> rfl

@[simp] theorem StatusChange.apply_leaseExpiresAt
    (change : StatusChange)
    (run : AgentRun) :
    (change.apply run).leaseExpiresAt =
      if change.finished then none else run.leaseExpiresAt := by
  unfold StatusChange.apply
  split <;> rfl

/-- What the `UPDATE` of `mark_running` matched and wrote. -/
theorem setRunning_eq_ok
    {run after : AgentRun} :
    setRunning run = .ok after ↔
      (run.status = .pending ∨ run.status = .running) ∧
        after = { run with status := .running } := by
  unfold setRunning
  by_cases active : run.status = .pending ∨ run.status = .running
  · simp only [active, if_true, Except.ok.injEq, true_and]
    exact eq_comm
  · simp [active]

/-- What the `UPDATE` of `mark_status` matched and wrote. -/
theorem setStatus_eq_ok
    {previousStatus : AgentRunStatus}
    {change : StatusChange}
    {run after : AgentRun} :
    setStatus previousStatus change run = .ok after ↔
      change.status ∈ runTransitions previousStatus ∧
        run.status = previousStatus ∧
        after = change.apply run := by
  unfold setStatus
  by_cases allowed : change.status ∈ runTransitions previousStatus
  · by_cases same : run.status = previousStatus <;>
      simp [allowed, same, eq_comm]
  · simp [allowed]

end IncidentPilot
