import IncidentPilot.RunJobs
import Mathlib.Algebra.Group.Nat.Defs

/-!
# Retries and the time zone of the session

PostgreSQL returns a `timestamptz` in the time zone of the session, and SQLite
returns no time zone at all.  `retry_claim` replaces the time zone it reads
instead of converting to it, so it compares a wall clock with the current
instant.  This module determines when that is the comparison of two instants.
-/

namespace IncidentPilot

/-- The UTC offset of a datetime that is read back; without one it is UTC. -/
def readOffset (tzinfo : Option Int) : Int :=
  tzinfo.getD 0

/-- The delay `_execute_claim` asks for, in seconds. -/
def workerRetryDelay (attemptCount : Nat) : Nat :=
  min 30 (2 ^ (attemptCount - 1))

/-- A worker never asks for an immediate retry. -/
theorem workerRetryDelay_pos (attemptCount : Nat) :
    0 < workerRetryDelay attemptCount := by
  have power : 0 < 2 ^ (attemptCount - 1) := Nat.two_pow_pos _
  simp only [workerRetryDelay]
  omega

/-- The row is the running claim of one attempt of one worker. -/
structure AgentRun.RunningClaim
    (run : AgentRun)
    (workerId : String)
    (attemptCount : Option Nat) : Prop where
  owner : run.workerId = some workerId
  attempt : attemptMatches run attemptCount = true
  running : run.status = .running

/-- The row after `retry_claim`, which leaves it alone when it rolls back. -/
def rowAfterRetry
    (workerId : String)
    (maxAttempts : Nat)
    (failureCategory : String)
    (delaySeconds : Nat)
    (attemptCount : Option Nat)
    (tzinfo : Option Int)
    (checkedAt writtenAt : Instant)
    (run : AgentRun) : AgentRun :=
  (retryClaim workerId maxAttempts failureCategory delaySeconds
    attemptCount (readOffset tzinfo) checkedAt writtenAt run).getD run

/-- What a retry that acted has made of a row. -/
structure AgentRun.RetriedFrom
    (maxAttempts : Nat)
    (writtenAt : Instant)
    (before after : AgentRun) : Prop where
  unleased : after.Unleased
  settled :
    (after.status = .pending ∧
        after.attemptCount < maxAttempts ∧
        ∃ next, after.nextAttemptAt = some next ∧ writtenAt < next) ∨
      (after.status = .needsHumanIntervention ∧
        maxAttempts ≤ after.attemptCount ∧
        after.finishedAt = some writtenAt)
  sameAttempts : after.attemptCount = before.attemptCount

/--
A retry acts exactly while the lease is held, the lease being compared as an
instant, and otherwise leaves the row alone.
-/
structure RetriesWhileHeld
    (workerId : String)
    (maxAttempts : Nat)
    (failureCategory : String)
    (delaySeconds : Nat)
    (attemptCount : Option Nat)
    (tzinfo : Option Int)
    (checkedAt writtenAt : Instant)
    (run : AgentRun) : Prop where
  changes :
    rowAfterRetry workerId maxAttempts failureCategory delaySeconds
          attemptCount tzinfo checkedAt writtenAt run ≠ run ↔
      run.RunningClaim workerId attemptCount ∧
        sqlAfter run.leaseExpiresAt checkedAt = true
  retried :
    run.RunningClaim workerId attemptCount ∧
        sqlAfter run.leaseExpiresAt checkedAt = true →
      AgentRun.RetriedFrom maxAttempts writtenAt run
        (rowAfterRetry workerId maxAttempts failureCategory delaySeconds
          attemptCount tzinfo checkedAt writtenAt run)

/--
The wall clock of the lease lies on the same side of the current instant as the
lease itself, unless the retry stops before it looks.
-/
def WallClockAgrees
    (workerId : String)
    (attemptCount : Option Nat)
    (tzinfo : Option Int)
    (checkedAt : Instant)
    (run : AgentRun) : Prop :=
  run.RunningClaim workerId attemptCount →
    ∀ expiry,
      run.leaseExpiresAt = some expiry →
      (checkedAt < replaceTzUtc (readOffset tzinfo) expiry ↔
        checkedAt < expiry)

/-- A datetime without a time zone, or in UTC, is its own wall clock. -/
theorem wallClockAgrees_of_utc
    {workerId : String}
    {attemptCount : Option Nat}
    {tzinfo : Option Int}
    {checkedAt : Instant}
    {run : AgentRun}
    (utc : readOffset tzinfo = 0) :
    WallClockAgrees workerId attemptCount tzinfo checkedAt run := by
  intro _ expiry _
  simp [replaceTzUtc, utc]

/-- The values a retry writes are those of a retried row. -/
theorem AgentRun.retried_retriedFrom
    (run : AgentRun)
    (maxAttempts : Nat)
    (failureCategory : String)
    {delaySeconds : Nat}
    (writtenAt : Instant)
    (later : 0 < delaySeconds) :
    AgentRun.RetriedFrom maxAttempts writtenAt run
      (run.retried maxAttempts failureCategory delaySeconds
        writtenAt) := by
  by_cases exhausted : maxAttempts ≤ run.attemptCount
  · have written :
        run.retried maxAttempts failureCategory delaySeconds writtenAt =
          { run with
            workerId := none
            leaseExpiresAt := none
            lastHeartbeatAt := none
            failureCategory := some failureCategory
            status := .needsHumanIntervention
            workflowState := .needsHumanIntervention
            error := some ("job attempts exhausted: " ++ failureCategory)
            finishedAt := some writtenAt } := by
      simp [AgentRun.retried, exhausted]
    rw [written]
    exact ⟨⟨rfl, rfl, rfl⟩, .inr ⟨rfl, exhausted, rfl⟩, rfl⟩
  · have written :
        run.retried maxAttempts failureCategory delaySeconds writtenAt =
          { run with
            workerId := none
            leaseExpiresAt := none
            lastHeartbeatAt := none
            failureCategory := some failureCategory
            status := .pending
            nextAttemptAt := some (writtenAt + delaySeconds)
            error := some ("retry scheduled: " ++ failureCategory) } := by
      simp [AgentRun.retried, exhausted]
    have future : writtenAt < writtenAt + (delaySeconds : Int) :=
      Int.lt_add_of_pos_right writtenAt (Int.natCast_pos.mpr later)
    rw [written]
    exact
      ⟨⟨rfl, rfl, rfl⟩,
        .inl ⟨rfl, Nat.lt_of_not_le exhausted, _, rfl, future⟩, rfl⟩

section

variable
  {workerId failureCategory : String}
  {maxAttempts delaySeconds : Nat}
  {attemptCount : Option Nat}
  {tzinfo : Option Int}
  {checkedAt writtenAt : Instant}
  {run : AgentRun}

/-- A retry past its three guards writes the retried row. -/
theorem rowAfterRetry_of_held
    (claimed : run.RunningClaim workerId attemptCount)
    (held : retryLeaseHeld (readOffset tzinfo) checkedAt run = true) :
    rowAfterRetry workerId maxAttempts failureCategory delaySeconds
        attemptCount tzinfo checkedAt writtenAt run =
      run.retried maxAttempts failureCategory delaySeconds writtenAt := by
  have committed :
      retryClaim workerId maxAttempts failureCategory delaySeconds
          attemptCount (readOffset tzinfo) checkedAt writtenAt run =
        some
          (run.retried maxAttempts failureCategory delaySeconds
            writtenAt) :=
    retryClaim_eq_some.mpr
      ⟨⟨⟨claimed.owner, claimed.attempt⟩, claimed.running, held⟩, rfl⟩
  rw [rowAfterRetry, committed]
  rfl

/-- A retry that one of its guards stops leaves the row alone. -/
theorem rowAfterRetry_of_stopped
    (stopped :
      ¬ (run.RunningClaim workerId attemptCount ∧
        retryLeaseHeld (readOffset tzinfo) checkedAt run = true)) :
    rowAfterRetry workerId maxAttempts failureCategory delaySeconds
        attemptCount tzinfo checkedAt writtenAt run = run := by
  unfold rowAfterRetry
  cases committed :
      retryClaim workerId maxAttempts failureCategory delaySeconds
        attemptCount (readOffset tzinfo) checkedAt writtenAt run with
  | none =>
      rfl
  | some after =>
      obtain ⟨⟨⟨owner, attempt⟩, running, held⟩, -⟩ :=
        retryClaim_eq_some.mp committed
      exact absurd ⟨⟨owner, attempt, running⟩, held⟩ stopped

/-- A retry changes a row exactly when its own three guards let it. -/
theorem rowAfterRetry_ne_iff :
    rowAfterRetry workerId maxAttempts failureCategory delaySeconds
          attemptCount tzinfo checkedAt writtenAt run ≠ run ↔
      run.RunningClaim workerId attemptCount ∧
        retryLeaseHeld (readOffset tzinfo) checkedAt run = true := by
  constructor
  · intro changed
    by_contra stopped
    exact changed (rowAfterRetry_of_stopped stopped)
  · rintro ⟨claimed, held⟩ same
    rw [rowAfterRetry_of_held claimed held] at same
    have owner := congrArg AgentRun.status same
    have notRunning :
        (run.retried maxAttempts failureCategory delaySeconds
          writtenAt).status ≠ .running := by
      unfold AgentRun.retried
      dsimp only
      split <;> simp
    exact notRunning (owner.trans claimed.running)

/-- Where a retry acts exactly while the lease is held, the clocks agree. -/
theorem RetriesWhileHeld.wallClockAgrees
    (whileHeld :
      RetriesWhileHeld workerId maxAttempts failureCategory delaySeconds
        attemptCount tzinfo checkedAt writtenAt run) :
    WallClockAgrees workerId attemptCount tzinfo checkedAt run := by
  intro claimed expiry leased
  have same := rowAfterRetry_ne_iff.symm.trans whileHeld.changes
  simpa [claimed, retryLeaseHeld, leased] using same

/-- Where the clocks agree, a retry acts exactly while the lease is held. -/
theorem WallClockAgrees.retriesWhileHeld
    (agrees : WallClockAgrees workerId attemptCount tzinfo checkedAt run)
    (later : 0 < delaySeconds) :
    RetriesWhileHeld workerId maxAttempts failureCategory delaySeconds
      attemptCount tzinfo checkedAt writtenAt run := by
  have sameGuard :
      (run.RunningClaim workerId attemptCount ∧
          retryLeaseHeld (readOffset tzinfo) checkedAt run = true) ↔
        run.RunningClaim workerId attemptCount ∧
          sqlAfter run.leaseExpiresAt checkedAt = true := by
    refine and_congr_right fun claimed => ?_
    cases leased : run.leaseExpiresAt with
    | none =>
        simp [retryLeaseHeld, leased]
    | some expiry =>
        simpa [retryLeaseHeld, leased] using
          agrees claimed expiry leased
  refine ⟨rowAfterRetry_ne_iff.trans sameGuard, fun guarded => ?_⟩
  obtain ⟨claimed, held⟩ := sameGuard.mpr guarded
  rw [rowAfterRetry_of_held claimed held]
  exact run.retried_retriedFrom _ _ _ later

end

/--
`retry_claim` acts exactly while the lease is held if and only if the wall clock
it reads agrees with the instant it stands for.
-/
theorem retries_while_held_iff
    (workerId : String)
    (maxAttempts : Nat)
    (failureCategory : String)
    (delaySeconds : Nat)
    (attemptCount : Option Nat)
    (tzinfo : Option Int)
    (checkedAt writtenAt : Instant)
    (run : AgentRun)
    (later : 0 < delaySeconds) :
    RetriesWhileHeld workerId maxAttempts failureCategory delaySeconds
        attemptCount tzinfo checkedAt writtenAt run ↔
      WallClockAgrees workerId attemptCount tzinfo checkedAt run := by
  constructor
  · intro whileHeld
    exact whileHeld.wallClockAgrees
  · intro agrees
    exact agrees.retriesWhileHeld later

/-- A run that a worker has claimed for sixty seconds at instant zero. -/
def claimedRun : AgentRun :=
  (newRun "pk" "RUN-1" "INC-1" 0).claimed "worker" 60 0

/-- Read back in its own instant, a lease that is held is given up. -/
theorem retries_while_held_iff_naive :
    RetriesWhileHeld "worker" 3 "RuntimeError" (workerRetryDelay 1)
        (some 1) none 30 31 claimedRun ↔
      WallClockAgrees "worker" (some 1) none 30 claimedRun :=
  retries_while_held_iff "worker" 3 "RuntimeError" (workerRetryDelay 1)
    (some 1) none 30 31 claimedRun (workerRetryDelay_pos 1)

/--
Two hours east of UTC, a retry still acts when the lease has been expired for an
hour and another worker may have been given the run.
-/
theorem expired_lease_is_retried :
    ¬ RetriesWhileHeld "worker" 3 "RuntimeError" (workerRetryDelay 1)
        (some 1) (some 7200) 3660 3660 claimedRun := by
  intro whileHeld
  have changed :
      rowAfterRetry "worker" 3 "RuntimeError" (workerRetryDelay 1)
        (some 1) (some 7200) 3660 3660 claimedRun ≠ claimedRun := by
    decide
  obtain ⟨-, held⟩ := whileHeld.changes.mp changed
  revert held
  decide

/-- Retries act exactly while leases are held only in sessions in UTC. -/
theorem retries_while_held_everywhere_iff
    (tzinfo : Option Int) :
    (∀ workerId maxAttempts failureCategory delaySeconds attemptCount
        checkedAt writtenAt run,
      0 < delaySeconds →
      RetriesWhileHeld workerId maxAttempts failureCategory delaySeconds
        attemptCount tzinfo checkedAt writtenAt run) ↔
      readOffset tzinfo = 0 := by
  constructor
  · intro everywhere
    by_contra shifted
    have agrees
        (checkedAt expiry : Int) :
        checkedAt < expiry + readOffset tzinfo ↔ checkedAt < expiry := by
      let run := { claimedRun with leaseExpiresAt := some expiry }
      have whileHeld :=
        everywhere "worker" 3 "RuntimeError" 1 (some 1) checkedAt
          checkedAt run Nat.one_pos
      exact whileHeld.wallClockAgrees ⟨rfl, rfl, rfl⟩ expiry rfl
    have east := agrees 0 0
    have west := agrees 0 (-readOffset tzinfo)
    omega
  · intro utc workerId maxAttempts failureCategory delaySeconds
      attemptCount checkedAt writtenAt run later
    exact (wallClockAgrees_of_utc utc).retriesWhileHeld later

end IncidentPilot
