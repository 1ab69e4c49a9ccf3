import IncidentPilot.Heartbeat
import IncidentPilot.WorkerTask

/-!
# Who executes a run

One run, and any number of calls of `_execute_claim` for it in any number of
workers, each with the heartbeat it started, in discrete time: an attempt to
renew a lease takes no time, and neither does it take time for an execution to
end once it is cancelled.  The executions write behind their fences, the API
decides, and exhausted leases expire meanwhile.
-/

namespace IncidentPilot

/--
A call of `_execute_claim`, the times of its heartbeat, and whether a status
mark of its claim has taken the run out of `RUNNING`.
-/
structure TimedTask where
  task : ClaimTask
  confirmedAt : Int
  nextBeat : Int
  marked : Bool

/-- The run, and the calls that execute it. -/
structure WorkerFleet where
  now : Int
  store : Store
  tasks : Nat → Option TimedTask

/-- A status mark that takes a run out of `RUNNING`, or finishes it. -/
def FencedWrite.leaves : FencedWrite → Bool
  | .markStatus _ change =>
      decide (change.status ≠ .running) || change.finished
  | _ => false

/-- The transaction ends what the attempt with this number does to the run. -/
def Transaction.marks (attemptCount : Nat) : Transaction → Bool
  | .fenced (some claim) _ write =>
      (claim.attemptCount == attemptCount) && write.leaves
  | _ => false

/-- A call after a transaction on its run. -/
def TimedTask.noting
    (transaction : Transaction)
    (timed : TimedTask) : TimedTask :=
  { timed with
    marked :=
      timed.marked || transaction.marks timed.task.claim.attemptCount }

namespace WorkerFleet

/-- One of the calls is as given. -/
def follow
    (fleet : WorkerFleet)
    (who : Nat)
    (timed : TimedTask) : WorkerFleet :=
  { fleet with
    tasks :=
      fun other => if other = who then some timed else fleet.tasks other }

/-- A transaction has left this store. -/
def wrote
    (fleet : WorkerFleet)
    (transaction : Transaction)
    (store : Store) : WorkerFleet :=
  { fleet with
    store := store
    tasks := fun who => (fleet.tasks who).map (.noting transaction) }

/-- A run just admitted, which nobody executes. -/
def Initial (fleet : WorkerFleet) : Prop :=
  ∃ plane : ControlPlane,
    plane.Initial ∧
      fleet = ⟨plane.clock, plane.store, fun _ => none⟩

end WorkerFleet

/-- The transactions a request to give a claim back may lead to. -/
inductive ClosingRequest.Issues
    (claim : ClaimedRun)
    (now : Int) : ClosingRequest → Transaction → Prop where
  | releaseClaim :
      Issues claim now .releaseClaim (.releaseClaim claim)
  | markForHuman
      (error : String)
      (loaded : AgentRunStatus)
      (utcnow : Instant) :
      Issues claim now (.markForHuman error)
        (.fenced (some claim) now
          (.markStatus loaded
            { status := .needsHumanIntervention
              workflowState := some .needsHumanIntervention
              error := some error
              finished := true
              utcnow := utcnow }))
  | retryClaim
      (failureCategory : String)
      (delaySeconds : Nat)
      (utcOffset : Int)
      (checkedAt writtenAt : Instant) :
      Issues claim now (.retryClaim failureCategory delaySeconds)
        (.retryClaim claim failureCategory delaySeconds utcOffset
          checkedAt writtenAt)

/-- The transactions that the calls do not make for themselves. -/
def Transaction.elsewhere (now : Int) : Transaction → Prop
  | .expireExhaustedRuns current => current = now
  | .decide .. => True
  | .fenced _ current _ => current = now
  | _ => False

/-- What may happen to the fleet. -/
inductive FleetAction where
  | tick
  | claim (who : Nat) (workerId : String)
  | renew (who : Nat)
  | refuse (who : Nat)
  | tolerate (who : Nat)
  | giveUp (who : Nat)
  | task (who : Nat) (event : TaskEvent)
  | transact (transaction : Transaction)

/-- An execution that goes on has a heartbeat, whose next beat is not due. -/
def TimedTask.Waits (now : Int) (timed : TimedTask) : Prop :=
  timed.task.execution.alive = true →
    timed.task.heartbeat = .running ∧ now < timed.nextBeat

/-- One step of the fleet. -/
inductive FleetStep
    (sha256 : String → String)
    (maxAttempts : Nat)
    (settings : JobSettings) :
    WorkerFleet → FleetAction → WorkerFleet → Prop where
  | tick
      {fleet : WorkerFleet}
      (waits :
        ∀ who timed,
          fleet.tasks who = some timed → timed.Waits fleet.now) :
      FleetStep sha256 maxAttempts settings fleet .tick
        { fleet with now := fleet.now + 1 }
  | claim
      {fleet : WorkerFleet}
      {who : Nat}
      {workerId : String}
      {after : Store}
      (free : fleet.tasks who = none)
      (committed :
        (Transaction.claimNextRun workerId fleet.now).commitStore sha256
            (.durable maxAttempts settings.jobLeaseSeconds) fleet.store =
          some after) :
      FleetStep sha256 maxAttempts settings fleet (.claim who workerId)
        ({ fleet with store := after }.follow who
          { task := .start (fleet.store.run.claimOf workerId)
            confirmedAt := fleet.now
            nextBeat := fleet.now + settings.jobHeartbeatSeconds
            marked := false })
  | renewed
      {fleet : WorkerFleet}
      {who : Nat}
      {timed : TimedTask}
      {after : Store}
      (found : fleet.tasks who = some timed)
      (beats : timed.task.heartbeat = .running)
      (due : timed.nextBeat ≤ fleet.now)
      (committed :
        (Transaction.renewLease timed.task.claim fleet.now).commitStore
            sha256 (.durable maxAttempts settings.jobLeaseSeconds)
            fleet.store =
          some after) :
      FleetStep sha256 maxAttempts settings fleet (.renew who)
        ({ fleet with store := after }.follow who
          { timed with
            confirmedAt := fleet.now
            nextBeat := fleet.now + settings.jobHeartbeatSeconds })
  | refused
      {fleet : WorkerFleet}
      {who : Nat}
      {timed : TimedTask}
      (found : fleet.tasks who = some timed)
      (beats : timed.task.heartbeat = .running)
      (due : timed.nextBeat ≤ fleet.now)
      (refused :
        (Transaction.renewLease timed.task.claim fleet.now).commitStore
            sha256 (.durable maxAttempts settings.jobLeaseSeconds)
            fleet.store =
          none) :
      FleetStep sha256 maxAttempts settings fleet (.refuse who)
        (fleet.follow who
          { timed with
            task :=
              { timed.task with heartbeat := .ended (.returned ()) } })
  -- After a transient error the renewal may have been committed all the same.
  | tolerated
      {fleet : WorkerFleet}
      {who : Nat}
      {timed : TimedTask}
      {after : Store}
      (found : fleet.tasks who = some timed)
      (beats : timed.task.heartbeat = .running)
      (due : timed.nextBeat ≤ fleet.now)
      (written :
        after = fleet.store ∨
          (Transaction.renewLease timed.task.claim fleet.now).commitStore
              sha256 (.durable maxAttempts settings.jobLeaseSeconds)
              fleet.store =
            some after)
      (early : fleet.now - timed.confirmedAt < settings.tolerance) :
      FleetStep sha256 maxAttempts settings fleet (.tolerate who)
        ({ fleet with store := after }.follow who
          { timed with
            nextBeat := fleet.now + settings.jobHeartbeatSeconds })
  | gaveUp
      {fleet : WorkerFleet}
      {who : Nat}
      {timed : TimedTask}
      {after : Store}
      (error : TaskException)
      (found : fleet.tasks who = some timed)
      (beats : timed.task.heartbeat = .running)
      (due : timed.nextBeat ≤ fleet.now)
      (written :
        after = fleet.store ∨
          (Transaction.renewLease timed.task.claim fleet.now).commitStore
              sha256 (.durable maxAttempts settings.jobLeaseSeconds)
              fleet.store =
            some after)
      (late : settings.tolerance ≤ fleet.now - timed.confirmedAt) :
      FleetStep sha256 maxAttempts settings fleet (.giveUp who)
        ({ fleet with store := after }.follow who
          { timed with
            task :=
              { timed.task with heartbeat := .ended (.raised error) } })
  | task
      {fleet : WorkerFleet}
      {who : Nat}
      {timed : TimedTask}
      {event : TaskEvent}
      {after : ClaimTask}
      (found : fleet.tasks who = some timed)
      (steps : TaskStep timed.task event after) :
      FleetStep sha256 maxAttempts settings fleet (.task who event)
        (fleet.follow who { timed with task := after })
  | givenBack
      {fleet : WorkerFleet}
      {who : Nat}
      {timed : TimedTask}
      {request : ClosingRequest}
      {answer : TaskEnding Unit}
      {transaction : Transaction}
      {task : ClaimTask}
      {after : Store}
      (found : fleet.tasks who = some timed)
      (steps : TaskStep timed.task (.answers request answer) task)
      (issued :
        request.Issues timed.task.claim fleet.now transaction)
      (committed :
        transaction.commitStore sha256
            (.durable maxAttempts settings.jobLeaseSeconds) fleet.store =
          some after) :
      FleetStep sha256 maxAttempts settings fleet
        (.task who (.answers request answer))
        ((fleet.follow who { timed with task := task }).wrote transaction
          after)
  | transact
      {fleet : WorkerFleet}
      {transaction : Transaction}
      {after : Store}
      (elsewhere : transaction.elsewhere fleet.now)
      (committed :
        transaction.commitStore sha256
            (.durable maxAttempts settings.jobLeaseSeconds) fleet.store =
          some after) :
      FleetStep sha256 maxAttempts settings fleet (.transact transaction)
        (fleet.wrote transaction after)

/-- The fleet from the admission of its run on. -/
def workerFleet
    (sha256 : String → String)
    (maxAttempts : Nat)
    (settings : JobSettings) : Machine WorkerFleet FleetAction where
  initial := WorkerFleet.Initial
  step := FleetStep sha256 maxAttempts settings

/--
Of the executions of a run that are alive, at most one has not yet taken it out
of `RUNNING`.
-/
def ExecutesExclusively
    (sha256 : String → String)
    (maxAttempts : Nat)
    (settings : JobSettings) : Prop :=
  ∀ fleet,
    (workerFleet sha256 maxAttempts settings).Reachable fleet →
    ∀ first second firstTimed secondTimed,
      fleet.tasks first = some firstTimed →
      fleet.tasks second = some secondTimed →
      firstTimed.task.execution.alive = true →
      secondTimed.task.execution.alive = true →
      firstTimed.marked = false →
      secondTimed.marked = false →
      first = second

namespace TimedTask

/-- The lease that was last confirmed is not over while the call executes. -/
def Timely
    (settings : JobSettings)
    (now : Int)
    (timed : TimedTask) : Prop :=
  timed.task.execution.alive = true →
    now < timed.confirmedAt + (settings.jobLeaseSeconds : Int) ∧
      (timed.task.heartbeat = .running →
        now ≤ timed.nextBeat ∧
          timed.nextBeat <
            timed.confirmedAt + (settings.jobLeaseSeconds : Int))

/-- The run is in the hands of the call. -/
structure Holds
    (settings : JobSettings)
    (run : AgentRun)
    (timed : TimedTask) : Prop where
  running : run.status = .running
  owner : run.workerId = some timed.task.claim.workerId
  attempt : run.attemptCount = timed.task.claim.attemptCount
  leased :
    ∃ expiry,
      run.leaseExpiresAt = some expiry ∧
        timed.confirmedAt + (settings.jobLeaseSeconds : Int) ≤ expiry

variable {settings : JobSettings} {run : AgentRun} {timed : TimedTask}

/-- Whoever holds the run holds its lease. -/
theorem Holds.held
    {now : Int}
    (holds : timed.Holds settings run)
    (early :
      now < timed.confirmedAt + (settings.jobLeaseSeconds : Int)) :
    sqlAfter run.leaseExpiresAt now = true := by
  obtain ⟨expiry, leased, later⟩ := holds.leased
  rw [leased, sqlAfter_some, decide_eq_true_eq]
  exact Int.lt_of_lt_of_le early later

/-- A run that changes elsewhere stays in the hands of the call. -/
theorem Holds.unchanged
    {after : AgentRun}
    (holds : timed.Holds settings run)
    (status : after.status = run.status)
    (owner : after.workerId = run.workerId)
    (attempt : after.attemptCount = run.attemptCount)
    (lease : after.leaseExpiresAt = run.leaseExpiresAt) :
    timed.Holds settings after where
  running := status.trans holds.running
  owner := owner.trans holds.owner
  attempt := attempt.trans holds.attempt
  leased := by
    rw [lease]
    exact holds.leased

/-- A status mark that neither leaves `RUNNING` nor finishes keeps the lease. -/
theorem Holds.applied
    {previous : AgentRunStatus}
    {change : StatusChange}
    (holds : timed.Holds settings run)
    (stays : (FencedWrite.markStatus previous change).leaves = false) :
    timed.Holds settings (change.apply run) := by
  simp only [FencedWrite.leaves, Bool.or_eq_false_iff,
    decide_eq_false_iff_not, Decidable.not_not] at stays
  obtain ⟨running, unfinished⟩ := stays
  have shape :
      (change.apply run).status = change.status ∧
        (change.apply run).workerId = run.workerId ∧
        (change.apply run).attemptCount = run.attemptCount ∧
        (change.apply run).leaseExpiresAt = run.leaseExpiresAt := by
    simp [StatusChange.apply, unfinished]
  exact
    holds.unchanged ((shape.1.trans running).trans holds.running.symm)
      shape.2.1 shape.2.2.1 shape.2.2.2

/-- A fenced write keeps the run in the hands of the call it is for. -/
theorem Holds.fenced
    {store after : Store}
    {write : FencedWrite}
    (holds : timed.Holds settings store.run)
    (stays : write.leaves = false)
    (applied : write.apply store = .ok after) :
    timed.Holds settings after.run := by
  cases FencedWrite.applies_of_apply applied with
  | markRunning active =>
      exact holds.unchanged holds.running.symm rfl rfl rfl
  | markStatus allowed same =>
      exact holds.applied stays
  | _ =>
      exact holds.unchanged rfl rfl rfl rfl

end TimedTask

/-- The transaction gives back the attempt with this number. -/
def Transaction.GivesBack (attemptCount : Nat) : Transaction → Prop
  | .releaseClaim claim => claim.attemptCount = attemptCount
  | .retryClaim claim .. => claim.attemptCount = attemptCount
  | _ => False

/-- The clock a transaction compares instants with is right. -/
def Transaction.ReadAt (now : Int) (transaction : Transaction) : Prop :=
  ∀ current, transaction.databaseNow = some current → current = now

/--
While the lease last confirmed is not over, no transaction takes the run from
the call that holds it: it could only be claimed or expire later, and whatever
is written for it is written by that call.
-/
theorem TimedTask.Holds.kept
    {sha256 : String → String}
    {maxAttempts : Nat}
    {settings : JobSettings}
    {timed : TimedTask}
    {now : Int}
    {store after : Store}
    {transaction : Transaction}
    (holds : timed.Holds settings store.run)
    (early :
      now < timed.confirmedAt + (settings.jobLeaseSeconds : Int))
    (past : timed.confirmedAt ≤ now)
    (readAt : transaction.ReadAt now)
    (kept :
      ¬ transaction.GivesBack timed.task.claim.attemptCount)
    (unmarked :
      transaction.marks timed.task.claim.attemptCount = false)
    (committed :
      transaction.commitStore sha256
          (.durable maxAttempts settings.jobLeaseSeconds) store =
        some after) :
    timed.Holds settings after.run := by
  have held := holds.held early
  cases Transaction.commits_of_commitStore committed with
  | @claimNextRun workerId current claimable =>
      rw [readAt current rfl] at claimable
      exact absurd claimable (not_claimable_of_held holds.running held)
  | @renewLease claim current sameRun running owner leased attempt =>
      refine ⟨holds.running, holds.owner, holds.attempt, _, rfl, ?_⟩
      rw [readAt current rfl]
      exact Int.add_le_add_right past _
  | retryClaim sameRun running owner leased attempt =>
      exact absurd (attempt.symm.trans holds.attempt) kept
  | releaseClaim sameRun owner attempt =>
      exact absurd (attempt.symm.trans holds.attempt) kept
  | @expireExhaustedRuns current exhausted =>
      obtain ⟨running, expired, -⟩ := exhausted
      rw [readAt current rfl] at expired
      obtain ⟨expiry, leased, -⟩ := holds.leased
      simp only [leased, sqlAfter_some, sqlAtMost_some,
        decide_eq_true_eq] at held expired
      exact absurd held (Int.not_lt.mpr expired)
  | decide chosen waiting inserted =>
      rw [holds.running] at waiting
      cases waiting
  | @fenced currentClaim current write after underClaim passed applied =>
      cases currentClaim with
      | none =>
          cases underClaim rfl
      | some claim =>
          have fenceHolds := fence_some_eq_ok.mp passed
          have attempt :
              claim.attemptCount = timed.task.claim.attemptCount :=
            fenceHolds.2.2.1.symm.trans holds.attempt
          have stays : write.leaves = false := by
            simpa [Transaction.marks, attempt] using unmarked
          exact holds.fenced stays applied

namespace WorkerFleet

/-- What holds of the fleet between any two steps. -/
structure Sound (settings : JobSettings) (fleet : WorkerFleet) : Prop where
  attempts :
    ∀ {who timed},
      fleet.tasks who = some timed →
      timed.task.claim.attemptCount ≤ fleet.store.run.attemptCount
  distinct :
    ∀ {first second firstTimed secondTimed},
      fleet.tasks first = some firstTimed →
      fleet.tasks second = some secondTimed →
      firstTimed.task.claim.attemptCount =
        secondTimed.task.claim.attemptCount →
      first = second
  calls :
    ∀ {who timed}, fleet.tasks who = some timed → timed.task.Sound
  past :
    ∀ {who timed},
      fleet.tasks who = some timed → timed.confirmedAt ≤ fleet.now
  timely :
    ∀ {who timed},
      fleet.tasks who = some timed → timed.Timely settings fleet.now
  holds :
    ∀ {who timed},
      fleet.tasks who = some timed →
      timed.task.execution.alive = true →
      timed.marked = false →
      timed.Holds settings fleet.store.run

variable {settings : JobSettings} {fleet : WorkerFleet}

/-- One of the calls goes on, and the run stays in the hands of the others. -/
theorem Sound.follow
    {who : Nat}
    {old new : TimedTask}
    {store : Store}
    (sound : fleet.Sound settings)
    (found : fleet.tasks who = some old)
    (sameClaim : new.task.claim = old.task.claim)
    (sameAttempt :
      store.run.attemptCount = fleet.store.run.attemptCount)
    (call : new.task.Sound)
    (past : new.confirmedAt ≤ fleet.now)
    (timely : new.Timely settings fleet.now)
    (holds :
      new.task.execution.alive = true →
      new.marked = false →
      new.Holds settings store.run)
    (others :
      ∀ {other timed},
        fleet.tasks other = some timed →
        timed.Holds settings fleet.store.run →
        timed.Holds settings store.run) :
    ({ fleet with store := store }.follow who new).Sound settings := by
  have caseOf :
      ∀ {other timed},
        ({ fleet with store := store }.follow who new).tasks other =
            some timed →
          other = who ∧ timed = new ∨
            other ≠ who ∧ fleet.tasks other = some timed := by
    intro other timed is
    by_cases same : other = who
    · simp only [WorkerFleet.follow, if_pos same,
        Option.some.injEq] at is
      exact .inl ⟨same, is.symm⟩
    · simp only [WorkerFleet.follow, if_neg same] at is
      exact .inr ⟨same, is⟩
  have attemptOf :
      ∀ {other timed},
        ({ fleet with store := store }.follow who new).tasks other =
            some timed →
          ∃ known,
            fleet.tasks other = some known ∧
              known.task.claim = timed.task.claim := by
    intro other timed is
    rcases caseOf is with ⟨rfl, rfl⟩ | ⟨-, known⟩
    · exact ⟨old, found, sameClaim.symm⟩
    · exact ⟨timed, known, rfl⟩
  refine
    { attempts := ?_
      distinct := ?_
      calls := ?_
      past := ?_
      timely := ?_
      holds := ?_ }
  · intro other timed is
    obtain ⟨known, isKnown, same⟩ := attemptOf is
    rw [← same]
    exact sameAttempt ▸ sound.attempts isKnown
  · intro first second firstTimed secondTimed isFirst isSecond same
    obtain ⟨knownFirst, first, firstClaim⟩ := attemptOf isFirst
    obtain ⟨knownSecond, second, secondClaim⟩ := attemptOf isSecond
    refine sound.distinct first second ?_
    rw [firstClaim, secondClaim]
    exact same
  · intro other timed is
    rcases caseOf is with ⟨rfl, rfl⟩ | ⟨-, known⟩
    · exact call
    · exact sound.calls known
  · intro other timed is
    rcases caseOf is with ⟨rfl, rfl⟩ | ⟨-, known⟩
    · exact past
    · exact sound.past known
  · intro other timed is
    rcases caseOf is with ⟨rfl, rfl⟩ | ⟨-, known⟩
    · exact timely
    · exact sound.timely known
  · intro other timed is alive unmarked
    rcases caseOf is with ⟨rfl, rfl⟩ | ⟨-, known⟩
    · exact holds alive unmarked
    · exact others known (sound.holds known alive unmarked)

/-- Time passes only while every execution waits for its heartbeat. -/
theorem Sound.tick
    (sound : fleet.Sound settings)
    (waits :
      ∀ who timed,
        fleet.tasks who = some timed → timed.Waits fleet.now) :
    ({ fleet with now := fleet.now + 1 } : WorkerFleet).Sound
      settings where
  attempts := sound.attempts
  distinct := sound.distinct
  calls := sound.calls
  past := by
    intro who timed found
    have earlier := sound.past found
    change timed.confirmedAt ≤ fleet.now + 1
    omega
  timely := by
    intro who timed found alive
    obtain ⟨beats, early⟩ := waits who timed found alive
    have next := ((sound.timely found alive).2 beats).2
    refine ⟨by simp only; omega, ?_⟩
    intro stillBeats
    exact ⟨by simp only; omega, next⟩
  holds := sound.holds

/-- Whoever has not left the run keeps it from being claimed. -/
theorem Sound.idle_of_claimable
    {maxAttempts : Nat}
    {who : Nat}
    {timed : TimedTask}
    (sound : fleet.Sound settings)
    (claimable : Claimable maxAttempts fleet.now fleet.store.run)
    (found : fleet.tasks who = some timed)
    (alive : timed.task.execution.alive = true) :
    timed.marked = true := by
  by_contra unmarked
  have holds :=
    sound.holds found alive (Bool.eq_false_iff.mpr unmarked)
  have held := holds.held (sound.timely found alive).1
  exact not_claimable_of_held holds.running held claimable

/-- A claim that is handed out becomes a call that holds the run. -/
theorem Sound.claim
    {maxAttempts : Nat}
    {who : Nat}
    {workerId : String}
    (sound : fleet.Sound settings)
    (shorter : settings.jobHeartbeatSeconds < settings.jobLeaseSeconds)
    (claimable : Claimable maxAttempts fleet.now fleet.store.run) :
    ({ fleet with
        store :=
          fleet.store.withRun
            (fleet.store.run.claimed workerId settings.jobLeaseSeconds
              fleet.now) }.follow who
      { task := .start (fleet.store.run.claimOf workerId)
        confirmedAt := fleet.now
        nextBeat := fleet.now + settings.jobHeartbeatSeconds
        marked := false }).Sound settings := by
  generalize made :
    ({ task := .start (fleet.store.run.claimOf workerId)
       confirmedAt := fleet.now
       nextBeat := fleet.now + settings.jobHeartbeatSeconds
       marked := false } : TimedTask) = new
  have caseOf :
      ∀ {other timed},
        ({ fleet with
            store :=
              fleet.store.withRun
                (fleet.store.run.claimed workerId
                  settings.jobLeaseSeconds fleet.now) }.follow who
          new).tasks other = some timed →
        other = who ∧ timed = new ∨ fleet.tasks other = some timed := by
    intro other timed is
    by_cases same : other = who
    · simp only [WorkerFleet.follow, if_pos same,
        Option.some.injEq] at is
      exact .inl ⟨same, is.symm⟩
    · simp only [WorkerFleet.follow, if_neg same] at is
      exact .inr is
  have newAttempt :
      new.task.claim.attemptCount =
        fleet.store.run.attemptCount + 1 := by
    rw [← made]
    rfl
  refine
    { attempts := ?_
      distinct := ?_
      calls := ?_
      past := ?_
      timely := ?_
      holds := ?_ }
  · intro other timed is
    rcases caseOf is with ⟨rfl, rfl⟩ | known
    · exact Nat.le_of_eq newAttempt
    · exact Nat.le_succ_of_le (sound.attempts known)
  · intro first second firstTimed secondTimed isFirst isSecond same
    rcases caseOf isFirst with ⟨rfl, rfl⟩ | firstKnown
    · rcases caseOf isSecond with ⟨rfl, rfl⟩ | secondKnown
      · rfl
      · have within := sound.attempts secondKnown
        omega
    · rcases caseOf isSecond with ⟨rfl, rfl⟩ | secondKnown
      · have within := sound.attempts firstKnown
        omega
      · exact sound.distinct firstKnown secondKnown same
  · intro other timed is
    rcases caseOf is with ⟨rfl, rfl⟩ | known
    · rw [← made]
      exact ClaimTask.start_sound _
    · exact sound.calls known
  · intro other timed is
    rcases caseOf is with ⟨rfl, rfl⟩ | known
    · rw [← made]
      exact Int.le_refl _
    · exact sound.past known
  · intro other timed is
    rcases caseOf is with ⟨rfl, rfl⟩ | known
    · rw [← made]
      intro alive
      have positive := settings.leaseBounds.1
      refine ⟨by simp only [WorkerFleet.follow]; omega, ?_⟩
      intro beats
      simp only [WorkerFleet.follow]
      omega
    · exact sound.timely known
  · intro other timed is alive unmarked
    rcases caseOf is with ⟨rfl, rfl⟩ | known
    · rw [← made]
      exact ⟨rfl, rfl, rfl, _, rfl, Int.le_refl _⟩
    · have marked := sound.idle_of_claimable claimable known alive
      rw [marked] at unmarked
      cases unmarked

/-- A renewal keeps the run in the hands of whoever holds it. -/
theorem Sound.renewal
    {sha256 : String → String}
    {maxAttempts : Nat}
    {claim : ClaimedRun}
    {after : Store}
    {who : Nat}
    {timed : TimedTask}
    (sound : fleet.Sound settings)
    (committed :
      (Transaction.renewLease claim fleet.now).commitStore sha256
          (.durable maxAttempts settings.jobLeaseSeconds) fleet.store =
        some after)
    (found : fleet.tasks who = some timed)
    (holds : timed.Holds settings fleet.store.run) :
    timed.Holds settings after.run := by
  cases Transaction.commits_of_commitStore committed with
  | renewLease sameRun running owner leased attempt =>
      exact
        ⟨holds.running, holds.owner, holds.attempt, _, rfl,
          Int.add_le_add_right (sound.past found) _⟩

/-- What a renewal that may have been committed keeps. -/
theorem Sound.maybeRenewed
    {sha256 : String → String}
    {maxAttempts : Nat}
    {claim : ClaimedRun}
    {after : Store}
    (sound : fleet.Sound settings)
    (written :
      after = fleet.store ∨
        (Transaction.renewLease claim fleet.now).commitStore sha256
            (.durable maxAttempts settings.jobLeaseSeconds)
            fleet.store =
          some after) :
    after.run.attemptCount = fleet.store.run.attemptCount ∧
      ∀ {who timed},
        fleet.tasks who = some timed →
        timed.Holds settings fleet.store.run →
        timed.Holds settings after.run := by
  rcases written with rfl | committed
  · exact ⟨rfl, fun _ holds => holds⟩
  · refine ⟨?_, fun found holds => sound.renewal committed found holds⟩
    exact (Transaction.commitStore_sameAttempt rfl committed).attemptCount

/-- A call goes on by itself. -/
theorem Sound.task
    {who : Nat}
    {timed : TimedTask}
    {event : TaskEvent}
    {after : ClaimTask}
    (sound : fleet.Sound settings)
    (found : fleet.tasks who = some timed)
    (steps : TaskStep timed.task event after) :
    (fleet.follow who { timed with task := after }).Sound settings := by
  obtain ⟨sameClaim, beatsBefore⟩ := ClaimTask.keeps_of_step steps
  have wasAlive := ClaimTask.execution_was_alive steps
  have past := sound.past found
  refine
    sound.follow found sameClaim rfl ((sound.calls found).step steps)
      past ?_ ?_ (fun _ holds => holds)
  · intro alive
    obtain ⟨early, next⟩ := sound.timely found (wasAlive alive)
    exact ⟨early, fun beats => next (beatsBefore beats)⟩
  · intro alive unmarked
    have holds := sound.holds found (wasAlive alive) unmarked
    refine ⟨holds.running, ?_, ?_, holds.leased⟩
    · rw [sameClaim]
      exact holds.owner
    · rw [sameClaim]
      exact holds.attempt

/-- A heartbeat that ends leaves the run in the hands of its call. -/
theorem Sound.heartbeatEnds
    {who : Nat}
    {timed : TimedTask}
    {after : Store}
    (ending : TaskEnding Unit)
    (sound : fleet.Sound settings)
    (found : fleet.tasks who = some timed)
    (beats : timed.task.heartbeat = .running)
    (sameAttempt :
      after.run.attemptCount = fleet.store.run.attemptCount)
    (others :
      ∀ {other known},
        fleet.tasks other = some known →
        known.Holds settings fleet.store.run →
        known.Holds settings after.run) :
    ({ fleet with store := after }.follow who
      { timed with
        task :=
          { timed.task with heartbeat := .ended ending } }).Sound
      settings := by
  have steps :
      TaskStep timed.task (.heartbeatEnds ending)
        { timed.task with heartbeat := .ended ending } :=
    .heartbeatEnds ending (by rw [beats]; rfl)
  have past := sound.past found
  refine
    sound.follow found rfl sameAttempt ((sound.calls found).step steps)
      past ?_ ?_ others
  · intro alive
    refine ⟨(sound.timely found alive).1, ?_⟩
    intro stillBeats
    cases stillBeats
  · intro alive unmarked
    have holds := others found (sound.holds found alive unmarked)
    exact ⟨holds.running, holds.owner, holds.attempt, holds.leased⟩

/-- A transaction that gives back no claim of an execution keeps all. -/
theorem Sound.wrote
    {sha256 : String → String}
    {maxAttempts : Nat}
    {transaction : Transaction}
    {after : Store}
    (sound : fleet.Sound settings)
    (readAt : transaction.ReadAt fleet.now)
    (grantsNone : transaction.grants fleet.store = none)
    (kept :
      ∀ {who timed},
        fleet.tasks who = some timed →
        timed.task.execution.alive = true →
        ¬ transaction.GivesBack timed.task.claim.attemptCount)
    (committed :
      transaction.commitStore sha256
          (.durable maxAttempts settings.jobLeaseSeconds) fleet.store =
        some after) :
    (fleet.wrote transaction after).Sound settings := by
  have noted :
      ∀ {who timed},
        (fleet.wrote transaction after).tasks who = some timed →
          ∃ known,
            fleet.tasks who = some known ∧
              timed = known.noting transaction := by
    intro who timed is
    obtain ⟨known, found, same⟩ := Option.map_eq_some_iff.mp is
    exact ⟨known, found, same.symm⟩
  have sameAttempt :
      after.run.attemptCount = fleet.store.run.attemptCount :=
    (Transaction.commitStore_sameAttempt grantsNone
      committed).attemptCount
  refine
    { attempts := ?_
      distinct := ?_
      calls := ?_
      past := ?_
      timely := ?_
      holds := ?_ }
  · intro who timed is
    obtain ⟨known, found, rfl⟩ := noted is
    have within := sound.attempts found
    exact Nat.le_trans within (Nat.le_of_eq sameAttempt.symm)
  · intro first second firstTimed secondTimed isFirst isSecond same
    obtain ⟨firstKnown, firstFound, rfl⟩ := noted isFirst
    obtain ⟨secondKnown, secondFound, rfl⟩ := noted isSecond
    exact sound.distinct firstFound secondFound same
  · intro who timed is
    obtain ⟨known, found, rfl⟩ := noted is
    have before := sound.calls found
    exact before
  · intro who timed is
    obtain ⟨known, found, rfl⟩ := noted is
    have before := sound.past found
    exact before
  · intro who timed is
    obtain ⟨known, found, rfl⟩ := noted is
    have before := sound.timely found
    exact before
  · intro who timed is alive unmarked
    obtain ⟨known, found, rfl⟩ := noted is
    obtain ⟨wasUnmarked, notMarks⟩ :=
      (Bool.or_eq_false_iff (x := known.marked)).mp unmarked
    have holds :=
      (sound.holds found alive wasUnmarked).kept
        (sound.timely found alive).1 (sound.past found) readAt
        (kept found alive) notMarks committed
    exact ⟨holds.running, holds.owner, holds.attempt, holds.leased⟩

/-- What a closed call issues is read at its time, and grants no claim. -/
theorem issues_reads
    {claim : ClaimedRun}
    {request : ClosingRequest}
    {transaction : Transaction}
    (issued : request.Issues claim fleet.now transaction) :
    transaction.ReadAt fleet.now ∧
      transaction.grants fleet.store = none ∧
      ∀ attemptCount,
        transaction.GivesBack attemptCount →
        claim.attemptCount = attemptCount := by
  cases issued with
  | releaseClaim =>
      exact ⟨by simp [Transaction.ReadAt, Transaction.databaseNow],
        rfl, fun _ gives => gives⟩
  | markForHuman error loaded utcnow =>
      refine ⟨?_, rfl, fun _ gives => gives.elim⟩
      intro current reads
      cases reads
      rfl
  | retryClaim failureCategory delaySeconds utcOffset checkedAt
      writtenAt =>
      exact ⟨by simp [Transaction.ReadAt, Transaction.databaseNow],
        rfl, fun _ gives => gives⟩

/-- What is written elsewhere is read at its time, and gives back no claim. -/
theorem elsewhere_reads
    {transaction : Transaction}
    (elsewhere : transaction.elsewhere fleet.now) :
    transaction.ReadAt fleet.now ∧
      transaction.grants fleet.store = none ∧
      ∀ attemptCount, ¬ transaction.GivesBack attemptCount := by
  cases transaction with
  | expireExhaustedRuns current =>
      refine ⟨?_, rfl, fun _ gives => gives⟩
      intro read reads
      cases reads
      exact elsewhere
  | decide loadedResult request updatedAt decidedAt =>
      exact ⟨by simp [Transaction.ReadAt, Transaction.databaseNow],
        rfl, fun _ gives => gives⟩
  | fenced currentClaim current write =>
      refine ⟨?_, rfl, fun _ gives => gives⟩
      intro read reads
      cases reads
      exact elsewhere
  | claimNextRun workerId current => exact elsewhere.elim
  | renewLease claim current => exact elsewhere.elim
  | retryClaim claim failureCategory delaySeconds utcOffset checkedAt
      writtenAt =>
      exact elsewhere.elim
  | releaseClaim claim => exact elsewhere.elim

/-- Every step keeps the fleet sound, if heartbeats are shorter than leases. -/
theorem Sound.step
    {sha256 : String → String}
    {maxAttempts : Nat}
    {action : FleetAction}
    {after : WorkerFleet}
    (sound : fleet.Sound settings)
    (shorter : settings.jobHeartbeatSeconds < settings.jobLeaseSeconds)
    (steps : FleetStep sha256 maxAttempts settings fleet action after) :
    after.Sound settings := by
  cases steps with
  | tick waits => exact sound.tick waits
  | claim free committed =>
      cases Transaction.commits_of_commitStore committed with
      | claimNextRun claimable =>
          exact sound.claim shorter claimable
  | @renewed who timed after found beats due committed =>
      obtain ⟨sameAttempt, others⟩ := sound.maybeRenewed (.inr committed)
      have call := sound.calls found
      refine
        sound.follow found rfl sameAttempt call (Int.le_refl _) ?_ ?_
          others
      · intro alive
        have positive := settings.leaseBounds.1
        refine ⟨by simp only; omega, ?_⟩
        intro stillBeats
        simp only
        omega
      · intro alive unmarked
        cases Transaction.commits_of_commitStore committed with
        | renewLease sameRun running owner leased attempt =>
            exact ⟨running, owner, attempt, _, rfl, Int.le_refl _⟩
  | refused found beats due refused =>
      exact
        sound.heartbeatEnds (.returned ()) found beats rfl
          (fun _ holds => holds)
  | @tolerated who timed after found beats due written early =>
      obtain ⟨sameAttempt, others⟩ := sound.maybeRenewed written
      have call := sound.calls found
      have past := sound.past found
      refine
        sound.follow found rfl sameAttempt call past ?_ ?_ others
      · intro alive
        refine ⟨(sound.timely found alive).1, ?_⟩
        intro stillBeats
        unfold JobSettings.tolerance at early
        simp only
        omega
      · intro alive unmarked
        have holds := others found (sound.holds found alive unmarked)
        exact ⟨holds.running, holds.owner, holds.attempt, holds.leased⟩
  | gaveUp error found beats due written late =>
      obtain ⟨sameAttempt, others⟩ := sound.maybeRenewed written
      exact
        sound.heartbeatEnds (.raised error) found beats sameAttempt others
  | task found steps => exact sound.task found steps
  | @givenBack who timed request answer transaction task after found steps
      issued committed =>
      obtain ⟨readAt, grantsNone, attempt⟩ := issues_reads issued
      have followed := sound.task found steps
      refine followed.wrote readAt grantsNone ?_ committed
      intro other known isKnown alive gives
      have sameClaim := (ClaimTask.keeps_of_step steps).1
      have sameAttempt :
          known.task.claim.attemptCount = task.claim.attemptCount := by
        rw [sameClaim]
        exact (attempt _ gives).symm
      have isOwn :
          (fleet.follow who { timed with task := task }).tasks who =
            some { timed with task := task } :=
        if_pos rfl
      have same : other = who :=
        followed.distinct isKnown isOwn sameAttempt
      subst same
      rw [isOwn] at isKnown
      cases isKnown
      have isOver : timed.task.execution.alive = false := by
        cases steps with
        | answers answer asking =>
            exact (sound.calls found).over_of_request asking
      rw [ClaimTask.execution_was_alive steps alive] at isOver
      cases isOver
  | transact elsewhere committed =>
      obtain ⟨readAt, grantsNone, never⟩ := elsewhere_reads elsewhere
      exact
        sound.wrote readAt grantsNone (fun _ _ => never _) committed

/-- The fleet is sound wherever it gets. -/
theorem sound_of_reachable
    {sha256 : String → String}
    {maxAttempts : Nat}
    (shorter : settings.jobHeartbeatSeconds < settings.jobLeaseSeconds)
    (reached :
      (workerFleet sha256 maxAttempts settings).Reachable fleet) :
    fleet.Sound settings := by
  refine reached.invariant ?_ ?_
  · rintro state ⟨plane, initial, rfl⟩
    have nobody (timed : TimedTask) : none ≠ some timed := by simp
    exact
      { attempts := fun found => absurd found (nobody _)
        distinct := fun found => absurd found (nobody _)
        calls := fun found => absurd found (nobody _)
        past := fun found => absurd found (nobody _)
        timely := fun found => absurd found (nobody _)
        holds := fun found => absurd found (nobody _) }
  · intro before action after sound steps
    exact sound.step shorter steps

/-- A run claimed at instant zero, which nobody has gone on with since. -/
def claimedAtZero (settings : JobSettings) (now : Int) : WorkerFleet :=
  { now := now
    store :=
      let store := (ControlPlane.admitted "pk" "RUN-1" "INC-1" 0).store
      store.withRun
        (store.run.claimed "first" settings.jobLeaseSeconds 0)
    tasks :=
      fun who =>
        if who = 0 then
          some
            { task := .start ⟨"INC-1", "RUN-1", "first", 1, false⟩
              confirmedAt := 0
              nextBeat := 0 + settings.jobHeartbeatSeconds
              marked := false }
        else
          none }

/-- Nothing has to happen to it before its first heartbeat. -/
theorem claimedAtZero_reached
    {sha256 : String → String}
    {maxAttempts : Nat}
    (settings : JobSettings)
    (enough : 2 ≤ maxAttempts)
    (seconds : Nat)
    (early : seconds ≤ settings.jobHeartbeatSeconds) :
    (workerFleet sha256 maxAttempts settings).Reachable
      (claimedAtZero settings seconds) := by
  induction seconds with
  | zero =>
      have begins :
          (workerFleet sha256 maxAttempts settings).Reachable
            ⟨0, (ControlPlane.admitted "pk" "RUN-1" "INC-1" 0).store,
              fun _ => none⟩ :=
        .initial ⟨_, ControlPlane.admitted_initial _ _ _ _, rfl⟩
      have claimable :
          Claimable maxAttempts 0
            (ControlPlane.admitted "pk" "RUN-1" "INC-1" 0).store.run :=
        ⟨.inl ⟨rfl, .inl rfl⟩, Nat.lt_of_lt_of_le (by decide) enough⟩
      exact
        begins.step
          (@FleetStep.claim sha256 maxAttempts settings _ 0 "first" _ rfl
            (Transaction.commitStore_eq_some.mpr ⟨claimable, rfl⟩))
  | succ seconds inductionHypothesis =>
      have before := inductionHypothesis (Nat.le_of_succ_le early)
      refine before.step (FleetStep.tick ?_)
      intro who timed found alive
      by_cases first : who = 0
      · simp only [claimedAtZero, if_pos first,
          Option.some.injEq] at found
        subst found
        refine ⟨rfl, ?_⟩
        simp only [claimedAtZero]
        omega
      · simp [claimedAtZero, if_neg first] at found

/-- With a heartbeat no shorter than the lease the run is claimed again. -/
theorem executed_twice
    {sha256 : String → String}
    {maxAttempts : Nat}
    {settings : JobSettings}
    (enough : 2 ≤ maxAttempts)
    (longer : settings.jobLeaseSeconds ≤ settings.jobHeartbeatSeconds) :
    ¬ ExecutesExclusively sha256 maxAttempts settings := by
  intro exclusive
  have lapsed :=
    @claimedAtZero_reached sha256 maxAttempts settings enough
      settings.jobLeaseSeconds longer
  have claimable :
      Claimable maxAttempts (settings.jobLeaseSeconds : Int)
        (claimedAtZero settings
          settings.jobLeaseSeconds).store.run := by
    refine ⟨.inr ⟨rfl, by simp [claimedAtZero, AgentRun.claimed], ?_⟩, ?_⟩
    · simp [claimedAtZero, AgentRun.claimed]
    · exact Nat.lt_of_lt_of_le Nat.one_lt_two enough
  have again :=
    lapsed.step
      (@FleetStep.claim sha256 maxAttempts settings _ 1 "second" _ rfl
        (Transaction.commitStore_eq_some.mpr ⟨claimable, rfl⟩))
  have same : 0 = 1 :=
    exclusive _ again 0 1 _ _ rfl rfl rfl rfl rfl rfl
  cases same

end WorkerFleet

/--
With two attempts or more, no two executions of a run that have not taken it out
of `RUNNING` are alive at one time if and only if the heartbeat's period is
shorter than the lease, which `Settings` does not check.
-/
theorem executes_exclusively_iff
    (sha256 : String → String)
    {maxAttempts : Nat}
    (settings : JobSettings)
    (enough : 2 ≤ maxAttempts) :
    ExecutesExclusively sha256 maxAttempts settings ↔
      settings.jobHeartbeatSeconds < settings.jobLeaseSeconds := by
  constructor
  · intro exclusive
    by_contra longer
    exact WorkerFleet.executed_twice enough (Nat.le_of_not_lt longer)
      exclusive
  · intro shorter fleet reached first second firstTimed secondTimed
      isFirst isSecond firstAlive secondAlive firstUnmarked secondUnmarked
    have sound := WorkerFleet.sound_of_reachable shorter reached
    have firstHolds := sound.holds isFirst firstAlive firstUnmarked
    have secondHolds := sound.holds isSecond secondAlive secondUnmarked
    exact
      sound.distinct isFirst isSecond
        (firstHolds.attempt.symm.trans secondHolds.attempt)

/-- The settings `Settings` has by default. -/
def defaultJobSettings : JobSettings where
  jobLeaseSeconds := 60
  jobHeartbeatSeconds := 15
  leaseBounds := by decide
  heartbeatBounds := by decide

/-- With the defaults a run has one execution at a time. -/
theorem executes_exclusively_iff_default :
    ExecutesExclusively id 3 defaultJobSettings :=
  (executes_exclusively_iff id defaultJobSettings (by decide)).mpr
    (by decide)

end IncidentPilot
