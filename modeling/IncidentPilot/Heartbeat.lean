import IncidentPilot.RunJobs

/-!
# Heartbeats and the lease

`_heartbeat` of `worker.py` in discrete time: an attempt to renew the lease
takes no time, and one is made every `job_heartbeat_seconds`.  The environment
chooses what becomes of each attempt.  A transient error may hide a renewal
that was committed, which could only make the lease of the row later.
-/

namespace IncidentPilot

/-- The settings of `_heartbeat`, within the bounds that `Settings` checks. -/
structure JobSettings where
  jobLeaseSeconds : Nat
  jobHeartbeatSeconds : Nat
  leaseBounds : 10 ≤ jobLeaseSeconds ∧ jobLeaseSeconds ≤ 3600
  heartbeatBounds : 1 ≤ jobHeartbeatSeconds ∧ jobHeartbeatSeconds ≤ 600

/-- `max(0.0, job_lease_seconds - job_heartbeat_seconds)`. -/
def JobSettings.tolerance (settings : JobSettings) : Nat :=
  settings.jobLeaseSeconds - settings.jobHeartbeatSeconds

/-- What becomes of one call of `renew_lease`. -/
inductive RenewalOutcome where
  | confirmed
  | refused
  | transientError
  deriving Repr, DecidableEq

/-- Where `_heartbeat` stands. -/
inductive HeartbeatStatus where
  | beating
  | returned
  | raised
  deriving Repr, DecidableEq

/-- The values `renew_lease` writes. -/
def AgentRun.renewed
    (run : AgentRun)
    (leaseSeconds : Nat)
    (current : Instant) : AgentRun :=
  { run with
    lastHeartbeatAt := some current
    leaseExpiresAt := some (current + leaseSeconds) }

/-- The state of `_heartbeat`, and the row as it was last obtained. -/
structure Heartbeat where
  now : Int
  confirmedAt : Int
  status : HeartbeatStatus
  row : AgentRun
  deriving Repr, DecidableEq

namespace Heartbeat

/-- `_heartbeat` starts when its run has been claimed. -/
def start
    (settings : JobSettings)
    (workerId : String)
    (claimedAt : Instant)
    (run : AgentRun) : Heartbeat where
  now := claimedAt
  confirmedAt := claimedAt
  status := .beating
  row := run.claimed workerId settings.jobLeaseSeconds claimedAt

/-- One round of the loop: it sleeps, and tries to renew the lease. -/
def beat
    (settings : JobSettings)
    (heartbeat : Heartbeat)
    (outcome : RenewalOutcome) : Heartbeat :=
  if heartbeat.status = .beating then
    let now := heartbeat.now + settings.jobHeartbeatSeconds
    match outcome with
    | .confirmed =>
        { now := now
          confirmedAt := now
          status := .beating
          row := heartbeat.row.renewed settings.jobLeaseSeconds now }
    | .refused => { heartbeat with now := now, status := .returned }
    | .transientError =>
        if now - heartbeat.confirmedAt < settings.tolerance then
          { heartbeat with now := now }
        else
          { heartbeat with now := now, status := .raised }
  else
    heartbeat

/-- The state after so many attempts. -/
def after
    (settings : JobSettings)
    (outcomes : Nat → RenewalOutcome)
    (first : Heartbeat) : Nat → Heartbeat
  | 0 => first
  | attempts + 1 =>
      (after settings outcomes first attempts).beat settings
        (outcomes attempts)

end Heartbeat

/--
While renewals are confirmed the lease never lapses, and after the last
confirmation the heartbeat ends while the lease it last obtained still holds, so
that nobody can have claimed the run.
-/
structure StopsBeforeTakeover (settings : JobSettings) : Prop where
  neverLapses :
    ∀ workerId claimedAt run outcomes attempts,
      let heartbeat :=
        (Heartbeat.start settings workerId claimedAt run).after settings
          outcomes attempts
      (∀ attempt < attempts, outcomes attempt = .confirmed) →
      ∀ instant,
        instant ≤ heartbeat.now + settings.jobHeartbeatSeconds →
        sqlAfter heartbeat.row.leaseExpiresAt instant = true
  stops :
    ∀ workerId claimedAt run outcomes attempts,
      let heartbeat :=
        (Heartbeat.start settings workerId claimedAt run).after settings
          outcomes
      (heartbeat attempts).status = .beating →
      (∀ attempt, attempts ≤ attempt → outcomes attempt ≠ .confirmed) →
      ∃ last,
        (heartbeat last).status ≠ .beating ∧
          (heartbeat last).row = (heartbeat attempts).row ∧
          sqlAfter (heartbeat attempts).row.leaseExpiresAt
              (heartbeat last).now = true ∧
          ∀ maxAttempts instant,
            instant ≤ (heartbeat last).now →
            ¬ Claimable maxAttempts instant (heartbeat attempts).row

/-- A lease that outlives an instant outlives the ones before it. -/
theorem sqlAfter_mono
    {column : Option Instant}
    {later earlier : Instant}
    (ordered : earlier ≤ later)
    (held : sqlAfter column later = true) :
    sqlAfter column earlier = true := by
  cases column with
  | none =>
      cases held
  | some expiry =>
      simp only [sqlAfter_some, decide_eq_true_eq] at held ⊢
      exact Int.lt_of_le_of_lt ordered held

/-- A running row whose lease is held cannot be claimed. -/
theorem not_claimable_of_held
    {maxAttempts : Nat}
    {current : Instant}
    {run : AgentRun}
    (running : run.status = .running)
    (held : sqlAfter run.leaseExpiresAt current = true) :
    ¬ Claimable maxAttempts current run := by
  rintro ⟨⟨pending, -⟩ | ⟨-, -, expired⟩, -⟩
  · rw [running] at pending
    cases pending
  · cases leased : run.leaseExpiresAt with
    | none =>
        rw [leased] at held
        cases held
    | some expiry =>
        simp only [leased, sqlAfter_some, sqlAtMost_some,
          decide_eq_true_eq] at held expired
        exact absurd held (Int.not_lt.mpr expired)

namespace Heartbeat

/-- What `_heartbeat` knows of the row, whatever became of its attempts. -/
structure Sound
    (settings : JobSettings)
    (workerId : String)
    (attemptCount : Nat)
    (heartbeat : Heartbeat) : Prop where
  running : heartbeat.row.status = .running
  owner : heartbeat.row.workerId = some workerId
  attempt : heartbeat.row.attemptCount = attemptCount
  leased :
    heartbeat.row.leaseExpiresAt =
      some (heartbeat.confirmedAt + (settings.jobLeaseSeconds : Int))
  past : heartbeat.confirmedAt ≤ heartbeat.now
  early :
    heartbeat.status = .beating →
    heartbeat.now = heartbeat.confirmedAt ∨
      heartbeat.now - heartbeat.confirmedAt < settings.tolerance

variable {settings : JobSettings}

/-- A claimed row is known from the start. -/
theorem start_sound
    (settings : JobSettings)
    (workerId : String)
    (claimedAt : Instant)
    (run : AgentRun) :
    (start settings workerId claimedAt run).Sound settings workerId
      (run.attemptCount + 1) :=
  ⟨rfl, rfl, rfl, rfl, Int.le_refl _, fun _ => .inl rfl⟩

/-- What one attempt does to a heartbeat that has not ended. -/
theorem beat_of_beating
    {heartbeat : Heartbeat}
    (beating : heartbeat.status = .beating)
    (outcome : RenewalOutcome) :
    (heartbeat.beat settings outcome).now =
        heartbeat.now + settings.jobHeartbeatSeconds ∧
      (outcome ≠ .confirmed →
        (heartbeat.beat settings outcome).confirmedAt =
            heartbeat.confirmedAt ∧
          (heartbeat.beat settings outcome).row = heartbeat.row) := by
  cases outcome with
  | confirmed => simp [beat, beating]
  | refused => simp [beat, beating]
  | transientError =>
      simp only [beat, beating, if_true]
      split <;> simp

/-- An ended heartbeat stays as it is. -/
theorem beat_of_ended
    {heartbeat : Heartbeat}
    (ended : heartbeat.status ≠ .beating)
    (outcome : RenewalOutcome) :
    heartbeat.beat settings outcome = heartbeat := by
  simp [beat, ended]

/-- What is known of the row stays known. -/
theorem Sound.beat
    {workerId : String}
    {attemptCount : Nat}
    {heartbeat : Heartbeat}
    (sound : heartbeat.Sound settings workerId attemptCount)
    (outcome : RenewalOutcome) :
    (heartbeat.beat settings outcome).Sound settings workerId
      attemptCount := by
  by_cases beating : heartbeat.status = .beating
  · have later := sound.past
    cases outcome with
    | confirmed =>
        simp only [Heartbeat.beat, beating, if_true]
        exact
          ⟨sound.running, sound.owner, sound.attempt, rfl,
            Int.le_refl _, fun _ => .inl rfl⟩
    | refused =>
        simp only [Heartbeat.beat, beating, if_true]
        exact
          ⟨sound.running, sound.owner, sound.attempt, sound.leased,
            by simp only; omega, nofun⟩
    | transientError =>
        simp only [Heartbeat.beat, beating, if_true]
        split
        · rename_i tolerated
          exact
            ⟨sound.running, sound.owner, sound.attempt, sound.leased,
              by simp only; omega, fun _ => .inr tolerated⟩
        · exact
            ⟨sound.running, sound.owner, sound.attempt, sound.leased,
              by simp only; omega, nofun⟩
  · rw [beat_of_ended beating]
    exact sound

/-- What is known of the row is known after any number of attempts. -/
theorem Sound.after
    {workerId : String}
    {attemptCount : Nat}
    {first : Heartbeat}
    (sound : first.Sound settings workerId attemptCount)
    (outcomes : Nat → RenewalOutcome)
    (attempts : Nat) :
    (first.after settings outcomes attempts).Sound settings workerId
      attemptCount := by
  induction attempts with
  | zero =>
      exact sound
  | succ attempts inductionHypothesis =>
      exact inductionHypothesis.beat (outcomes attempts)

/-- A heartbeat that goes on makes its next attempt while the lease holds. -/
theorem Sound.held_until_next
    {workerId : String}
    {attemptCount : Nat}
    {heartbeat : Heartbeat}
    (sound : heartbeat.Sound settings workerId attemptCount)
    (shorter : settings.jobHeartbeatSeconds < settings.jobLeaseSeconds)
    (beating : heartbeat.status = .beating) :
    sqlAfter heartbeat.row.leaseExpiresAt
      (heartbeat.now + settings.jobHeartbeatSeconds) = true := by
  have early := sound.early beating
  rw [sound.leased, sqlAfter_some, decide_eq_true_eq]
  unfold JobSettings.tolerance at early
  change heartbeat.now + (settings.jobHeartbeatSeconds : Int) <
    heartbeat.confirmedAt + (settings.jobLeaseSeconds : Int)
  omega

/--
A confirmed attempt is what `renew_lease` does to the row: the lease still holds
when it is made.
-/
theorem Sound.confirmed_renews
    {workerId : String}
    {attemptCount : Nat}
    {heartbeat : Heartbeat}
    (sound : heartbeat.Sound settings workerId attemptCount)
    (shorter : settings.jobHeartbeatSeconds < settings.jobLeaseSeconds)
    (beating : heartbeat.status = .beating) :
    renewLease workerId settings.jobLeaseSeconds
        (heartbeat.now + settings.jobHeartbeatSeconds)
        (some attemptCount) heartbeat.row =
      some (heartbeat.beat settings .confirmed).row := by
  have held := sound.held_until_next shorter beating
  refine
    renewLease_eq_some.mpr
      ⟨⟨sound.running, sound.owner, held, ?_⟩, ?_⟩
  · exact (attemptMatches_some _ _).mpr sound.attempt
  · simp [Heartbeat.beat, beating, AgentRun.renewed]

/-- Confirmed attempts keep the heartbeat going. -/
theorem after_beating_of_confirmed
    {first : Heartbeat}
    {outcomes : Nat → RenewalOutcome}
    {attempts : Nat}
    (beating : first.status = .beating)
    (confirmed :
      ∀ attempt < attempts, outcomes attempt = .confirmed) :
    (first.after settings outcomes attempts).status = .beating := by
  induction attempts with
  | zero =>
      exact beating
  | succ attempts inductionHypothesis =>
      have earlier :=
        inductionHypothesis fun attempt before =>
          confirmed attempt (Nat.lt_succ_of_lt before)
      rw [after, confirmed attempts (Nat.lt_succ_self attempts)]
      simp [beat, earlier]

/--
Once no attempt is confirmed any more the heartbeat ends: each attempt brings
the confirmation one period further into the past.
-/
theorem ends_without_confirmation
    {first : Heartbeat}
    {outcomes : Nat → RenewalOutcome}
    {attempts : Nat}
    (fuel : Nat)
    (beating :
      (first.after settings outcomes attempts).status = .beating)
    (unconfirmed :
      ∀ attempt, attempts ≤ attempt → outcomes attempt ≠ .confirmed)
    (enough :
      (first.after settings outcomes attempts).confirmedAt +
          settings.tolerance ≤
        (first.after settings outcomes attempts).now + fuel) :
    ∃ last,
      (first.after settings outcomes last).status = .beating ∧
        (first.after settings outcomes (last + 1)).status ≠ .beating ∧
        (first.after settings outcomes last).row =
          (first.after settings outcomes attempts).row ∧
        (first.after settings outcomes (last + 1)).row =
          (first.after settings outcomes attempts).row := by
  have period := settings.heartbeatBounds.1
  have unanswered := unconfirmed attempts (Nat.le_refl attempts)
  obtain ⟨nextNow, kept⟩ :=
    @beat_of_beating settings _ beating (outcomes attempts)
  obtain ⟨nextConfirmed, nextRow⟩ := kept unanswered
  by_cases ended :
      (first.after settings outcomes (attempts + 1)).status = .beating
  · cases fuel with
    | zero =>
        exfalso
        revert ended
        rw [after]
        cases outcome : outcomes attempts with
        | confirmed => exact absurd outcome unanswered
        | refused => simp [beat, beating]
        | transientError =>
            simp only [beat, beating, if_true]
            split
            · omega
            · nofun
    | succ fuel =>
        obtain ⟨last, going, stops, same, sameAfter⟩ :=
          ends_without_confirmation fuel ended
            (fun attempt later =>
              unconfirmed attempt (Nat.le_of_succ_le later))
            (by rw [after, nextNow, nextConfirmed]; omega)
        exact
          ⟨last, going, stops, same.trans nextRow,
            sameAfter.trans nextRow⟩
  · exact ⟨attempts, beating, ended, rfl, nextRow⟩

end Heartbeat

/--
For every accepted setting, the heartbeat keeps the lease and ends before it can
be taken over if and only if its period is shorter than the lease.
-/
theorem heartbeat_stops_before_takeover_iff
    (settings : JobSettings) :
    StopsBeforeTakeover settings ↔
      settings.jobHeartbeatSeconds < settings.jobLeaseSeconds := by
  constructor
  · rintro ⟨neverLapses, -⟩
    have held :=
      neverLapses "" 0 (newRun "" "" "" 0) (fun _ => .confirmed) 0
        nofun (0 + settings.jobHeartbeatSeconds) (Int.le_refl _)
    simpa [Heartbeat.after, Heartbeat.start, AgentRun.claimed] using held
  · intro shorter
    constructor
    · intro workerId claimedAt run outcomes attempts heartbeat confirmed
        instant before
      have beating : heartbeat.status = .beating :=
        Heartbeat.after_beating_of_confirmed rfl confirmed
      exact
        sqlAfter_mono before
          (((Heartbeat.start_sound settings workerId claimedAt run).after
            outcomes attempts).held_until_next shorter beating)
    · intro workerId claimedAt run outcomes attempts heartbeat beating
        unconfirmed
      have sound :=
        (Heartbeat.start_sound settings workerId claimedAt run).after
          outcomes
      have past := (sound attempts).past
      obtain ⟨last, going, stops, same, sameAfter⟩ :=
        Heartbeat.ends_without_confirmation settings.tolerance beating
          unconfirmed (by omega)
      have held := (sound last).held_until_next shorter going
      have ends :
          (heartbeat (last + 1)).now =
            (heartbeat last).now + settings.jobHeartbeatSeconds :=
        (Heartbeat.beat_of_beating going (outcomes last)).1
      rw [same, ← ends] at held
      refine ⟨last + 1, stops, sameAfter, held, ?_⟩
      intro maxAttempts instant before
      exact
        not_claimable_of_held (sound attempts).running
          (sqlAfter_mono before held)

/-- The shortest lease with the longest period that `Settings` accepts. -/
def lateHeartbeat : JobSettings where
  jobLeaseSeconds := 10
  jobHeartbeatSeconds := 600
  leaseBounds := by decide
  heartbeatBounds := by decide

/-- There the lease lapses before the first attempt to renew it. -/
theorem lease_lapses_before_heartbeat :
    ¬ StopsBeforeTakeover lateHeartbeat := by
  intro stops
  have held :=
    stops.neverLapses "worker" 0 (newRun "pk" "RUN-1" "INC-1" 0)
      (fun _ => .confirmed) 0 nofun 10 (by decide)
  revert held
  decide

end IncidentPilot
