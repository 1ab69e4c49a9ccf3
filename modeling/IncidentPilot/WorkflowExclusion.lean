import IncidentPilot.WorkflowLock

/-!
# One writer of checkpoints

What holds of `workflow_lock` however its users, the server and the network
interleave: a session has one user, a user inside holds the lock of its run
exactly once as long as its session lives, and no connection goes back to the
pool with a lock, where the next user of its session would be let in.
-/

namespace IncidentPilot

/-- The facts that every step of `workflow_lock` keeps. -/
structure LockService.Sound
    (digest : String → List UInt8)
    (service : LockService) : Prop where
  alone :
    ∀ first second left right session,
      service.users first = some left →
      service.users second = some right →
      left.point.session = some session →
      right.point.session = some session →
      first = second
  unpooled :
    ∀ who user session,
      service.users who = some user →
      user.point.session = some session →
      service.pooled session = false
  held :
    ∀ who user session,
      service.users who = some user →
      user.point.granted = some session →
      service.live session = true →
      service.locks (lockKey digest user.runId) = some (session, 1)
  accounted :
    ∀ key session count,
      service.locks key = some (session, count) →
      service.live session = true ∧
        service.pooled session = false ∧
        ∀ who user,
          service.users who = some user →
          user.point.session = some session →
          user.point.granted = some session ∧
            key = lockKey digest user.runId

/-- A lock is granted to the session of its user. -/
theorem LockPoint.session_of_granted
    {point : LockPoint}
    {session : Nat}
    (granted : point.granted = some session) :
    point.session = some session := by
  cases point with
  | tried own acquired =>
      cases acquired with
      | true => exact granted
      | false => cases granted
  | inside own => exact granted
  | unlocking own => exact granted
  | connecting => cases granted
  | trying own => cases granted
  | sleeping own => cases granted
  | unlocked own => cases granted
  | unguarded => cases granted
  | left => cases granted

/-- What a user does without the server changes nothing about its session. -/
theorem LockPoint.Proceeds.same
    {before after : LockPoint}
    (goesOn : before.Proceeds after) :
    after.session = before.session ∧ after.granted = before.granted := by
  cases goesOn with
  | refused => exact ⟨rfl, rfl⟩
  | hears session => exact ⟨rfl, rfl⟩
  | hearsNot session => exact ⟨rfl, rfl⟩
  | wakes session => exact ⟨rfl, rfl⟩
  | worked session => exact ⟨rfl, rfl⟩
  | workedUnguarded => exact ⟨rfl, rfl⟩

/-- Nobody proceeds to work without the lock. -/
theorem LockPoint.Proceeds.guarded
    {before after : LockPoint}
    (goesOn : before.Proceeds after) :
    after ≠ .unguarded := by
  cases goesOn <;> exact LockPoint.noConfusion

namespace LockService

variable {digest : String → List UInt8} {service : LockService}

/-- A user is the one that moved, or another one as it was. -/
theorem user_of_update
    {users : Nat → Option LockUser}
    {who other : Nat}
    {moved user : LockUser}
    (found : Function.update users who (some moved) other = some user) :
    other = who ∧ user = moved ∨
      other ≠ who ∧ users other = some user := by
  by_cases same : other = who
  · subst same
    rw [Function.update_self] at found
    exact .inl ⟨rfl, (Option.some.inj found).symm⟩
  · rw [Function.update_of_ne same] at found
    exact .inr ⟨same, found⟩

namespace Sound

/-- A user whose session was granted nothing has a session without locks. -/
theorem locks_none
    {who session : Nat}
    {user : LockUser}
    (sound : service.Sound digest)
    (found : service.users who = some user)
    (has : user.point.session = some session)
    (ungranted : user.point.granted = none)
    {key : Int}
    {count : Nat} :
    service.locks key ≠ some (session, count) := by
  intro holds
  have accounts := (sound.accounted key session count holds).2.2
  rw [(accounts who user found has).1] at ungranted
  cases ungranted

/-- A user that keeps its session, and what it was granted, breaks nothing. -/
theorem proceeds
    {who : Nat}
    {user : LockUser}
    {point : LockPoint}
    (sound : service.Sound digest)
    (found : service.users who = some user)
    (goesOn : user.point.Proceeds point) :
    (service.goTo who user point).Sound digest := by
  obtain ⟨sameSession, sameGrant⟩ := goesOn.same
  -- Whoever is found after the step was there before with the same session.
  have before :
      ∀ other later,
        (service.goTo who user point).users other = some later →
        ∃ earlier,
          service.users other = some earlier ∧
            earlier.runId = later.runId ∧
            earlier.point.session = later.point.session ∧
            earlier.point.granted = later.point.granted := by
    intro other later isLater
    rcases user_of_update isLater with ⟨rfl, rfl⟩ | ⟨-, still⟩
    · exact ⟨user, found, rfl, sameSession.symm, sameGrant.symm⟩
    · exact ⟨later, still, rfl, rfl, rfl⟩
  refine ⟨?_, ?_, ?_, ?_⟩
  · intro first second left right session isLeft isRight hasLeft hasRight
    obtain ⟨earlierLeft, foundLeft, -, leftSession, -⟩ :=
      before first left isLeft
    obtain ⟨earlierRight, foundRight, -, rightSession, -⟩ :=
      before second right isRight
    exact
      sound.alone first second _ _ session foundLeft foundRight
        (leftSession.trans hasLeft) (rightSession.trans hasRight)
  · intro other later session isLater has
    obtain ⟨earlier, foundEarlier, -, itsSession, -⟩ :=
      before other later isLater
    exact
      sound.unpooled other earlier session foundEarlier
        (itsSession.trans has)
  · intro other later session isLater granted live
    obtain ⟨earlier, foundEarlier, sameRun, -, itsGrant⟩ :=
      before other later isLater
    rw [← sameRun]
    exact
      sound.held other earlier session foundEarlier
        (itsGrant.trans granted) live
  · intro key session count holds
    obtain ⟨live, unpooled, accounts⟩ :=
      sound.accounted key session count holds
    refine ⟨live, unpooled, ?_⟩
    intro other later isLater has
    obtain ⟨earlier, foundEarlier, sameRun, itsSession, itsGrant⟩ :=
      before other later isLater
    obtain ⟨granted, isKey⟩ :=
      accounts other earlier foundEarlier (itsSession.trans has)
    exact ⟨itsGrant.symm.trans granted, sameRun ▸ isKey⟩

/-- A user that leaves may give back a connection that holds no lock. -/
theorem leaves
    {who : Nat}
    {user : LockUser}
    {pooled : Nat → Bool}
    (sound : service.Sound digest)
    (found : service.users who = some user)
    (gives :
      ∀ session,
        pooled session = true →
        service.pooled session = true ∨
          user.point.session = some session ∧ user.point.granted = none) :
    { service.goTo who user .left with pooled := pooled }.Sound
      digest := by
  have before :
      ∀ other later session,
        (service.goTo who user .left).users other = some later →
        later.point.session = some session →
        other ≠ who ∧ service.users other = some later := by
    intro other later session isLater has
    rcases user_of_update isLater with ⟨rfl, rfl⟩ | still
    · cases has
    · exact still
  refine ⟨?_, ?_, ?_, ?_⟩
  · intro first second left right session isLeft isRight hasLeft hasRight
    exact
      sound.alone first second left right session
        (before first left session isLeft hasLeft).2
        (before second right session isRight hasRight).2 hasLeft hasRight
  · intro other later session isLater has
    obtain ⟨another, still⟩ := before other later session isLater has
    by_contra isPooled
    rcases gives session (eq_true_of_ne_false isPooled) with
      already | ⟨own, -⟩
    · rw [sound.unpooled other later session still has] at already
      cases already
    · exact another (sound.alone _ _ _ _ session still found has own)
  · intro other later session isLater granted live
    have has := LockPoint.session_of_granted granted
    exact
      sound.held other later session
        (before other later session isLater has).2 granted live
  · intro key session count holds
    obtain ⟨live, unpooled, accounts⟩ :=
      sound.accounted key session count holds
    refine ⟨live, ?_, ?_⟩
    · by_contra isPooled
      rcases gives session (eq_true_of_ne_false isPooled) with
        already | ⟨own, ungranted⟩
      · rw [unpooled] at already
        cases already
      · exact sound.locks_none found own ungranted holds
    · intro other later isLater has
      exact
        accounts other later (before other later session isLater has).2 has

/-- A user that arrives has no session. -/
theorem arrives
    {who : Nat}
    {user : LockUser}
    (sound : service.Sound digest)
    (sessionless : user.point.session = none) :
    { service with
        users := Function.update service.users who (some user) }.Sound
      digest := by
  have before :
      ∀ other later session,
        Function.update service.users who (some user) other =
            some later →
        later.point.session = some session →
        service.users other = some later := by
    intro other later session isLater has
    rcases user_of_update isLater with ⟨rfl, rfl⟩ | ⟨-, still⟩
    · rw [sessionless] at has
      cases has
    · exact still
  refine ⟨?_, ?_, ?_, ?_⟩
  · intro first second left right session isLeft isRight hasLeft hasRight
    exact
      sound.alone first second left right session
        (before first left session isLeft hasLeft)
        (before second right session isRight hasRight) hasLeft hasRight
  · intro other later session isLater has
    exact
      sound.unpooled other later session
        (before other later session isLater has) has
  · intro other later session isLater granted live
    have has := LockPoint.session_of_granted granted
    exact
      sound.held other later session
        (before other later session isLater has) granted live
  · intro key session count holds
    obtain ⟨live, unpooled, accounts⟩ :=
      sound.accounted key session count holds
    refine ⟨live, unpooled, ?_⟩
    intro other later isLater has
    exact
      accounts other later (before other later session isLater has) has

/-- A session that nobody has holds nothing, whether pooled or new. -/
theorem free_of_fresh
    {session : Nat}
    (sound : service.Sound digest)
    (fresh :
      service.pooled session = true ∨
        service.live session = false ∧ ¬ service.InUse session) :
    ¬ service.InUse session ∧
      ∀ key count, service.locks key ≠ some (session, count) := by
  rcases fresh with isPooled | ⟨dead, unused⟩
  · refine ⟨?_, ?_⟩
    · rintro ⟨who, user, found, has⟩
      rw [sound.unpooled who user session found has] at isPooled
      cases isPooled
    · intro key count holds
      rw [(sound.accounted key session count holds).2.1] at isPooled
      cases isPooled
  · refine ⟨unused, ?_⟩
    intro key count holds
    rw [(sound.accounted key session count holds).1] at dead
    cases dead

/-- A user that connects gets a session of its own, which holds nothing. -/
theorem connects
    {who session : Nat}
    {user : LockUser}
    {live : Nat → Bool}
    (sound : service.Sound digest)
    (fresh :
      service.pooled session = true ∨
        service.live session = false ∧ ¬ service.InUse session)
    (others : ∀ other, other ≠ session → live other = service.live other) :
    { service.goTo who user (.trying session) with
        live := live
        pooled := Function.update service.pooled session false }.Sound
      digest := by
  obtain ⟨unused, nothing⟩ := sound.free_of_fresh fresh
  have before :
      ∀ other later its,
        (service.goTo who user (.trying session)).users other =
            some later →
        later.point.session = some its →
        other = who ∧ its = session ∧ later.point.granted = none ∨
          its ≠ session ∧ service.users other = some later := by
    intro other later its isLater has
    rcases user_of_update isLater with ⟨rfl, rfl⟩ | ⟨-, still⟩
    · exact .inl ⟨rfl, (Option.some.inj has).symm, rfl⟩
    · refine .inr ⟨?_, still⟩
      rintro rfl
      exact unused ⟨other, later, still, has⟩
  refine ⟨?_, ?_, ?_, ?_⟩
  · intro first second left right its isLeft isRight hasLeft hasRight
    rcases before first left its isLeft hasLeft with
      ⟨isWho, isSession, -⟩ | ⟨another, stillLeft⟩
    · rcases before second right its isRight hasRight with
        ⟨alsoWho, -, -⟩ | ⟨another, -⟩
      · exact isWho.trans alsoWho.symm
      · exact absurd isSession another
    · rcases before second right its isRight hasRight with
        ⟨-, isSession, -⟩ | ⟨-, stillRight⟩
      · exact absurd isSession another
      · exact
          sound.alone first second left right its stillLeft stillRight
            hasLeft hasRight
  · intro other later its isLater has
    rcases before other later its isLater has with
      ⟨-, rfl, -⟩ | ⟨another, still⟩
    · exact Function.update_self ..
    · change Function.update service.pooled session false its = false
      rw [Function.update_of_ne another]
      exact sound.unpooled other later its still has
  · intro other later its isLater granted isLive
    have has := LockPoint.session_of_granted granted
    rcases before other later its isLater has with
      ⟨-, -, ungranted⟩ | ⟨another, still⟩
    · rw [ungranted] at granted
      cases granted
    · exact
        sound.held other later its still granted
          ((others its another).symm.trans isLive)
  · intro key its count holds
    have another : its ≠ session := by
      rintro rfl
      exact nothing key count holds
    obtain ⟨wasLive, unpooled, accounts⟩ :=
      sound.accounted key its count holds
    refine ⟨(others its another).trans wasLive, ?_, ?_⟩
    · change Function.update service.pooled session false its = false
      rw [Function.update_of_ne another]
      exact unpooled
    · intro other later isLater has
      rcases before other later its isLater has with
        ⟨-, isSession, -⟩ | ⟨-, still⟩
      · exact absurd isSession another
      · exact accounts other later still has

/-- The end of a session takes its locks, and those of nobody else. -/
theorem ends
    (sound : service.Sound digest)
    (session : Nat) :
    { service with
        live := Function.update service.live session false
        locks := service.locks.endSession session }.Sound digest := by
  refine ⟨sound.alone, sound.unpooled, ?_, ?_⟩
  · intro who user its found granted isLive
    have another : its ≠ session := by
      rintro rfl
      simp at isLive
    change Function.update service.live session false its = true at isLive
    rw [Function.update_of_ne another] at isLive
    exact
      SessionLocks.endSession_eq_some.mpr
        ⟨sound.held who user its found granted isLive, another⟩
  · intro key its count holds
    obtain ⟨held, another⟩ := SessionLocks.endSession_eq_some.mp holds
    obtain ⟨live, rest⟩ := sound.accounted key its count held
    refine ⟨?_, rest⟩
    change Function.update service.live session false its = true
    rw [Function.update_of_ne another]
    exact live

/-- What becomes of a session that was given up is no matter of the users. -/
theorem givenUp
    {session : Nat}
    {locks : SessionLocks Int Nat}
    (sound : service.Sound digest)
    (givenUp : service.GivenUp session)
    (others :
      ∀ key other count,
        other ≠ session →
        (locks key = some (other, count) ↔
          service.locks key = some (other, count))) :
    { service with locks := locks }.Sound digest := by
  refine ⟨sound.alone, sound.unpooled, ?_, ?_⟩
  · intro who user its found granted live
    have another : its ≠ session := by
      rintro rfl
      exact
        givenUp.unused
          ⟨who, user, found, LockPoint.session_of_granted granted⟩
    exact
      (others _ its 1 another).mpr
        (sound.held who user its found granted live)
  · intro key its count holds
    by_cases same : its = session
    · subst same
      refine ⟨givenUp.live, givenUp.unpooled, ?_⟩
      intro who user found has
      exact absurd ⟨who, user, found, has⟩ givenUp.unused
    · exact
        sound.accounted key its count ((others key its count same).mp holds)

/-- A statement of a user does what it tells the user, and nothing to others. -/
theorem serves
    {who session : Nat}
    {user : LockUser}
    {point : LockPoint}
    {locks : SessionLocks Int Nat}
    (sound : service.Sound digest)
    (found : service.users who = some user)
    (has : user.point.session = some session)
    (live : service.live session = true)
    (keeps : point.session = some session)
    (others :
      ∀ key other count,
        other ≠ session →
        (locks key = some (other, count) ↔
          service.locks key = some (other, count)))
    (told :
      point.granted = some session →
      locks (lockKey digest user.runId) = some (session, 1))
    (only :
      ∀ key count,
        locks key = some (session, count) →
        point.granted = some session ∧ key = lockKey digest user.runId) :
    { service.goTo who user point with locks := locks }.Sound digest := by
  have before :
      ∀ other later its,
        (service.goTo who user point).users other = some later →
        later.point.session = some its →
        other = who ∧ later = { user with point := point } ∧
            its = session ∨
          its ≠ session ∧ service.users other = some later := by
    intro other later its isLater itHas
    rcases user_of_update isLater with ⟨isWho, rfl⟩ | ⟨another, still⟩
    · exact .inl ⟨isWho, rfl, Option.some.inj (itHas.symm.trans keeps)⟩
    · refine .inr ⟨?_, still⟩
      rintro rfl
      exact another (sound.alone other who _ _ its still found itHas has)
  refine ⟨?_, ?_, ?_, ?_⟩
  · intro first second left right its isLeft isRight hasLeft hasRight
    rcases before first left its isLeft hasLeft with
      ⟨isWho, -, isSession⟩ | ⟨another, stillLeft⟩
    · rcases before second right its isRight hasRight with
        ⟨alsoWho, -, -⟩ | ⟨another, -⟩
      · exact isWho.trans alsoWho.symm
      · exact absurd isSession another
    · rcases before second right its isRight hasRight with
        ⟨-, -, isSession⟩ | ⟨-, stillRight⟩
      · exact absurd isSession another
      · exact
          sound.alone first second left right its stillLeft stillRight
            hasLeft hasRight
  · intro other later its isLater itHas
    rcases before other later its isLater itHas with
      ⟨-, -, rfl⟩ | ⟨-, still⟩
    · exact sound.unpooled who user its found has
    · exact sound.unpooled other later its still itHas
  · intro other later its isLater granted isLive
    have itHas := LockPoint.session_of_granted granted
    rcases before other later its isLater itHas with
      ⟨-, rfl, rfl⟩ | ⟨another, still⟩
    · exact told granted
    · exact
        (others _ its 1 another).mpr
          (sound.held other later its still granted isLive)
  · intro key its count holds
    by_cases same : its = session
    · subst same
      obtain ⟨granted, isKey⟩ := only key count holds
      refine ⟨live, sound.unpooled who user its found has, ?_⟩
      intro other later isLater itHas
      rcases before other later its isLater itHas with
        ⟨-, rfl, -⟩ | ⟨another, -⟩
      · exact ⟨granted, isKey⟩
      · exact absurd rfl another
    · obtain ⟨wasLive, unpooled, accounts⟩ :=
        sound.accounted key its count ((others key its count same).mp holds)
      refine ⟨wasLive, unpooled, ?_⟩
      intro other later isLater itHas
      rcases before other later its isLater itHas with
        ⟨-, -, isSession⟩ | ⟨-, still⟩
      · exact absurd isSession same
      · exact accounts other later still itHas

/-- A user that asks for the lock is told whether it has taken it. -/
theorem asks
    {who session : Nat}
    {user : LockUser}
    (sound : service.Sound digest)
    (found : service.users who = some user)
    (point : user.point = .trying session)
    (live : service.live session = true) :
    { service.goTo who user
        (.tried session
          (service.locks.grants session (lockKey digest user.runId)))
      with
      locks :=
        service.locks.acquire session
          (lockKey digest user.runId) }.Sound digest := by
  have has : user.point.session = some session := by
    rw [point]
    rfl
  have nothing :
      ∀ key count, service.locks key ≠ some (session, count) := by
    intro key count
    refine sound.locks_none found has ?_
    rw [point]
    rfl
  refine
    sound.serves found has live rfl
      (fun key other count another =>
        SessionLocks.acquire_eq_some another)
      ?_ ?_
  · intro granted
    have grants :
        service.locks.grants session (lockKey digest user.runId) =
          true := by
      by_contra refused
      rw [eq_false_of_ne_true refused] at granted
      cases granted
    apply SessionLocks.acquire_free
    cases taken : service.locks (lockKey digest user.runId) with
    | none => rfl
    | some holder =>
        obtain ⟨other, count⟩ := holder
        have own := SessionLocks.grants_iff.mp grants _ taken
        change other = session at own
        subst own
        exact absurd taken (nothing _ count)
  · intro key count holds
    have isKey : key = lockKey digest user.runId := by
      by_contra another
      rw [SessionLocks.acquire_of_ne another] at holds
      exact nothing key count holds
    subst isKey
    refine ⟨?_, rfl⟩
    have grants :
        service.locks.grants session (lockKey digest user.runId) =
          true := by
      apply SessionLocks.grants_iff.mpr
      rintro ⟨other, times⟩ taken
      by_contra another
      have still :
          service.locks.acquire session (lockKey digest user.runId)
              (lockKey digest user.runId) =
            some (other, times) :=
        (SessionLocks.acquire_eq_some another).mpr taken
      rw [still] at holds
      cases holds
      exact another rfl
    rw [grants]
    rfl

/-- A user that gives the lock back no longer has it. -/
theorem unlocks
    {who session : Nat}
    {user : LockUser}
    (sound : service.Sound digest)
    (found : service.users who = some user)
    (point : user.point = .unlocking session)
    (live : service.live session = true) :
    { service.goTo who user (.unlocked session) with
      locks :=
        service.locks.release session
          (lockKey digest user.runId) }.Sound digest := by
  have has : user.point.session = some session := by
    rw [point]
    rfl
  have granted : user.point.granted = some session := by
    rw [point]
    rfl
  have held := sound.held who user session found granted live
  refine
    sound.serves found has live rfl
      (fun key other count another =>
        SessionLocks.release_eq_some another)
      (fun wouldBe => by cases wouldBe) ?_
  intro key count holds
  by_cases isKey : key = lockKey digest user.runId
  · subst isKey
    rw [SessionLocks.release_once held] at holds
    cases holds
  · rw [SessionLocks.release_of_ne isKey] at holds
    have accounts := (sound.accounted key session count holds).2.2
    exact absurd (accounts who user found has).2 isKey

/-- Every step keeps the facts. -/
theorem step
    {postgres : Bool}
    {action : LockAction}
    {after : LockService}
    (sound : service.Sound digest)
    (steps : LockStep digest postgres service action after) :
    after.Sound digest := by
  cases steps with
  | arrives runId free =>
      refine sound.arrives ?_
      cases postgres <;> rfl
  | @connects who session user found point fresh =>
      refine sound.connects fresh ?_
      intro other another
      by_cases isPooled : service.pooled session = true
      · rw [if_pos isPooled]
      · rw [if_neg isPooled, Function.update_of_ne another]
  | proceeds found goesOn => exact sound.proceeds found goesOn
  | asks found point live => exact sound.asks found point live
  | unlocks found point live => exact sound.unlocks found point live
  | @returns who session user found point =>
      refine sound.leaves found ?_
      intro other isPooled
      by_cases own : other = session
      · subst own
        refine .inr ?_
        rcases point with isPoint | isPoint | isPoint <;>
          rw [isPoint] <;>
          exact ⟨rfl, rfl⟩
      · rw [Function.update_of_ne own] at isPooled
        exact .inl isPooled
  | givesUp found point =>
      exact sound.leaves found fun session isPooled => .inl isPooled
  | ends session => exact sound.ends session
  | asksLate key givenUp =>
      exact
        sound.givenUp givenUp fun _ _ _ another =>
          SessionLocks.acquire_eq_some another
  | unlocksLate key givenUp =>
      exact
        sound.givenUp givenUp fun _ _ _ another =>
          SessionLocks.release_eq_some another

end Sound

/-- The facts hold before anybody comes. -/
theorem Initial.sound
    (starts : service.Initial) :
    service.Sound digest where
  alone first second left right session isLeft := by
    rw [starts.nobody first] at isLeft
    cases isLeft
  unpooled who user session found := by
    rw [starts.nobody who] at found
    cases found
  held who user session found := by
    rw [starts.nobody who] at found
    cases found
  accounted key session count holds := by
    rw [starts.unlocked key] at holds
    cases holds

/-- The facts hold whatever has happened. -/
theorem sound_of_reached
    {postgres : Bool}
    (reached : (workflowLock digest postgres).Reachable service) :
    service.Sound digest :=
  @Machine.Reachable.invariant _ _ _ (Sound digest)
    (fun starts => Initial.sound starts)
    (fun sound steps => sound.step steps) service reached

/-- On PostgreSQL nobody works without the lock. -/
theorem guarded_of_reached
    (reached : (workflowLock digest true).Reachable service) :
    ∀ who user,
      service.users who = some user →
      user.point ≠ .unguarded := by
  induction reached with
  | initial starts =>
      intro who user found
      rw [starts.nobody who] at found
      cases found
  | step earlier last inductionHypothesis =>
      intro who user found
      cases last with
      | arrives runId free =>
          rcases user_of_update found with ⟨-, rfl⟩ | ⟨-, still⟩
          · exact LockPoint.noConfusion
          · exact inductionHypothesis who user still
      | connects foundUser point fresh =>
          rcases user_of_update found with ⟨-, rfl⟩ | ⟨-, still⟩
          · exact LockPoint.noConfusion
          · exact inductionHypothesis who user still
      | proceeds foundUser goesOn =>
          rcases user_of_update found with ⟨-, rfl⟩ | ⟨-, still⟩
          · exact goesOn.guarded
          · exact inductionHypothesis who user still
      | asks foundUser point live =>
          rcases user_of_update found with ⟨-, rfl⟩ | ⟨-, still⟩
          · exact LockPoint.noConfusion
          · exact inductionHypothesis who user still
      | unlocks foundUser point live =>
          rcases user_of_update found with ⟨-, rfl⟩ | ⟨-, still⟩
          · exact LockPoint.noConfusion
          · exact inductionHypothesis who user still
      | returns foundUser point =>
          rcases user_of_update found with ⟨-, rfl⟩ | ⟨-, still⟩
          · exact LockPoint.noConfusion
          · exact inductionHypothesis who user still
      | givesUp foundUser point =>
          rcases user_of_update found with ⟨-, rfl⟩ | ⟨-, still⟩
          · exact LockPoint.noConfusion
          · exact inductionHypothesis who user still
      | ends session => exact inductionHypothesis who user found
      | asksLate key givenUp => exact inductionHypothesis who user found
      | unlocksLate key givenUp =>
          exact inductionHypothesis who user found

end LockService

/-- A user that works under the lock is inside. -/
theorem LockPoint.inside_of_works
    {point : LockPoint}
    (works : point.works = true)
    (guarded : point ≠ .unguarded) :
    ∃ session, point = .inside session := by
  cases point with
  | inside session => exact ⟨session, rfl⟩
  | unguarded => exact absurd rfl guarded
  | connecting => cases works
  | trying session => cases works
  | tried session acquired => cases works
  | sleeping session => cases works
  | unlocking session => cases works
  | unlocked session => cases works
  | left => cases works

/--
Two users of one run never work at a time, wherever they are and whatever was
cancelled or lost on the way, unless the server has ended the session that one
of them works under.
-/
theorem workflow_lock_exclusive
    {digest : String → List UInt8}
    {service : LockService}
    (reached : (workflowLock digest true).Reachable service)
    {first second : Nat}
    {left right : LockUser}
    (isLeft : service.users first = some left)
    (isRight : service.users second = some right)
    (sameRun : left.runId = right.runId)
    (leftWorks : left.point.works = true)
    (rightWorks : right.point.works = true) :
    first = second ∨
      ∃ session,
        service.live session = false ∧
          (left.point = .inside session ∨
            right.point = .inside session) := by
  have sound := LockService.sound_of_reached reached
  have guarded := LockService.guarded_of_reached reached
  obtain ⟨own, leftInside⟩ :=
    LockPoint.inside_of_works leftWorks (guarded first left isLeft)
  obtain ⟨other, rightInside⟩ :=
    LockPoint.inside_of_works rightWorks (guarded second right isRight)
  by_cases ownLive : service.live own = true
  · by_cases otherLive : service.live other = true
    · have leftHeld :=
        sound.held first left own isLeft (by rw [leftInside]; rfl) ownLive
      have rightHeld :=
        sound.held second right other isRight (by rw [rightInside]; rfl)
          otherLive
      rw [sameRun, rightHeld] at leftHeld
      have sameSession : own = other := by
        cases leftHeld
        rfl
      subst sameSession
      refine
        .inl (sound.alone first second left right own isLeft isRight ?_ ?_)
      · rw [leftInside]
        rfl
      · rw [rightInside]
        rfl
    · exact .inr ⟨other, eq_false_of_ne_true otherLive, .inr rightInside⟩
  · exact .inr ⟨own, eq_false_of_ne_true ownLive, .inl leftInside⟩

/--
No lock is left behind: a session that holds one is alive and outside the pool,
and a user is refused the lock of its run only while such a session holds its
key, which another user was granted and has not given back, or which was given up
in the middle of a statement and has not ended.
-/
theorem refused_only_while_held
    {digest : String → List UInt8}
    {postgres : Bool}
    {service : LockService}
    (reached : (workflowLock digest postgres).Reachable service) :
    (∀ key session count,
        service.locks key = some (session, count) →
        service.live session = true ∧ service.pooled session = false) ∧
      ∀ who session user,
        service.users who = some user →
        user.point = .trying session →
        service.locks.grants session (lockKey digest user.runId) = false →
        ∃ other count,
          service.locks (lockKey digest user.runId) =
              some (other, count) ∧
            (service.GivenUp other ∨
              ∃ another holder,
                another ≠ who ∧
                  service.users another = some holder ∧
                  holder.point.granted = some other ∧
                  lockKey digest holder.runId =
                    lockKey digest user.runId) := by
  have sound := LockService.sound_of_reached reached
  constructor
  · intro key session count holds
    obtain ⟨live, unpooled, -⟩ := sound.accounted key session count holds
    exact ⟨live, unpooled⟩
  · intro who session user found trying refused
    cases taken : service.locks (lockKey digest user.runId) with
    | none =>
        unfold SessionLocks.grants at refused
        rw [taken] at refused
        cases refused
    | some held =>
        obtain ⟨other, count⟩ := held
        obtain ⟨live, unpooled, accounts⟩ :=
          sound.accounted _ other count taken
        refine ⟨other, count, rfl, ?_⟩
        by_cases used : service.InUse other
        · obtain ⟨another, holder, isHolder, has⟩ := used
          obtain ⟨granted, sameKey⟩ := accounts another holder isHolder has
          refine
            .inr ⟨another, holder, ?_, isHolder, granted, sameKey.symm⟩
          rintro rfl
          rw [found] at isHolder
          cases isHolder
          rw [trying] at granted
          cases granted
        · exact .inl ⟨live, unpooled, used⟩

/-- Nobody has come, and there are two connections in the pool. -/
def quietService : LockService where
  users _ := none
  locks _ := none
  live session := [7, 8].contains session
  pooled session := [7, 8].contains session

/-- Nobody has come to the quiet service. -/
theorem quietService_initial : quietService.Initial where
  nobody _ := rfl
  unlocked _ := rfl
  pooled _ isLive := isLive

/-- The first user of a run is inside, and a second one asks. -/
theorem second_user_asks :
    ∃ service : LockService,
      (workflowLock (fun _ => []) true).Reachable service ∧
        service.users 0 = some ⟨"RUN-1", .inside 7⟩ ∧
        service.users 1 = some ⟨"RUN-1", .trying 8⟩ ∧
        service.live 8 = true ∧
        service.locks = SessionLocks.acquire (fun _ => none) 7 0 := by
  have empty :
      (workflowLock (fun _ => []) true).Reachable quietService :=
    .initial quietService_initial
  have arrived := empty.step (@LockStep.arrives _ _ _ 0 "RUN-1" rfl)
  have connected :=
    arrived.step
      (@LockStep.connects _ _ _ 0 7 _ rfl rfl (.inl rfl))
  have asked :=
    connected.step (@LockStep.asks _ _ _ 0 7 _ rfl rfl rfl)
  have inside :=
    asked.step (@LockStep.proceeds _ _ _ 0 _ _ rfl (.hears 7))
  have came := inside.step (@LockStep.arrives _ _ _ 1 "RUN-1" rfl)
  have ready :=
    came.step
      (@LockStep.connects _ _ _ 1 8 _ rfl rfl (.inl rfl))
  exact ⟨_, ready, rfl, rfl, rfl, rfl⟩

/-- The second user is refused because the first one has the lock. -/
theorem refused_only_while_held_second :
    ∃ (service : LockService) (other count : Nat),
      (workflowLock (fun _ => []) true).Reachable service ∧
        service.users 1 = some ⟨"RUN-1", .trying 8⟩ ∧
        service.locks (lockKey (fun _ => []) "RUN-1") =
          some (other, count) ∧
        service.pooled other = false ∧
        service.live other = true := by
  obtain ⟨service, reached, first, second, live, locks⟩ := second_user_asks
  have refused :
      service.locks.grants 8 (lockKey (fun _ => []) "RUN-1") = false := by
    rw [locks]
    rfl
  obtain ⟨unpooled, held⟩ := refused_only_while_held reached
  obtain ⟨other, count, holds, -⟩ := held 1 8 _ second rfl refused
  obtain ⟨otherLive, otherUnpooled⟩ := unpooled _ _ _ holds
  exact
    ⟨service, other, count, reached, second, holds, otherUnpooled,
      otherLive⟩

/-- The server ends the session of the first user, and the second one enters. -/
theorem workflow_lock_exclusive_lost :
    ∃ (service : LockService) (session : Nat),
      (workflowLock (fun _ => []) true).Reachable service ∧
        service.users 0 = some ⟨"RUN-1", .inside 7⟩ ∧
        service.users 1 = some ⟨"RUN-1", .inside 8⟩ ∧
        service.live session = false := by
  obtain ⟨service, reached, first, second, live, locks⟩ := second_user_asks
  have lost := reached.step (LockStep.ends service 7)
  have granted :
      (service.locks.endSession 7).grants 8
          (lockKey (fun _ => []) "RUN-1") =
        true := by
    rw [locks]
    rfl
  have asked :=
    lost.step (@LockStep.asks _ _ _ 1 8 _ second rfl live)
  have entered :=
    asked.step
      (@LockStep.proceeds _ _ _ 1 _ _
        (congrArg
          (fun acquired =>
            some (LockUser.mk "RUN-1" (.tried 8 acquired)))
          granted)
        (.hears 8))
  have exclusive :=
    @workflow_lock_exclusive _ _ entered 0 1 _ _ first rfl rfl rfl rfl
  rcases exclusive with same | ⟨session, dead, -⟩
  · cases same
  · exact ⟨_, session, entered, first, rfl, dead⟩

end IncidentPilot
