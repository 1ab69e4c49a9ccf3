import IncidentPilot.Library.Machine
import IncidentPilot.Library.SessionLock
import Mathlib.Algebra.Group.Nat.Defs

/-!
# The lock on a workflow

`workflow_lock` of `persistence/ownership.py`: a user takes a connection out of
a pool, asks for the advisory lock of its run until it is granted, works, and
gives the lock back in its `finally`.  The lock belongs to the session of the
connection, and a connection that goes back to the pool keeps its session.

A user may be cancelled, and its connection may break, at every request.  A
connection that is cancelled in the middle of a statement is not used again;
the server may still serve that statement, and ends the session in its own time.
It may end any other session as well.
-/

namespace IncidentPilot

/-- The loop of `int.from_bytes(bytes, "big")`. -/
def bigEndian (bytes : List UInt8) : Nat :=
  bytes.foldl (fun read byte => 256 * read + byte.toNat) 0

/-- `int.from_bytes(bytes, "big", signed=True)`. -/
def signedBigEndian (bytes : List UInt8) : Int :=
  if 256 ^ bytes.length ≤ 2 * bigEndian bytes then
    (bigEndian bytes : Int) - (256 ^ bytes.length : Nat)
  else
    bigEndian bytes

/-- The key of a run; `digest` is `sha256(…).digest()`. -/
def lockKey (digest : String → List UInt8) (runId : String) : Int :=
  signedBigEndian ((digest runId).take 8)

/-- Where a user of the lock is; the number is the session of its connection. -/
inductive LockPoint where
  | connecting
  | trying (session : Nat)
  | tried (session : Nat) (acquired : Bool)
  | sleeping (session : Nat)
  | inside (session : Nat)
  | unlocking (session : Nat)
  | unlocked (session : Nat)
  | unguarded
  | left
  deriving Repr, DecidableEq

namespace LockPoint

/-- The session of the connection of a user. -/
def session : LockPoint → Option Nat
  | .trying session => some session
  | .tried session _ => some session
  | .sleeping session => some session
  | .inside session => some session
  | .unlocking session => some session
  | .unlocked session => some session
  | .connecting | .unguarded | .left => none

/-- The session that was granted a lock which it has not given back. -/
def granted : LockPoint → Option Nat
  | .tried session true => some session
  | .inside session => some session
  | .unlocking session => some session
  | _ => none

/-- The body of the `async with` runs. -/
def works : LockPoint → Bool
  | .inside _ => true
  | .unguarded => true
  | _ => false

end LockPoint

/-- A user of the lock. -/
structure LockUser where
  runId : String
  point : LockPoint
  deriving Repr, DecidableEq

/-- The users, the locks and the sessions of the server, and the pool. -/
structure LockService where
  users : Nat → Option LockUser
  locks : SessionLocks Int Nat
  live : Nat → Bool
  pooled : Nat → Bool

namespace LockService

/-- The user goes on to another point. -/
def goTo
    (service : LockService)
    (who : Nat)
    (user : LockUser)
    (point : LockPoint) : LockService :=
  { service with
    users :=
      Function.update service.users who (some { user with point := point }) }

/-- Some user has the session. -/
def InUse (service : LockService) (session : Nat) : Prop :=
  ∃ who user,
    service.users who = some user ∧ user.point.session = some session

/-- A connection was lost, and its session has not ended. -/
structure GivenUp (service : LockService) (session : Nat) : Prop where
  live : service.live session = true
  unpooled : service.pooled session = false
  unused : ¬ service.InUse session

end LockService

/-- What a user does without the server. -/
inductive LockPoint.Proceeds : LockPoint → LockPoint → Prop where
  | refused : Proceeds .connecting .left
  | hears (session : Nat) : Proceeds (.tried session true) (.inside session)
  | hearsNot (session : Nat) :
      Proceeds (.tried session false) (.sleeping session)
  | wakes (session : Nat) : Proceeds (.sleeping session) (.trying session)
  | worked (session : Nat) : Proceeds (.inside session) (.unlocking session)
  | workedUnguarded : Proceeds .unguarded .left

/-- Who moves. -/
inductive LockAction where
  | user (who : Nat)
  | server (session : Nat)
  deriving Repr, DecidableEq

/--
The steps of the users and the server.  A user that is cancelled while it
sleeps, or whose statement is refused, gives its connection back; one that is
interrupted in a statement, or whose unlocking fails, gives it up.
-/
inductive LockStep
    (digest : String → List UInt8)
    (postgres : Bool) :
    LockService → LockAction → LockService → Prop where
  | arrives
      {service : LockService}
      {who : Nat}
      (runId : String)
      (free : service.users who = none) :
      LockStep digest postgres service (.user who)
        { service with
          users :=
            Function.update service.users who
              (some
                ⟨runId, if postgres then .connecting else .unguarded⟩) }
  | connects
      {service : LockService}
      {who session : Nat}
      {user : LockUser}
      (found : service.users who = some user)
      (point : user.point = .connecting)
      (fresh :
        service.pooled session = true ∨
          service.live session = false ∧ ¬ service.InUse session) :
      LockStep digest postgres service (.user who)
        { service.goTo who user (.trying session) with
          live :=
            if service.pooled session = true then
              service.live
            else
              Function.update service.live session true
          pooled := Function.update service.pooled session false }
  | proceeds
      {service : LockService}
      {who : Nat}
      {user : LockUser}
      {point : LockPoint}
      (found : service.users who = some user)
      (goesOn : user.point.Proceeds point) :
      LockStep digest postgres service (.user who)
        (service.goTo who user point)
  | asks
      {service : LockService}
      {who session : Nat}
      {user : LockUser}
      (found : service.users who = some user)
      (point : user.point = .trying session)
      (live : service.live session = true) :
      LockStep digest postgres service (.user who)
        { service.goTo who user
            (.tried session
              (service.locks.grants session (lockKey digest user.runId)))
          with
          locks :=
            service.locks.acquire session (lockKey digest user.runId) }
  | unlocks
      {service : LockService}
      {who session : Nat}
      {user : LockUser}
      (found : service.users who = some user)
      (point : user.point = .unlocking session)
      (live : service.live session = true) :
      LockStep digest postgres service (.user who)
        { service.goTo who user (.unlocked session) with
          locks :=
            service.locks.release session (lockKey digest user.runId) }
  | returns
      {service : LockService}
      {who session : Nat}
      {user : LockUser}
      (found : service.users who = some user)
      (point :
        user.point = .trying session ∨
          user.point = .sleeping session ∨
          user.point = .unlocked session) :
      LockStep digest postgres service (.user who)
        { service.goTo who user .left with
          pooled := Function.update service.pooled session true }
  | givesUp
      {service : LockService}
      {who : Nat}
      {user : LockUser}
      (found : service.users who = some user)
      (point :
        ∃ session,
          user.point = .trying session ∨
            (∃ acquired, user.point = .tried session acquired) ∨
            user.point = .unlocking session ∨
            user.point = .unlocked session) :
      LockStep digest postgres service (.user who)
        (service.goTo who user .left)
  | ends
      (service : LockService)
      (session : Nat) :
      LockStep digest postgres service (.server session)
        { service with
          live := Function.update service.live session false
          locks := service.locks.endSession session }
  | asksLate
      {service : LockService}
      {session : Nat}
      (key : Int)
      (givenUp : service.GivenUp session) :
      LockStep digest postgres service (.server session)
        { service with locks := service.locks.acquire session key }
  | unlocksLate
      {service : LockService}
      {session : Nat}
      (key : Int)
      (givenUp : service.GivenUp session) :
      LockStep digest postgres service (.server session)
        { service with locks := service.locks.release session key }

/-- Nobody has come yet; there may be connections in the pool. -/
structure LockService.Initial (service : LockService) : Prop where
  nobody : ∀ who, service.users who = none
  unlocked : ∀ key, service.locks key = none
  pooled :
    ∀ session, service.live session = true → service.pooled session = true

/-- The users of `workflow_lock`, and the server if it is a PostgreSQL one. -/
def workflowLock
    (digest : String → List UInt8)
    (postgres : Bool) : Machine LockService LockAction where
  initial := LockService.Initial
  step := LockStep digest postgres

end IncidentPilot
