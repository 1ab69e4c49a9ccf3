import Mathlib.Logic.Function.Basic

/-!
# Locks that belong to sessions

The session-level advisory locks of a database server: a key is free or held by
one session, which may take it again and must give it back as often.  The end of
a session gives back all its locks.
-/

/-- The holder of each key, and how often it has taken it. -/
abbrev SessionLocks (Key : Type u) (Session : Type v) :=
  Key → Option (Session × Nat)

namespace SessionLocks

variable {Key : Type u} {Session : Type v}
variable [DecidableEq Session]

/-- Whether a session that tries to take a key is told that it has it. -/
def grants
    (locks : SessionLocks Key Session)
    (session : Session)
    (key : Key) : Bool :=
  (locks key).all fun held => decide (held.1 = session)

/-- What becomes of a key that a session tries to take. -/
def taken (session : Session) :
    Option (Session × Nat) → Option (Session × Nat)
  | none => some (session, 1)
  | some (holder, count) =>
      if holder = session then
        some (holder, count + 1)
      else
        some (holder, count)

/-- What becomes of a key that a session gives back. -/
def given (session : Session) :
    Option (Session × Nat) → Option (Session × Nat)
  | none => none
  | some (holder, count) =>
      if holder ≠ session then
        some (holder, count)
      else if count ≤ 1 then
        none
      else
        some (holder, count - 1)

/-- The locks once a session has ended. -/
def endSession
    (locks : SessionLocks Key Session)
    (session : Session) : SessionLocks Key Session :=
  fun key => (locks key).filter fun held => decide (held.1 ≠ session)

section Keys

variable [DecidableEq Key]

/-- The locks once a session has tried to take a key. -/
def acquire
    (locks : SessionLocks Key Session)
    (session : Session)
    (key : Key) : SessionLocks Key Session :=
  Function.update locks key (taken session (locks key))

/-- The locks once a session has given a key back, if it holds it. -/
def release
    (locks : SessionLocks Key Session)
    (session : Session)
    (key : Key) : SessionLocks Key Session :=
  Function.update locks key (given session (locks key))

end Keys

section Rules

variable {locks : SessionLocks Key Session} {session other : Session}
variable {key asked : Key} {count : Nat}

/-- A key is granted when no other session holds it. -/
theorem grants_iff :
    locks.grants session key = true ↔
      ∀ held, locks key = some held → held.1 = session := by
  unfold grants
  cases locks key <;> simp

/-- After the end of a session the others hold what they held. -/
theorem endSession_eq_some :
    locks.endSession session key = some (other, count) ↔
      locks key = some (other, count) ∧ other ≠ session := by
  simp [endSession, Option.filter_eq_some_iff]

variable [DecidableEq Key]

/-- A free key is taken once. -/
theorem acquire_free
    (free : locks key = none) :
    locks.acquire session key key = some (session, 1) := by
  simp [acquire, taken, free]

/-- Trying to take a key does nothing to the others. -/
theorem acquire_of_ne
    (another : key ≠ asked) :
    locks.acquire session asked key = locks key :=
  Function.update_of_ne another _ _

/-- Trying to take a key changes nothing that another session holds. -/
theorem acquire_eq_some
    (another : other ≠ session) :
    locks.acquire session asked key = some (other, count) ↔
      locks key = some (other, count) := by
  by_cases same : key = asked
  · subst same
    unfold acquire
    rw [Function.update_self]
    cases locks key with
    | none =>
        simp [taken, another.symm]
    | some held =>
        obtain ⟨holder, times⟩ := held
        by_cases own : holder = session
        · subst own
          simp [taken, another.symm]
        · simp [taken, own]
  · rw [acquire_of_ne same]

/-- A key that was taken once is free when it is given back. -/
theorem release_once
    (held : locks key = some (session, 1)) :
    locks.release session key key = none := by
  simp [release, given, held]

/-- Giving a key back does nothing to the others. -/
theorem release_of_ne
    (another : key ≠ asked) :
    locks.release session asked key = locks key :=
  Function.update_of_ne another _ _

/-- Giving a key back changes nothing that another session holds. -/
theorem release_eq_some
    (another : other ≠ session) :
    locks.release session asked key = some (other, count) ↔
      locks key = some (other, count) := by
  by_cases same : key = asked
  · subst same
    unfold release
    rw [Function.update_self]
    cases locks key with
    | none =>
        simp [given]
    | some held =>
        obtain ⟨holder, times⟩ := held
        by_cases own : holder = session
        · subst own
          by_cases once : times ≤ 1
          · simp [given, once, another.symm]
          · simp [given, once, another.symm]
        · simp [given, own]
  · rw [release_of_ne same]

end Rules

end SessionLocks
