import IncidentPilot.Library.Machine

/-!
# Row locks held to commit

A transaction that takes a row lock evaluates its guard when it gets the lock
and writes when it commits.  Between the two, other transactions wait, the
holder may die, and only the outside world (the clock) moves.  The locked
machine below has those intermediate states; the atomic machine commits each
transaction in one step, and the locked machine refines it.
-/

/--
Transactions on one row.  `commit` is `none` when the guard of a transaction
fails, and `drift` is what may happen while a lock is held; a transaction that
could commit when it took the lock still can.
-/
structure RowLock (State : Type u) (Op : Type v) (Drift : Type w) where
  commit : State → Op → Option State
  drift : State → Drift → State
  stable :
    ∀ {state op after} (change : Drift),
      commit state op = some after →
      (commit (drift state change) op).isSome

namespace RowLock

variable {State : Type u} {Op : Type v} {Drift : Type w}

/-- Labels of the atomic machine. -/
inductive Action (Op : Type v) (Drift : Type w) where
  | commit (op : Op)
  | drift (change : Drift)

/-- Labels of the locked machine. -/
inductive LockedAction (Op : Type v) (Drift : Type w) where
  | acquire (op : Op)
  | commit
  | rollback
  | drift (change : Drift)

/-- A row together with the transaction that holds its lock, if any. -/
structure Locked (State : Type u) (Op : Type v) where
  store : State
  holder : Option Op

/-- Steps in which every transaction commits in one piece. -/
inductive AtomicStep (row : RowLock State Op Drift) :
    State → Action Op Drift → State → Prop where
  | commit
      {before after : State}
      {op : Op}
      (committed : row.commit before op = some after) :
      AtomicStep row before (.commit op) after
  | drift (before : State) (change : Drift) :
      AtomicStep row before (.drift change) (row.drift before change)

/-- Steps in which the lock is held from the guard to the commit. -/
inductive LockedStep (row : RowLock State Op Drift) :
    Locked State Op → LockedAction Op Drift → Locked State Op → Prop where
  | acquire
      {store after : State}
      {op : Op}
      (guard : row.commit store op = some after) :
      LockedStep row ⟨store, none⟩ (.acquire op) ⟨store, some op⟩
  | commit
      {store after : State}
      {op : Op}
      (committed : row.commit store op = some after) :
      LockedStep row ⟨store, some op⟩ .commit ⟨after, none⟩
  | rollback (store : State) (op : Op) :
      LockedStep row ⟨store, some op⟩ .rollback ⟨store, none⟩
  | drift (locked : Locked State Op) (change : Drift) :
      LockedStep row locked (.drift change)
        { locked with store := row.drift locked.store change }

/-- The machine whose transactions commit in one step. -/
def atomic
    (row : RowLock State Op Drift)
    (initial : State → Prop) :
    Machine State (Action Op Drift) where
  initial := initial
  step := AtomicStep row

/-- The machine whose transactions hold the row lock until they commit. -/
def locked
    (row : RowLock State Op Drift)
    (initial : State → Prop) :
    Machine (Locked State Op) (LockedAction Op Drift) where
  initial locked := initial locked.store ∧ locked.holder = none
  step := LockedStep row

/-- The locked machine refines the atomic one. -/
def refines
    (row : RowLock State Op Drift)
    (initial : State → Prop) :
    Machine.Simulation (row.locked initial) (row.atomic initial) where
  related locked store := locked.store = store
  initial begins := ⟨_, begins.1, rfl⟩
  step := by
    intro before action after image related step
    subst related
    cases step with
    | acquire guard =>
        exact .inl rfl
    | commit committed =>
        exact .inr ⟨.commit _, _, .commit committed, rfl⟩
    | rollback store op =>
        exact .inl rfl
    | drift locked change =>
        exact .inr ⟨.drift change, _, .drift _ change, rfl⟩

/-- Whatever the atomic machine can reach is all a locked run can store. -/
theorem reachable_store
    {row : RowLock State Op Drift}
    {initial : State → Prop}
    {locked : Locked State Op}
    (reached : (row.locked initial).Reachable locked) :
    (row.atomic initial).Reachable locked.store := by
  obtain ⟨image, reachedImage, related⟩ :=
    (row.refines initial).reachable reached
  change locked.store = image at related
  subst related
  exact reachedImage

/-- Transactions and drifts one after the other, each transaction at once. -/
def execute
    (row : RowLock State Op Drift)
    (state : State) : List (Action Op Drift) → Option State
  | [] => some state
  | .commit op :: rest =>
      (row.commit state op).bind fun next => row.execute next rest
  | .drift change :: rest => row.execute (row.drift state change) rest

/-- A serial execution of allowed actions is a path of the atomic machine. -/
theorem atomic_leads
    {row : RowLock State Op Drift}
    {initial : State → Prop}
    {allowed : Action Op Drift → Prop}
    {state final : State}
    {actions : List (Action Op Drift)}
    (allows : ∀ action ∈ actions, allowed action)
    (executed : row.execute state actions = some final) :
    ((row.atomic initial).restrict allowed).Leads state final := by
  induction actions generalizing state with
  | nil =>
      cases executed
      exact .refl _
  | cons action rest inductionHypothesis =>
      have first := allows action List.mem_cons_self
      have others : ∀ later ∈ rest, allowed later :=
        fun later member => allows later (List.mem_cons_of_mem _ member)
      cases action with
      | commit op =>
          obtain ⟨next, committed, remaining⟩ :=
            Option.bind_eq_some_iff.mp executed
          have step :
              ((row.atomic initial).restrict allowed).step state
                (.commit op) next :=
            ⟨AtomicStep.commit committed, first⟩
          exact
            (Machine.Leads.single step).trans
              (inductionHypothesis others remaining)
      | drift change =>
          have step :
              ((row.atomic initial).restrict allowed).step state
                (.drift change) (row.drift state change) :=
            ⟨AtomicStep.drift state change, first⟩
          exact
            (Machine.Leads.single step).trans
              (inductionHypothesis others executed)

/-- A serial execution is a path of the locked machine. -/
theorem locked_leads
    {row : RowLock State Op Drift}
    {initial : State → Prop}
    {state final : State}
    {actions : List (Action Op Drift)}
    (executed : row.execute state actions = some final) :
    (row.locked initial).Leads ⟨state, none⟩ ⟨final, none⟩ := by
  induction actions generalizing state with
  | nil =>
      cases executed
      exact .refl _
  | cons action rest inductionHypothesis =>
      cases action with
      | commit op =>
          obtain ⟨next, committed, remaining⟩ :=
            Option.bind_eq_some_iff.mp executed
          have taken :
              (row.locked initial).step ⟨state, none⟩ (.acquire op)
                ⟨state, some op⟩ :=
            LockedStep.acquire committed
          have written :
              (row.locked initial).step ⟨state, some op⟩ .commit
                ⟨next, none⟩ :=
            LockedStep.commit committed
          exact
            ((Machine.Leads.single taken).tail written).trans
              (inductionHypothesis remaining)
      | drift change =>
          have step :
              (row.locked initial).step ⟨state, none⟩ (.drift change)
                ⟨row.drift state change, none⟩ :=
            LockedStep.drift ⟨state, none⟩ change
          exact
            (Machine.Leads.single step).trans
              (inductionHypothesis executed)

end RowLock
