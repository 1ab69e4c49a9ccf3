import IncidentPilot.Library.Machine

/-!
# Fencing tokens

The purpose of a lease with an attempt number, free of any schema: an authority
hands out tokens that only grow and never pass a limit, and a shared value
accepts a write only from the holder of the newest token.  The authority may
also change the value on its own account.
-/

namespace Fencing

/-- Every grant so far, newest first, and the value the grants protect. -/
structure State (Holder : Type u) (Value : Type v) where
  grants : List (Holder × Nat)
  value : Value

/-- What may happen to the value. -/
inductive Action (Holder : Type u) (Value : Type v) where
  | grant (holder : Holder) (token : Nat) (value : Value)
  | write (holder : Holder) (token : Nat) (value : Value)
  | administer (value : Value)

variable {Holder : Type u} {Value : Type v}

/-- Tokens grow up to the limit, and only the newest holder may write. -/
inductive Step (limit : Nat) :
    State Holder Value → Action Holder Value →
      State Holder Value → Prop where
  | grant
      {state : State Holder Value}
      {holder : Holder}
      {token : Nat}
      (fresh : ∀ earlier ∈ state.grants, earlier.2 < token)
      (bounded : token ≤ limit)
      (value : Value) :
      Step limit state (.grant holder token value)
        ⟨(holder, token) :: state.grants, value⟩
  | write
      {state : State Holder Value}
      {holder : Holder}
      {token : Nat}
      (newest : state.grants.head? = some (holder, token))
      (value : Value) :
      Step limit state (.write holder token value)
        { state with value := value }
  | administer
      (state : State Holder Value)
      (value : Value) :
      Step limit state (.administer value)
        { state with value := value }

/-- The token authority, started before any grant. -/
def authority (limit : Nat) (start : Value → Prop) :
    Machine (State Holder Value) (Action Holder Value) where
  initial state := state.grants = [] ∧ start state.value
  step := Step limit

/-- Tokens decrease along the newest-first history and respect the limit. -/
structure Ordered (limit : Nat) (grants : List (Holder × Nat)) : Prop where
  increasing : grants.Pairwise fun later earlier => earlier.2 < later.2
  bounded : ∀ grant ∈ grants, grant.2 ≤ limit

namespace Ordered

/-- No grant carries more than the newest token. -/
theorem le_newest
    {limit : Nat}
    {grants : List (Holder × Nat)}
    {newest grant : Holder × Nat}
    (ordered : Ordered limit grants)
    (head : grants.head? = some newest)
    (member : grant ∈ grants) :
    grant.2 ≤ newest.2 := by
  cases grants with
  | nil =>
      simp at head
  | cons first rest =>
      simp only [List.head?_cons, Option.some.injEq] at head
      subst head
      rcases List.mem_cons.mp member with isFirst | inRest
      · exact Nat.le_of_eq (congrArg Prod.snd isFirst)
      · have later := List.pairwise_cons.mp ordered.increasing
        exact Nat.le_of_lt (later.1 grant inRest)

end Ordered

/-- One step keeps the history ordered. -/
theorem ordered_step
    {limit : Nat}
    {before after : State Holder Value}
    {action : Action Holder Value}
    (ordered : Ordered limit before.grants)
    (step : Step limit before action after) :
    Ordered limit after.grants := by
  cases step with
  | grant fresh bounded value =>
      constructor
      · exact List.pairwise_cons.mpr ⟨fresh, ordered.increasing⟩
      · intro grant member
        rcases List.mem_cons.mp member with isNew | isOld
        · rw [isNew]
          exact bounded
        · exact ordered.bounded grant isOld
  | write newest value =>
      exact ordered
  | administer value =>
      exact ordered

/-- Every reachable history is ordered. -/
theorem ordered_of_reachable
    {limit : Nat}
    {start : Value → Prop}
    {state : State Holder Value}
    (reached : (authority limit start).Reachable state) :
    Ordered limit state.grants := by
  refine reached.invariant ?_ ordered_step
  intro state begins
  rw [begins.1]
  exact ⟨.nil, by simp⟩

end Fencing
