/-!
# Labelled transition systems

A `Machine` is a set of initial states with a labelled step relation.  This
module holds the vocabulary shared by every protocol proof: finite runs that
remember each step they took, reachability, the invariant rules, and forward
simulations that may stutter.
-/

/-- Initial states and a labelled step relation. -/
structure Machine (State : Type u) (Action : Type v) where
  initial : State → Prop
  step : State → Action → State → Prop

namespace Machine

variable {State : Type u} {Action : Type v}

/-- One step of a run, with the states on both of its sides. -/
structure Step (State : Type u) (Action : Type v) where
  before : State
  action : Action
  after : State

/-- A finite run, recording every step it took in execution order. -/
inductive Run (machine : Machine State Action) :
    State → List (Step State Action) → State → Prop where
  | nil (state : State) :
      Run machine state [] state
  | snoc
      {start middle final : State}
      {steps : List (Step State Action)}
      {action : Action}
      (earlier : Run machine start steps middle)
      (last : machine.step middle action final) :
      Run machine start (steps ++ [⟨middle, action, final⟩]) final

/-- States reached from an initial state by some run. -/
inductive Reachable (machine : Machine State Action) : State → Prop where
  | initial
      {state : State}
      (start : machine.initial state) :
      Reachable machine state
  | step
      {before after : State}
      {action : Action}
      (earlier : Reachable machine before)
      (last : machine.step before action after) :
      Reachable machine after

/-- One state leads to another when some run joins them. -/
def Leads (machine : Machine State Action) (start final : State) : Prop :=
  ∃ steps, machine.Run start steps final

namespace Leads

variable {machine : Machine State Action}

/-- Every state leads to itself. -/
theorem refl (state : State) :
    machine.Leads state state :=
  ⟨[], .nil state⟩

/-- A path can be extended by one step at its end. -/
theorem tail
    {start middle final : State}
    {action : Action}
    (path : machine.Leads start middle)
    (last : machine.step middle action final) :
    machine.Leads start final := by
  obtain ⟨steps, run⟩ := path
  exact ⟨_, run.snoc last⟩

/-- Paths compose. -/
theorem trans
    {start middle final : State}
    (first : machine.Leads start middle)
    (second : machine.Leads middle final) :
    machine.Leads start final := by
  obtain ⟨steps, run⟩ := second
  induction run with
  | nil =>
      exact first
  | snoc earlier last inductionHypothesis =>
      exact inductionHypothesis.tail last

/-- A single step is a path. -/
theorem single
    {start final : State}
    {action : Action}
    (step : machine.step start action final) :
    machine.Leads start final :=
  (refl start).tail step

/-- A relation that is reflexive and absorbs every step holds along paths. -/
theorem induct
    (related : State → State → Prop)
    (reflexive : ∀ state, related state state)
    (absorbs :
      ∀ {start middle final action},
        related start middle →
        machine.step middle action final →
        related start final)
    {start final : State}
    (path : machine.Leads start final) :
    related start final := by
  obtain ⟨steps, run⟩ := path
  induction run with
  | nil =>
      exact reflexive _
  | snoc earlier last inductionHypothesis =>
      exact absorbs inductionHypothesis last

end Leads

namespace Reachable

variable {machine : Machine State Action}

/-- Invariants of the initial states kept by every step hold when reached. -/
theorem invariant
    {holds : State → Prop}
    (start : ∀ {state}, machine.initial state → holds state)
    (preserved :
      ∀ {before action after},
        holds before →
        machine.step before action after →
        holds after)
    {state : State}
    (reached : machine.Reachable state) :
    holds state := by
  induction reached with
  | initial begins =>
      exact start begins
  | step earlier last inductionHypothesis =>
      exact preserved inductionHypothesis last

/-- A path from a reachable state ends in a reachable state. -/
theorem leads
    {start final : State}
    (reached : machine.Reachable start)
    (path : machine.Leads start final) :
    machine.Reachable final := by
  obtain ⟨steps, run⟩ := path
  induction run with
  | nil =>
      exact reached
  | snoc earlier last inductionHypothesis =>
      exact .step inductionHypothesis last

end Reachable

namespace Run

variable {machine : Machine State Action}

/-- The steps of a run are steps of the machine. -/
theorem step_mem
    {start final : State}
    {steps : List (Step State Action)}
    (run : machine.Run start steps final)
    {taken : Step State Action}
    (member : taken ∈ steps) :
    machine.step taken.before taken.action taken.after := by
  induction run with
  | nil =>
      simp at member
  | snoc earlier last inductionHypothesis =>
      rcases List.mem_append.mp member with inEarlier | isLast
      · exact inductionHypothesis inEarlier
      · simp only [List.mem_singleton] at isLast
        subst isLast
        exact last

/--
A run all of whose steps meet a guard keeps every property that guarded steps
preserve, in each state it reaches.
-/
theorem guarded
    {holds : State → Prop}
    {guard : State → Action → Prop}
    (preserved :
      ∀ {before action after},
        holds before →
        guard before action →
        machine.step before action after →
        holds after)
    {start final : State}
    {steps : List (Step State Action)}
    (run : machine.Run start steps final)
    (begins : holds start)
    (guards : ∀ taken ∈ steps, guard taken.before taken.action) :
    holds final ∧ ∀ taken ∈ steps, holds taken.after := by
  induction run with
  | nil =>
      exact ⟨begins, by simp⟩
  | @snoc middle final steps action earlier last inductionHypothesis =>
      obtain ⟨middleHolds, earlierHold⟩ :=
        inductionHypothesis
          (fun taken member =>
            guards taken (List.mem_append_left _ member))
      have lastGuard : guard middle action :=
        guards ⟨middle, action, final⟩ (by simp)
      have finalHolds : holds final :=
        preserved middleHolds lastGuard last
      refine ⟨finalHolds, ?_⟩
      intro taken member
      rcases List.mem_append.mp member with inEarlier | isLast
      · exact earlierHold taken inEarlier
      · simp only [List.mem_singleton] at isLast
        subst isLast
        exact finalHolds

/--
A run is no longer than a measure that every guarded step lowers, as long as
what the steps rely on holds.
-/
theorem measured
    {holds : State → Prop}
    {guard : Action → Prop}
    {measure : State → Nat}
    (lowers :
      ∀ {before action after},
        holds before →
        guard action →
        machine.step before action after →
        holds after ∧ measure after + 1 ≤ measure before)
    {start final : State}
    {steps : List (Step State Action)}
    (run : machine.Run start steps final)
    (begins : holds start)
    (guards : ∀ taken ∈ steps, guard taken.action) :
    holds final ∧ steps.length + measure final ≤ measure start := by
  induction run with
  | nil =>
      exact ⟨begins, by simp⟩
  | @snoc middle final steps action earlier last inductionHypothesis =>
      obtain ⟨middleHolds, bounded⟩ :=
        inductionHypothesis
          (fun taken member =>
            guards taken (List.mem_append_left _ member))
      obtain ⟨finalHolds, lower⟩ :=
        lowers middleHolds (guards ⟨middle, action, final⟩ (by simp)) last
      refine ⟨finalHolds, ?_⟩
      rw [List.length_append, List.length_singleton]
      omega

/-- A property of every state before a step, seen from the start of a run. -/
theorem before_holds
    {holds : State → Prop}
    {start final : State}
    {steps : List (Step State Action)}
    (run : machine.Run start steps final)
    (begins : holds start)
    (reached : ∀ taken ∈ steps, holds taken.after)
    {taken : Step State Action}
    (member : taken ∈ steps) :
    holds taken.before := by
  have all :
      holds final ∧ ∀ taken ∈ steps, holds taken.before := by
    clear member
    induction run with
    | nil =>
        exact ⟨begins, by simp⟩
    | @snoc middle final steps action earlier last
        inductionHypothesis =>
        obtain ⟨middleHolds, earlierHold⟩ :=
          inductionHypothesis
            (fun taken member =>
              reached taken (List.mem_append_left _ member))
        refine ⟨reached ⟨middle, action, final⟩ (by simp), ?_⟩
        intro taken member
        rcases List.mem_append.mp member with inEarlier | isLast
        · exact earlierHold taken inEarlier
        · simp only [List.mem_singleton] at isLast
          subst isLast
          exact middleHolds
  exact all.2 taken member

end Run

/-- The steps of a machine that are also allowed. -/
def restrict
    (machine : Machine State Action)
    (allowed : Action → Prop) :
    Machine State Action where
  initial := machine.initial
  step before action after :=
    machine.step before action after ∧ allowed action

/-- A machine whose steps are computed. -/
def computed
    (initial : State → Prop)
    (act : State → Action → Option State) :
    Machine State Action where
  initial := initial
  step before action after := act before action = some after

/-- Actions that are computed one after the other are a path. -/
theorem computed_leads
    {initial : State → Prop}
    {act : State → Action → Option State}
    {start final : State}
    {actions : List Action}
    (acted : actions.foldlM act start = some final) :
    (computed initial act).Leads start final := by
  induction actions generalizing start with
  | nil =>
      cases acted
      exact .refl _
  | cons action rest inductionHypothesis =>
      obtain ⟨middle, first, others⟩ :=
        Option.bind_eq_some_iff.mp acted
      have step : (computed initial act).step start action middle := first
      exact (Leads.single step).trans (inductionHypothesis others)

/--
A forward simulation: the abstract machine answers each concrete step with one
step of its own or by standing still.
-/
structure Simulation
    {State₂ : Type w} {Action₂ : Type x}
    (concrete : Machine State Action)
    (abstract : Machine State₂ Action₂) where
  related : State → State₂ → Prop
  initial :
    ∀ {state},
      concrete.initial state →
      ∃ image, abstract.initial image ∧ related state image
  step :
    ∀ {before action after image},
      related before image →
      concrete.step before action after →
      related after image ∨
        ∃ abstractAction imageAfter,
          abstract.step image abstractAction imageAfter ∧
            related after imageAfter

namespace Simulation

variable {State₂ : Type w} {Action₂ : Type x}
variable {concrete : Machine State Action}
variable {abstract : Machine State₂ Action₂}

/-- Every reachable concrete state is related to a reachable abstract state. -/
theorem reachable
    (simulation : Simulation concrete abstract)
    {state : State}
    (reached : concrete.Reachable state) :
    ∃ image,
      abstract.Reachable image ∧ simulation.related state image := by
  induction reached with
  | initial start =>
      obtain ⟨image, begins, related⟩ := simulation.initial start
      exact ⟨image, .initial begins, related⟩
  | step earlier last inductionHypothesis =>
      obtain ⟨image, reachedImage, related⟩ := inductionHypothesis
      rcases simulation.step related last with
          stands | ⟨action, imageAfter, moves, relatedAfter⟩
      · exact ⟨image, reachedImage, stands⟩
      · exact ⟨imageAfter, .step reachedImage moves, relatedAfter⟩

end Simulation

end Machine
