import IncidentPilot.Library.Interaction
import IncidentPilot.Library.Machine

/-!
# Programs in flight

Any number of programs, each begun for a job, that ask one world in any order
while others change it too; each may die between two of its requests.  A relation
that every step of everyone respects turns judgements about one program, made
under interference, into facts about all of them.
-/

namespace Program

/-- What a job begins, how requests are served, and what others may do. -/
structure Service
    (World : Type y)
    (Job : Type z)
    (Request : Type u)
    (Answer : Request → Type v)
    (Error : Type w)
    (Value : Type x) where
  begins : Job → Program Request Answer Error Value
  arrives : Job → World → World
  serves :
    World → (request : Request) → Answer request → World → Prop
  others : World → World → Prop

/-- The world, the programs in flight, and how the others have ended. -/
structure Pool
    (World : Type y)
    (Job : Type z)
    (Request : Type u)
    (Answer : Request → Type v)
    (Error : Type w)
    (Value : Type x) where
  world : World
  inFlight : Nat → Option (Job × Program Request Answer Error Value)
  ended : List (Job × Outcome Error Value)

/-- What may happen next, and to which program. -/
inductive PoolAction (Job : Type z) where
  | arrive (who : Nat) (job : Job)
  | serve (who : Nat)
  | finish (who : Nat)
  | die (who : Nat)
  | other

variable {World : Type y} {Job : Type z}
variable {Request : Type u} {Answer : Request → Type v}
variable {Error : Type w} {Value : Type x}

namespace Pool

/-- A pool in which nothing is in flight and nothing has ended. -/
def idle (world : World) : Pool World Job Request Answer Error Value where
  world := world
  inFlight _ := none
  ended := []

/-- A program in flight goes on, in a world that may have changed. -/
def goesOn
    (pool : Pool World Job Request Answer Error Value)
    (world : World)
    (who : Nat)
    (job : Job)
    (program : Program Request Answer Error Value) :
    Pool World Job Request Answer Error Value :=
  { pool with
    world := world
    inFlight :=
      fun other =>
        if other = who then some (job, program) else pool.inFlight other }

/-- A program in flight has ended. -/
def ends
    (pool : Pool World Job Request Answer Error Value)
    (who : Nat)
    (job : Job)
    (outcome : Outcome Error Value) :
    Pool World Job Request Answer Error Value :=
  { pool with
    inFlight :=
      fun other => if other = who then none else pool.inFlight other
    ended := (job, outcome) :: pool.ended }

end Pool

/-- One step of a pool. -/
inductive PoolStep
    (service : Service World Job Request Answer Error Value) :
    Pool World Job Request Answer Error Value →
      PoolAction Job →
      Pool World Job Request Answer Error Value →
      Prop where
  | arrive
      {pool : Pool World Job Request Answer Error Value}
      {who : Nat}
      (job : Job)
      (free : pool.inFlight who = none) :
      PoolStep service pool (.arrive who job)
        (pool.goesOn (service.arrives job pool.world) who job
          (service.begins job))
  | serve
      {pool : Pool World Job Request Answer Error Value}
      {who : Nat}
      {job : Job}
      {request : Request}
      {resume : Answer request → Program Request Answer Error Value}
      {answer : Answer request}
      {after : World}
      (asking : pool.inFlight who = some (job, .ask request resume))
      (serves : service.serves pool.world request answer after) :
      PoolStep service pool (.serve who)
        (pool.goesOn after who job (resume answer))
  | returned
      {pool : Pool World Job Request Answer Error Value}
      {who : Nat}
      {job : Job}
      {value : Value}
      (done : pool.inFlight who = some (job, .done value)) :
      PoolStep service pool (.finish who)
        (pool.ends who job (.returned value))
  | raised
      {pool : Pool World Job Request Answer Error Value}
      {who : Nat}
      {job : Job}
      {error : Error}
      (failed : pool.inFlight who = some (job, .raise error)) :
      PoolStep service pool (.finish who)
        (pool.ends who job (.raised error))
  | died
      {pool : Pool World Job Request Answer Error Value}
      {who : Nat}
      {job : Job}
      {program : Program Request Answer Error Value}
      (alive : pool.inFlight who = some (job, program)) :
      PoolStep service pool (.die who) (pool.ends who job .died)
  | other
      {pool : Pool World Job Request Answer Error Value}
      {after : World}
      (changes : service.others pool.world after) :
      PoolStep service pool .other { pool with world := after }

/-- The pools of a service, begun idle in one of some worlds. -/
def pools
    (service : Service World Job Request Answer Error Value)
    (initial : World → Prop) :
    Machine (Pool World Job Request Answer Error Value)
      (PoolAction Job) where
  initial pool := ∃ world, initial world ∧ pool = .idle world
  step := PoolStep service

/-- What a program sees of everyone else: the relation, and what holds. -/
def Service.interfered
    (service : Service World Job Request Answer Error Value)
    (holds : World → Prop)
    (related : World → World → Prop) :
    Surroundings World Request Answer where
  serves := service.serves
  interferes before after := related before after ∧ holds after

/-- What an outcome was to mean in a world. -/
def Outcome.Meets
    (returns : Value → World → Prop)
    (raises : Error → World → Prop)
    (world : World) : Outcome Error Value → Prop
  | .returned value => returns value world
  | .raised error => raises error world
  | .died => True

/--
Everyone's steps keep what holds and respect one relation, and each program is
right whatever others do within that relation.
-/
structure Service.Cooperates
    (service : Service World Job Request Answer Error Value)
    (holds : World → Prop)
    (related : World → World → Prop)
    (received : Job → World → Prop)
    (permits : Job → World → Request → Prop)
    (returns : Job → Value → World → Prop)
    (raises : Job → Error → World → Prop) : Prop where
  reflexive : ∀ world, related world world
  transitive :
    ∀ {first second third},
      related first second → related second third → related first third
  arrival :
    ∀ {world} job,
      holds world →
      holds (service.arrives job world) ∧
        related world (service.arrives job world) ∧
        received job (service.arrives job world)
  elsewhere :
    ∀ {before after},
      holds before →
      service.others before after →
      holds after ∧ related before after
  serving :
    ∀ {job before request answer after},
      holds before →
      received job before →
      permits job before request →
      service.serves before request answer after →
      holds after ∧ related before after
  receivedStable :
    ∀ {job before after},
      related before after → received job before → received job after
  returnsStable :
    ∀ {job value before after},
      related before after →
      returns job value before →
      returns job value after
  raisesStable :
    ∀ {job error before after},
      related before after →
      raises job error before →
      raises job error after
  keeps :
    ∀ {job world},
      holds world →
      received job world →
      Keeps (service.interfered holds related) (permits job)
        (service.begins job) world (returns job) (raises job)

namespace Pool

variable {service : Service World Job Request Answer Error Value}
variable {holds : World → Prop} {related : World → World → Prop}
variable {received : Job → World → Prop}
variable {permits : Job → World → Request → Prop}
variable {returns : Job → Value → World → Prop}
variable {raises : Job → Error → World → Prop}

/-- What is true of a pool whose programs cooperate. -/
structure Sound
    (service : Service World Job Request Answer Error Value)
    (holds : World → Prop)
    (related : World → World → Prop)
    (received : Job → World → Prop)
    (permits : Job → World → Request → Prop)
    (returns : Job → Value → World → Prop)
    (raises : Job → Error → World → Prop)
    (pool : Pool World Job Request Answer Error Value) : Prop where
  stands : holds pool.world
  inFlight :
    ∀ {who job program},
      pool.inFlight who = some (job, program) →
      received job pool.world ∧
        Keeps (service.interfered holds related) (permits job) program
          pool.world (returns job) (raises job)
  ended :
    ∀ ending ∈ pool.ended,
      received ending.1 pool.world ∧
        ending.2.Meets (returns ending.1) (raises ending.1) pool.world

/-- What is said of programs in flight stays true in a related world. -/
theorem Sound.moved
    {pool : Pool World Job Request Answer Error Value}
    (cooperates :
      service.Cooperates holds related received permits returns raises)
    (sound :
      pool.Sound service holds related received permits returns raises)
    {after : World}
    (grew : related pool.world after)
    (stillHolds : holds after) :
    ({ pool with world := after } : Pool _ _ _ _ _ _).Sound service holds
      related received permits returns raises where
  stands := stillHolds
  inFlight := by
    intro who job program flying
    obtain ⟨known, keeps⟩ := sound.inFlight flying
    refine ⟨cooperates.receivedStable grew known, ?_⟩
    refine
      keeps.disturbed ?_
        (fun value returned => cooperates.returnsStable grew returned)
        (fun error raised => cooperates.raisesStable grew raised)
    rintro later ⟨laterRelated, laterHolds⟩
    exact ⟨cooperates.transitive grew laterRelated, laterHolds⟩
  ended := by
    rintro ⟨job, outcome⟩ member
    obtain ⟨known, meets⟩ := sound.ended _ member
    refine ⟨cooperates.receivedStable grew known, ?_⟩
    cases outcome with
    | returned value =>
        exact cooperates.returnsStable grew meets
    | raised error =>
        exact cooperates.raisesStable grew meets
    | died =>
        trivial

/-- A program that is right in the world of a sound pool may be put into it. -/
theorem Sound.goesOn
    {pool : Pool World Job Request Answer Error Value}
    (cooperates :
      service.Cooperates holds related received permits returns raises)
    (sound :
      pool.Sound service holds related received permits returns raises)
    {after : World}
    {who : Nat}
    {job : Job}
    {program : Program Request Answer Error Value}
    (grew : related pool.world after)
    (stillHolds : holds after)
    (known : received job after)
    (keeps :
      Keeps (service.interfered holds related) (permits job) program
        after (returns job) (raises job)) :
    (pool.goesOn after who job program).Sound service holds related
      received permits returns raises := by
  have moved := sound.moved cooperates grew stillHolds
  refine ⟨stillHolds, ?_, moved.ended⟩
  intro other otherJob otherProgram flying
  by_cases same : other = who
  · simp only [Pool.goesOn, if_pos same, Option.some.injEq,
      Prod.mk.injEq] at flying
    obtain ⟨rfl, rfl⟩ := flying
    exact ⟨known, keeps⟩
  · simp only [Pool.goesOn, if_neg same] at flying
    exact moved.inFlight flying

/-- A program that has ended as it should may be taken out of a sound pool. -/
theorem Sound.ends
    {pool : Pool World Job Request Answer Error Value}
    (sound :
      pool.Sound service holds related received permits returns raises)
    {who : Nat}
    {job : Job}
    {outcome : Outcome Error Value}
    (known : received job pool.world)
    (meets : outcome.Meets (returns job) (raises job) pool.world) :
    (pool.ends who job outcome).Sound service holds related received
      permits returns raises := by
  refine ⟨sound.stands, ?_, ?_⟩
  · intro other otherJob program flying
    by_cases same : other = who
    · simp [Pool.ends, if_pos same] at flying
    · simp only [Pool.ends, if_neg same] at flying
      exact sound.inFlight flying
  · intro ending member
    rcases List.mem_cons.mp member with rfl | earlier
    · exact ⟨known, meets⟩
    · exact sound.ended ending earlier

/-- Every step of a sound pool leaves it sound, in a related world. -/
theorem Sound.step
    {pool after : Pool World Job Request Answer Error Value}
    {action : PoolAction Job}
    (cooperates :
      service.Cooperates holds related received permits returns raises)
    (sound :
      pool.Sound service holds related received permits returns raises)
    (steps : PoolStep service pool action after) :
    after.Sound service holds related received permits returns raises ∧
      related pool.world after.world := by
  cases steps with
  | arrive job free =>
      obtain ⟨stillHolds, grew, known⟩ :=
        cooperates.arrival job sound.stands
      exact
        ⟨sound.goesOn cooperates grew stillHolds known
            (cooperates.keeps stillHolds known),
          grew⟩
  | serve asking serves =>
      obtain ⟨known, keeps⟩ := sound.inFlight asking
      obtain ⟨permitted, continues⟩ :=
        keeps.served ⟨cooperates.reflexive _, sound.stands⟩ serves
      obtain ⟨stillHolds, grew⟩ :=
        cooperates.serving sound.stands known permitted serves
      exact
        ⟨sound.goesOn cooperates grew stillHolds
            (cooperates.receivedStable grew known) continues,
          grew⟩
  | returned done =>
      obtain ⟨known, keeps⟩ := sound.inFlight done
      exact ⟨sound.ends known keeps.returned, cooperates.reflexive _⟩
  | raised failed =>
      obtain ⟨known, keeps⟩ := sound.inFlight failed
      exact
        ⟨sound.ends known (keeps _ _ _ (.raise _ _)).2,
          cooperates.reflexive _⟩
  | died alive =>
      exact
        ⟨sound.ends (sound.inFlight alive).1 trivial,
          cooperates.reflexive _⟩
  | other changes =>
      obtain ⟨stillHolds, grew⟩ := cooperates.elsewhere sound.stands changes
      exact ⟨sound.moved cooperates grew stillHolds, grew⟩

/-- Whatever happens to a sound pool, its world stays related to itself. -/
theorem Sound.leads
    {initial : World → Prop}
    {pool later : Pool World Job Request Answer Error Value}
    (cooperates :
      service.Cooperates holds related received permits returns raises)
    (sound :
      pool.Sound service holds related received permits returns raises)
    (leads : (pools service initial).Leads pool later) :
    later.Sound service holds related received permits returns raises ∧
      related pool.world later.world := by
  refine
    leads.induct
      (fun start final =>
        start.Sound service holds related received permits returns
            raises →
          final.Sound service holds related received permits returns
              raises ∧
            related start.world final.world)
      (fun state stateSound => ⟨stateSound, cooperates.reflexive _⟩) ?_
      sound
  intro start middle final action earlier last startSound
  obtain ⟨middleSound, grew⟩ := earlier startSound
  obtain ⟨finalSound, grewMore⟩ := middleSound.step cooperates last
  exact ⟨finalSound, cooperates.transitive grew grewMore⟩

/-- Pools whose programs cooperate are sound, however they are interleaved. -/
theorem sound_of_reachable
    {initial : World → Prop}
    {pool : Pool World Job Request Answer Error Value}
    (cooperates :
      service.Cooperates holds related received permits returns raises)
    (begins : ∀ {world}, initial world → holds world)
    (reached : (pools service initial).Reachable pool) :
    pool.Sound service holds related received permits returns raises := by
  refine reached.invariant ?_ ?_
  · rintro state ⟨world, starts, rfl⟩
    refine ⟨begins starts, ?_, ?_⟩
    · intro who job program flying
      cases flying
    · intro ending member
      cases member
  · intro before action after sound steps
    exact (sound.step cooperates steps).1

end Pool

/-- A move of a pool whose requests and others are computed. -/
inductive PoolMove (Job : Type z) (Other : Type w) where
  | arrive (who : Nat) (job : Job)
  | serve (who : Nat)
  | finish (who : Nat)
  | other (other : Other)

namespace Pool

section Computed

variable {Other : Type w}
variable (service : Service World Job Request Answer Error Value)
variable
  (serve : World → (request : Request) → Option (Answer request × World))
variable (write : Other → World → Option World)

/-- What a move leads to, if it may be made. -/
def act
    (pool : Pool World Job Request Answer Error Value) :
    PoolMove Job Other →
      Option (Pool World Job Request Answer Error Value)
  | .arrive who job =>
      match pool.inFlight who with
      | none =>
          some
            (pool.goesOn (service.arrives job pool.world) who job
              (service.begins job))
      | some _ => none
  | .serve who =>
      match pool.inFlight who with
      | some (job, .ask request resume) =>
          (serve pool.world request).map fun served =>
            pool.goesOn served.2 who job (resume served.1)
      | _ => none
  | .finish who =>
      match pool.inFlight who with
      | some (job, .done value) =>
          some (pool.ends who job (.returned value))
      | some (job, .raise error) =>
          some (pool.ends who job (.raised error))
      | _ => none
  | .other other =>
      (write other pool.world).map fun after => { pool with world := after }

variable {service serve write}

/-- A computed move is a step. -/
theorem leads_of_act
    {initial : World → Prop}
    {pool after : Pool World Job Request Answer Error Value}
    {move : PoolMove Job Other}
    (serves :
      ∀ world request answer served,
        serve world request = some (answer, served) →
        service.serves world request answer served)
    (writes :
      ∀ other world after,
        write other world = some after → service.others world after)
    (acted : pool.act service serve write move = some after) :
    (pools service initial).Leads pool after := by
  cases move with
  | arrive who job =>
      cases flying : pool.inFlight who with
      | none =>
          simp only [act, flying, Option.some.injEq] at acted
          subst acted
          exact .single (PoolStep.arrive job flying)
      | some other =>
          simp [act, flying] at acted
  | serve who =>
      cases flying : pool.inFlight who with
      | none =>
          simp [act, flying] at acted
      | some entry =>
          obtain ⟨job, program⟩ := entry
          cases program with
          | done value =>
              simp [act, flying] at acted
          | raise error =>
              simp [act, flying] at acted
          | ask request resume =>
              simp only [act, flying, Option.map_eq_some_iff] at acted
              obtain ⟨⟨answer, served⟩, answered, rfl⟩ := acted
              exact
                .single
                  (PoolStep.serve flying
                    (serves _ _ _ _ answered))
  | finish who =>
      cases flying : pool.inFlight who with
      | none =>
          simp [act, flying] at acted
      | some entry =>
          obtain ⟨job, program⟩ := entry
          cases program with
          | done value =>
              simp only [act, flying, Option.some.injEq] at acted
              subst acted
              exact .single (PoolStep.returned flying)
          | raise error =>
              simp only [act, flying, Option.some.injEq] at acted
              subst acted
              exact .single (PoolStep.raised flying)
          | ask request resume =>
              simp [act, flying] at acted
  | other other =>
      simp only [act, Option.map_eq_some_iff] at acted
      obtain ⟨later, written, rfl⟩ := acted
      exact .single (PoolStep.other (writes _ _ _ written))

/-- Computed moves, one after the other, are a path. -/
theorem leads_of_acts
    {initial : World → Prop}
    {moves : List (PoolMove Job Other)}
    {pool after : Pool World Job Request Answer Error Value}
    (serves :
      ∀ world request answer served,
        serve world request = some (answer, served) →
        service.serves world request answer served)
    (writes :
      ∀ other world after,
        write other world = some after → service.others world after)
    (acted : moves.foldlM (act service serve write) pool = some after) :
    (pools service initial).Leads pool after := by
  induction moves generalizing pool with
  | nil =>
      cases acted
      exact .refl _
  | cons move rest inductionHypothesis =>
      obtain ⟨middle, first, others⟩ := Option.bind_eq_some_iff.mp acted
      exact
        (leads_of_act serves writes first).trans
          (inductionHypothesis others)

end Computed

end Pool

end Program
