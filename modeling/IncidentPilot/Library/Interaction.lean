/-!
# Programs that talk to a shared world

A program asks requests, one after the other, of a world that others change as
well.  Each request may be served in several ways, among them the ways in which
a network fails, and the program may die before any of them.  `Ensures` is the
weakest precondition of such a program, with one rule for each construct.
`Keeps` is the judgement most proofs need: which requests are asked of which
worlds, and what holds at the end.
-/

/-- A program that asks requests, and returns a value or raises an error. -/
inductive Program
    (Request : Type u)
    (Answer : Request → Type v)
    (Error : Type w)
    (Value : Type x) where
  | done (value : Value)
  | raise (error : Error)
  | ask
      (request : Request)
      (resume : Answer request → Program Request Answer Error Value)

namespace Program

variable {Request : Type u} {Answer : Request → Type v}
variable {Error : Type w} {Value Next : Type x}

/-- One program and then another. -/
def bind
    (next : Value → Program Request Answer Error Next) :
    Program Request Answer Error Value →
      Program Request Answer Error Next
  | done value => next value
  | raise error => raise error
  | ask request resume =>
      ask request fun answer => bind next (resume answer)

instance : Monad (Program Request Answer Error) where
  pure := done
  bind program next := bind next program

/-- The program that asks one request. -/
def request
    (request : Request) :
    Program Request Answer Error (Answer request) :=
  ask request done

/-- `try` with a handler for every error. -/
def handle
    (handler : Error → Program Request Answer Error Value) :
    Program Request Answer Error Value →
      Program Request Answer Error Value
  | done value => done value
  | raise error => handler error
  | ask request resume =>
      ask request fun answer => handle handler (resume answer)

/-- How a program ends. -/
inductive Outcome (Error : Type w) (Value : Type x) where
  | returned (value : Value)
  | raised (error : Error)
  | died

/-- Who else is there, and how requests are served. -/
structure Surroundings
    (World : Type y)
    (Request : Type u)
    (Answer : Request → Type v) where
  serves :
    World → (request : Request) → Answer request → World → Prop
  interferes : World → World → Prop

/-- One request, the world it was served in, and its answer. -/
structure Exchange
    (World : Type y)
    (Request : Type u)
    (Answer : Request → Type v) where
  before : World
  request : Request
  answer : Answer request

variable {World : Type y}

/-- The executions of a program from a world, with what they exchanged. -/
inductive Execution
    (surroundings : Surroundings World Request Answer) :
    Program Request Answer Error Value →
      World →
      List (Exchange World Request Answer) →
      Outcome Error Value →
      World →
      Prop where
  | done (value : Value) (world : World) :
      Execution surroundings (done value) world [] (.returned value) world
  | raise (error : Error) (world : World) :
      Execution surroundings (raise error) world [] (.raised error) world
  | died
      (request : Request)
      (resume : Answer request → Program Request Answer Error Value)
      (world : World) :
      Execution surroundings (ask request resume) world [] .died world
  | ask
      {request : Request}
      {resume : Answer request → Program Request Answer Error Value}
      {world disturbed served final : World}
      {answer : Answer request}
      {exchanges : List (Exchange World Request Answer)}
      {outcome : Outcome Error Value}
      (interfered : surroundings.interferes world disturbed)
      (serves : surroundings.serves disturbed request answer served)
      (rest :
        Execution surroundings (resume answer) served exchanges outcome
          final) :
      Execution surroundings (ask request resume) world
        (⟨disturbed, request, answer⟩ :: exchanges) outcome final

/-- Every execution from a world meets the postcondition. -/
def Ensures
    (surroundings : Surroundings World Request Answer)
    (program : Program Request Answer Error Value)
    (world : World)
    (post :
      List (Exchange World Request Answer) →
        Outcome Error Value → World → Prop) : Prop :=
  ∀ exchanges outcome final,
    Execution surroundings program world exchanges outcome final →
      post exchanges outcome final

namespace Ensures

variable {surroundings : Surroundings World Request Answer}
variable {world : World}

/-- Postconditions may be weakened. -/
theorem mono
    {program : Program Request Answer Error Value}
    {strong weak :
      List (Exchange World Request Answer) →
        Outcome Error Value → World → Prop}
    (ensures : Ensures surroundings program world strong)
    (weaker :
      ∀ exchanges outcome final,
        strong exchanges outcome final → weak exchanges outcome final) :
    Ensures surroundings program world weak :=
  fun exchanges outcome final execution =>
    weaker _ _ _ (ensures exchanges outcome final execution)

/-- The rule for a value. -/
theorem done
    {value : Value}
    {post :
      List (Exchange World Request Answer) →
        Outcome Error Value → World → Prop}
    (holds : post [] (.returned value) world) :
    Ensures surroundings (Program.done value) world post := by
  intro exchanges outcome final execution
  cases execution with
  | done =>
      exact holds

/-- The rule for an error. -/
theorem raise
    {error : Error}
    {post :
      List (Exchange World Request Answer) →
        Outcome Error Value → World → Prop}
    (holds : post [] (.raised error) world) :
    Ensures surroundings (Program.raise error) world post := by
  intro exchanges outcome final execution
  cases execution with
  | raise =>
      exact holds

/-- The rule for a request. -/
theorem ask
    {request : Request}
    {resume : Answer request → Program Request Answer Error Value}
    {post :
      List (Exchange World Request Answer) →
        Outcome Error Value → World → Prop}
    (dies : post [] .died world)
    (goesOn :
      ∀ disturbed answer served,
        surroundings.interferes world disturbed →
        surroundings.serves disturbed request answer served →
        Ensures surroundings (resume answer) served
          fun exchanges outcome final =>
            post (⟨disturbed, request, answer⟩ :: exchanges) outcome
              final) :
    Ensures surroundings (Program.ask request resume) world post := by
  intro exchanges outcome final execution
  cases execution with
  | died =>
      exact dies
  | ask interfered serves rest =>
      exact goesOn _ _ _ interfered serves _ _ _ rest

/-- The rule for one program and then another. -/
theorem bind
    {program : Program Request Answer Error Value}
    {next : Value → Program Request Answer Error Next}
    {post :
      List (Exchange World Request Answer) →
        Outcome Error Next → World → Prop}
    (ensures :
      Ensures surroundings program world
        fun earlier outcome middle =>
          match outcome with
          | .returned value =>
              Ensures surroundings (next value) middle
                fun later outcome final =>
                  post (earlier ++ later) outcome final
          | .raised error => post earlier (.raised error) middle
          | .died => post earlier .died middle) :
    Ensures surroundings (program >>= next) world post := by
  change Ensures surroundings (Program.bind next program) world post
  induction program generalizing world post with
  | done value =>
      exact ensures _ _ _ (.done value world)
  | raise error =>
      exact Ensures.raise (ensures _ _ _ (.raise error world))
  | ask request resume inductionHypothesis =>
      refine Ensures.ask (ensures _ _ _ (.died request resume world)) ?_
      intro disturbed answer served interfered serves
      apply inductionHypothesis
      intro exchanges outcome final execution
      exact ensures _ _ _ (.ask interfered serves execution)

/-- The rule for `try`. -/
theorem handle
    {program : Program Request Answer Error Value}
    {handler : Error → Program Request Answer Error Value}
    {post :
      List (Exchange World Request Answer) →
        Outcome Error Value → World → Prop}
    (ensures :
      Ensures surroundings program world
        fun earlier outcome middle =>
          match outcome with
          | .returned value => post earlier (.returned value) middle
          | .raised error =>
              Ensures surroundings (handler error) middle
                fun later outcome final =>
                  post (earlier ++ later) outcome final
          | .died => post earlier .died middle) :
    Ensures surroundings (program.handle handler) world post := by
  induction program generalizing world post with
  | done value =>
      exact Ensures.done (ensures _ _ _ (.done value world))
  | raise error =>
      exact ensures _ _ _ (.raise error world)
  | ask request resume inductionHypothesis =>
      refine Ensures.ask (ensures _ _ _ (.died request resume world)) ?_
      intro disturbed answer served interfered serves
      apply inductionHypothesis
      intro exchanges outcome final execution
      exact ensures _ _ _ (.ask interfered serves execution)

end Ensures

/-- Requests a restriction of the surroundings also serves are served by it. -/
theorem Execution.restrict
    {surroundings : Surroundings World Request Answer}
    {program : Program Request Answer Error Value}
    {world final : World}
    {exchanges : List (Exchange World Request Answer)}
    {outcome : Outcome Error Value}
    {narrow :
      World → (request : Request) → Answer request → World → Prop}
    (execution :
      Execution surroundings program world exchanges outcome final)
    (narrows :
      ∀ exchange ∈ exchanges, ∀ served,
        surroundings.serves exchange.before exchange.request
            exchange.answer served →
          narrow exchange.before exchange.request exchange.answer
            served) :
    Execution ⟨narrow, surroundings.interferes⟩ program world exchanges
      outcome final := by
  induction execution with
  | done value world =>
      exact .done value world
  | raise error world =>
      exact .raise error world
  | died request resume world =>
      exact .died request resume world
  | ask interfered serves rest inductionHypothesis =>
      exact
        .ask interfered
          (narrows _ List.mem_cons_self _ serves)
          (inductionHypothesis fun exchange member =>
            narrows exchange (List.mem_cons_of_mem _ member))

/-- What interference and the requests asked preserve holds at the end. -/
theorem Execution.preserves
    {surroundings : Surroundings World Request Answer}
    {program : Program Request Answer Error Value}
    {world final : World}
    {exchanges : List (Exchange World Request Answer)}
    {outcome : Outcome Error Value}
    {permits : World → Request → Prop}
    {invariant : World → Prop}
    (execution :
      Execution surroundings program world exchanges outcome final)
    (interference :
      ∀ before after,
        invariant before →
        surroundings.interferes before after →
        invariant after)
    (service :
      ∀ before request answer after,
        invariant before →
        permits before request →
        surroundings.serves before request answer after →
        invariant after)
    (permitted :
      ∀ exchange ∈ exchanges, permits exchange.before exchange.request)
    (holds : invariant world) :
    invariant final := by
  induction execution with
  | done value world =>
      exact holds
  | raise error world =>
      exact holds
  | died request resume world =>
      exact holds
  | ask interfered serves rest inductionHypothesis =>
      apply inductionHypothesis
      · intro exchange member
        exact permitted exchange (List.mem_cons_of_mem _ member)
      · exact
          service _ _ _ _ (interference _ _ holds interfered)
            (permitted _ List.mem_cons_self) serves

/--
Every request of an execution is permitted in the world that serves it, and
values and errors meet their postconditions.
-/
def Keeps
    (surroundings : Surroundings World Request Answer)
    (permits : World → Request → Prop)
    (program : Program Request Answer Error Value)
    (world : World)
    (returns : Value → World → Prop)
    (raises : Error → World → Prop) : Prop :=
  Ensures surroundings program world fun exchanges outcome final =>
    (∀ exchange ∈ exchanges,
        permits exchange.before exchange.request) ∧
      match outcome with
      | .returned value => returns value final
      | .raised error => raises error final
      | .died => True

namespace Keeps

variable {surroundings : Surroundings World Request Answer}
variable {permits : World → Request → Prop}
variable {world : World}
variable {returns : Value → World → Prop}
variable {raises : Error → World → Prop}

/-- The rule for a value. -/
theorem done
    {value : Value}
    (holds : returns value world) :
    Keeps surroundings permits (.done value) world returns raises :=
  Ensures.done ⟨by simp, holds⟩

/-- The rule for an error. -/
theorem raise
    {error : Error}
    (holds : raises error world) :
    Keeps surroundings permits (.raise error) world returns raises :=
  Ensures.raise ⟨by simp, holds⟩

/-- The rule for a request. -/
theorem ask
    {request : Request}
    {resume : Answer request → Program Request Answer Error Value}
    (goesOn :
      ∀ disturbed,
        surroundings.interferes world disturbed →
        permits disturbed request ∧
          ∀ answer served,
            surroundings.serves disturbed request answer served →
            Keeps surroundings permits (resume answer) served returns
              raises) :
    Keeps surroundings permits (.ask request resume) world returns
      raises := by
  refine Ensures.ask ⟨by simp, trivial⟩ ?_
  intro disturbed answer served interfered serves
  obtain ⟨permitted, continues⟩ := goesOn disturbed interfered
  refine (continues answer served serves).mono ?_
  rintro exchanges outcome final ⟨allPermitted, holds⟩
  exact ⟨List.forall_mem_cons.mpr ⟨permitted, allPermitted⟩, holds⟩

/-- The rule for a request whose answer is the value. -/
theorem request
    {request : Request}
    {returns : Answer request → World → Prop}
    (serves :
      ∀ disturbed,
        surroundings.interferes world disturbed →
        permits disturbed request ∧
          ∀ answer served,
            surroundings.serves disturbed request answer served →
            returns answer served) :
    Keeps surroundings permits (Program.request request) world returns
      raises :=
  ask fun disturbed interfered =>
    ⟨(serves disturbed interfered).1,
      fun answer served serving =>
        done ((serves disturbed interfered).2 answer served serving)⟩

/-- Postconditions and permissions may be weakened. -/
theorem mono
    {program : Program Request Answer Error Value}
    {weakPermits : World → Request → Prop}
    {weakReturns : Value → World → Prop}
    {weakRaises : Error → World → Prop}
    (keeps :
      Keeps surroundings permits program world returns raises)
    (permitted : ∀ world request,
      permits world request → weakPermits world request)
    (returned : ∀ value final,
      returns value final → weakReturns value final)
    (raised : ∀ error final,
      raises error final → weakRaises error final) :
    Keeps surroundings weakPermits program world weakReturns
      weakRaises := by
  refine Ensures.mono keeps ?_
  rintro exchanges outcome final ⟨allPermitted, holds⟩
  refine
    ⟨fun exchange member =>
      permitted _ _ (allPermitted exchange member), ?_⟩
  cases outcome with
  | returned value =>
      exact returned value final holds
  | raised error =>
      exact raised error final holds
  | died =>
      trivial

/-- The rule for one program and then another. -/
theorem bind
    {program : Program Request Answer Error Value}
    {next : Value → Program Request Answer Error Next}
    {returns : Next → World → Prop}
    (keeps :
      Keeps surroundings permits program world
        (fun value middle =>
          Keeps surroundings permits (next value) middle returns raises)
        raises) :
    Keeps surroundings permits (program >>= next) world returns
      raises := by
  refine Ensures.bind (Ensures.mono keeps ?_)
  rintro earlier outcome middle ⟨earlierPermitted, holds⟩
  cases outcome with
  | returned value =>
      refine Ensures.mono holds ?_
      rintro later outcome final ⟨laterPermitted, ends⟩
      exact
        ⟨List.forall_mem_append.mpr ⟨earlierPermitted, laterPermitted⟩,
          ends⟩
  | raised error =>
      exact ⟨earlierPermitted, holds⟩
  | died =>
      exact ⟨earlierPermitted, trivial⟩

/-- The rule for `try`. -/
theorem handle
    {program : Program Request Answer Error Value}
    {handler : Error → Program Request Answer Error Value}
    (keeps :
      Keeps surroundings permits program world returns
        fun error middle =>
          Keeps surroundings permits (handler error) middle returns
            raises) :
    Keeps surroundings permits (program.handle handler) world returns
      raises := by
  refine Ensures.handle (Ensures.mono keeps ?_)
  rintro earlier outcome middle ⟨earlierPermitted, holds⟩
  cases outcome with
  | returned value =>
      exact ⟨earlierPermitted, holds⟩
  | raised error =>
      refine Ensures.mono holds ?_
      rintro later outcome final ⟨laterPermitted, ends⟩
      exact
        ⟨List.forall_mem_append.mpr ⟨earlierPermitted, laterPermitted⟩,
          ends⟩
  | died =>
      exact ⟨earlierPermitted, trivial⟩

/-- What the permitted requests preserve may be added at the end. -/
theorem frame
    {program : Program Request Answer Error Value}
    {invariant : World → Prop}
    (keeps :
      Keeps surroundings permits program world returns raises)
    (interference :
      ∀ before after,
        invariant before →
        surroundings.interferes before after →
        invariant after)
    (service :
      ∀ before request answer after,
        invariant before →
        permits before request →
        surroundings.serves before request answer after →
        invariant after)
    (holds : invariant world) :
    Keeps surroundings permits program world
      (fun value final => returns value final ∧ invariant final)
      (fun error final => raises error final ∧ invariant final) := by
  intro exchanges outcome final execution
  obtain ⟨permitted, ends⟩ := keeps _ _ _ execution
  have preserved :=
    execution.preserves interference service permitted holds
  refine ⟨permitted, ?_⟩
  cases outcome with
  | returned value =>
      exact ⟨ends, preserved⟩
  | raised error =>
      exact ⟨ends, preserved⟩
  | died =>
      trivial

/-- A value that was returned meets the postcondition. -/
theorem returned
    {value : Value}
    (keeps :
      Keeps surroundings permits (.done value) world returns raises) :
    returns value world :=
  (keeps _ _ _ (.done value world)).2

/-- Every program has an execution, if only the one that dies at once. -/
theorem exists_execution
    (surroundings : Surroundings World Request Answer)
    (program : Program Request Answer Error Value)
    (world : World) :
    ∃ outcome,
      Execution surroundings program world [] outcome world := by
  cases program with
  | done value =>
      exact ⟨_, .done value world⟩
  | raise error =>
      exact ⟨_, .raise error world⟩
  | ask request resume =>
      exact ⟨_, .died request resume world⟩

/-- A request that is served was permitted, and the rest keeps going. -/
theorem served
    {request : Request}
    {resume : Answer request → Program Request Answer Error Value}
    {after : World}
    {answer : Answer request}
    (keeps :
      Keeps surroundings permits (.ask request resume) world returns
        raises)
    (undisturbed : surroundings.interferes world world)
    (serves : surroundings.serves world request answer after) :
    permits world request ∧
      Keeps surroundings permits (resume answer) after returns
        raises := by
  constructor
  · obtain ⟨outcome, execution⟩ :=
      exists_execution surroundings (resume answer) after
    exact
      (keeps _ _ _ (.ask undisturbed serves execution)).1 _
        List.mem_cons_self
  · intro exchanges outcome final execution
    obtain ⟨permitted, ends⟩ :=
      keeps _ _ _ (.ask undisturbed serves execution)
    exact
      ⟨fun exchange member =>
        permitted exchange (List.mem_cons_of_mem _ member), ends⟩

/-- A world whose interference was to be expected before keeps what is kept. -/
theorem disturbed
    {program : Program Request Answer Error Value}
    {after : World}
    (keeps :
      Keeps surroundings permits program world returns raises)
    (absorbed :
      ∀ later,
        surroundings.interferes after later →
        surroundings.interferes world later)
    (stableReturns :
      ∀ value, returns value world → returns value after)
    (stableRaises :
      ∀ error, raises error world → raises error after) :
    Keeps surroundings permits program after returns raises := by
  cases program with
  | done value =>
      exact .done (stableReturns value keeps.returned)
  | raise error =>
      exact
        .raise
          (stableRaises error (keeps _ _ _ (.raise error world)).2)
  | ask request resume =>
      intro exchanges outcome final execution
      cases execution with
      | died =>
          exact ⟨by simp, trivial⟩
      | ask again serves rest =>
          exact keeps _ _ _ (.ask (absorbed _ again) serves rest)

end Keeps

/-- Every request a program can ever ask is of a kind. -/
def Asks (kind : Request → Prop) :
    Program Request Answer Error Value → Prop
  | done _ => True
  | raise _ => True
  | ask request resume =>
      kind request ∧ ∀ answer, Asks kind (resume answer)

namespace Asks

variable {kind : Request → Prop}

/-- One program and then another. -/
theorem bind
    {program : Program Request Answer Error Value}
    {next : Value → Program Request Answer Error Next}
    (first : program.Asks kind)
    (second : ∀ value, (next value).Asks kind) :
    (program >>= next).Asks kind := by
  change (Program.bind next program).Asks kind
  induction program with
  | done value =>
      exact second value
  | raise error =>
      trivial
  | ask request resume inductionHypothesis =>
      exact
        ⟨first.1, fun answer =>
          inductionHypothesis answer (first.2 answer)⟩

/-- A kind may be widened. -/
theorem mono
    {program : Program Request Answer Error Value}
    {wider : Request → Prop}
    (asks : program.Asks kind)
    (widens : ∀ request, kind request → wider request) :
    program.Asks wider := by
  induction program with
  | done value =>
      trivial
  | raise error =>
      trivial
  | ask request resume inductionHypothesis =>
      exact
        ⟨widens request asks.1, fun answer =>
          inductionHypothesis answer (asks.2 answer)⟩

/-- What a program never asks for, it asks for in no world. -/
theorem keeps
    {surroundings : Surroundings World Request Answer}
    {program : Program Request Answer Error Value}
    (asks : program.Asks kind)
    (world : World) :
    Keeps surroundings (fun _ => kind) program world
      (fun _ _ => True) (fun _ _ => True) := by
  induction program generalizing world with
  | done value =>
      exact .done trivial
  | raise error =>
      exact .raise trivial
  | ask request resume inductionHypothesis =>
      exact
        .ask fun disturbed _ =>
          ⟨asks.1, fun answer served _ =>
            inductionHypothesis answer (asks.2 answer) served⟩

end Asks

/-- Every value a program can return, whatever the answers, is such a value. -/
def Always (holds : Value → Prop) :
    Program Request Answer Error Value → Prop
  | done value => holds value
  | raise _ => True
  | ask _ resume => ∀ answer, Always holds (resume answer)

namespace Always

variable {holds : Value → Prop}

/-- The rule for one program and then another. -/
theorem bind
    {program : Program Request Answer Error Value}
    {next : Value → Program Request Answer Error Next}
    {holds : Next → Prop}
    (always : program.Always fun value => (next value).Always holds) :
    (program >>= next).Always holds := by
  change (Program.bind next program).Always holds
  induction program with
  | done value =>
      exact always
  | raise error =>
      trivial
  | ask request resume inductionHypothesis =>
      exact fun answer => inductionHypothesis answer (always answer)

/-- What is always returned may be weakened. -/
theorem mono
    {program : Program Request Answer Error Value}
    {weaker : Value → Prop}
    (always : program.Always holds)
    (weakens : ∀ value, holds value → weaker value) :
    program.Always weaker := by
  induction program with
  | done value =>
      exact weakens value always
  | raise error =>
      trivial
  | ask request resume inductionHypothesis =>
      exact fun answer => inductionHypothesis answer (always answer)

/-- What is always returned and what is always returned. -/
theorem and
    {program : Program Request Answer Error Value}
    {also : Value → Prop}
    (first : program.Always holds)
    (second : program.Always also) :
    program.Always fun value => holds value ∧ also value := by
  induction program with
  | done value =>
      exact ⟨first, second⟩
  | raise error =>
      trivial
  | ask request resume inductionHypothesis =>
      exact fun answer =>
        inductionHypothesis answer (first answer) (second answer)

/-- What is always returned is returned in every world. -/
theorem keeps
    {surroundings : Surroundings World Request Answer}
    {program : Program Request Answer Error Value}
    (always : program.Always holds)
    (world : World) :
    Keeps surroundings (fun _ _ => True) program world
      (fun value _ => holds value) (fun _ _ => True) := by
  induction program generalizing world with
  | done value =>
      exact .done always
  | raise error =>
      exact .raise trivial
  | ask request resume inductionHypothesis =>
      exact
        .ask fun disturbed _ =>
          ⟨trivial, fun answer served _ =>
            inductionHypothesis answer (always answer) served⟩

/-- Of every value, nothing is claimed. -/
theorem trivially
    (program : Program Request Answer Error Value) :
    program.Always fun _ => True := by
  induction program with
  | done value =>
      trivial
  | raise error =>
      trivial
  | ask request resume inductionHypothesis =>
      exact inductionHypothesis

end Always

/-- What a program ends with when every request has one answer. -/
def evaluate
    (answers : (request : Request) → Answer request) :
    Program Request Answer Error Value → Outcome Error Value
  | done value => .returned value
  | raise error => .raised error
  | ask request resume => evaluate answers (resume (answers request))

/-- One program and then another, when every request has one answer. -/
theorem evaluate_bind
    (answers : (request : Request) → Answer request)
    (program : Program Request Answer Error Value)
    (next : Value → Program Request Answer Error Next) :
    (program >>= next).evaluate answers =
      match program.evaluate answers with
      | .returned value => (next value).evaluate answers
      | .raised error => .raised error
      | .died => .died := by
  change (Program.bind next program).evaluate answers = _
  induction program with
  | done value =>
      rfl
  | raise error =>
      rfl
  | ask request resume inductionHypothesis =>
      exact inductionHypothesis _

/-- Every request is of a kind, and a program raises when one has a fault. -/
def Strict
    (kind : Request → Prop)
    (fault : (request : Request) → Answer request → Prop) :
    Program Request Answer Error Value → Prop
  | done _ => True
  | raise _ => True
  | ask request resume =>
      kind request ∧
        (∀ answer,
          fault request answer → ∃ error, resume answer = raise error) ∧
        ∀ answer, Strict kind fault (resume answer)

namespace Strict

variable {kind : Request → Prop}
variable {fault : (request : Request) → Answer request → Prop}

/-- One program and then another. -/
theorem bind
    {program : Program Request Answer Error Value}
    {next : Value → Program Request Answer Error Next}
    (first : program.Strict kind fault)
    (second : ∀ value, (next value).Strict kind fault) :
    (program >>= next).Strict kind fault := by
  change (Program.bind next program).Strict kind fault
  induction program with
  | done value =>
      exact second value
  | raise error =>
      trivial
  | ask request resume inductionHypothesis =>
      obtain ⟨ofKind, raises, rest⟩ := first
      refine ⟨ofKind, fun answer faulty => ?_, fun answer =>
        inductionHypothesis answer (rest answer)⟩
      obtain ⟨error, raised⟩ := raises answer faulty
      exact ⟨error, by simp only [raised]; rfl⟩

/--
Where requests of a kind have one answer or a fault, what a strict program
returns is what it evaluates to.
-/
theorem returned
    {surroundings : Surroundings World Request Answer}
    {answers : (request : Request) → Answer request}
    {program : Program Request Answer Error Value}
    {world final : World}
    {exchanges : List (Exchange World Request Answer)}
    {value : Value}
    (strict : program.Strict kind fault)
    (determined :
      ∀ before request answer after,
        kind request →
        surroundings.serves before request answer after →
        answer = answers request ∨ fault request answer)
    (execution :
      Execution surroundings program world exchanges (.returned value)
        final) :
    program.evaluate answers = .returned value := by
  induction program generalizing world exchanges with
  | done result =>
      cases execution
      rfl
  | raise error =>
      cases execution
  | ask request resume inductionHypothesis =>
      obtain ⟨ofKind, raises, rest⟩ := strict
      cases execution with
      | ask interfered serves continued =>
          obtain rfl | faulty := determined _ _ _ _ ofKind serves
          · exact inductionHypothesis _ (rest _) continued
          · obtain ⟨error, raised⟩ := raises _ faulty
            rw [raised] at continued
            cases continued

/-- Where requests of a kind have one answer, programs of it evaluate. -/
theorem evaluates
    {surroundings : Surroundings World Request Answer}
    {answers : (request : Request) → Answer request}
    {program : Program Request Answer Error Value}
    {world final : World}
    {exchanges : List (Exchange World Request Answer)}
    {outcome : Outcome Error Value}
    (strict : program.Strict kind fault)
    (determined :
      ∀ before request answer after,
        kind request →
        surroundings.serves before request answer after →
        answer = answers request)
    (execution :
      Execution surroundings program world exchanges outcome final) :
    outcome = .died ∨ outcome = program.evaluate answers := by
  induction program generalizing world exchanges with
  | done result =>
      cases execution
      exact .inr rfl
  | raise error =>
      cases execution
      exact .inr rfl
  | ask request resume inductionHypothesis =>
      cases execution with
      | died =>
          exact .inl rfl
      | ask interfered serves continued =>
          obtain rfl := determined _ _ _ _ strict.1 serves
          exact inductionHypothesis _ (strict.2.2 _) continued

/-- The requests of a strict program are of its kind. -/
theorem asks
    {program : Program Request Answer Error Value}
    (strict : program.Strict kind fault) :
    program.Asks kind := by
  induction program with
  | done value =>
      trivial
  | raise error =>
      trivial
  | ask request resume inductionHypothesis =>
      exact
        ⟨strict.1, fun answer =>
          inductionHypothesis answer (strict.2.2 answer)⟩

/-- What a strict program returns, and what it asks for. -/
theorem keeps_returned
    {surroundings : Surroundings World Request Answer}
    {answers : (request : Request) → Answer request}
    {program : Program Request Answer Error Value}
    (strict : program.Strict kind fault)
    (determined :
      ∀ before request answer after,
        kind request →
        surroundings.serves before request answer after →
        answer = answers request ∨ fault request answer)
    (world : World) :
    Keeps surroundings (fun _ => kind) program world
      (fun value _ => program.evaluate answers = .returned value)
      (fun _ _ => True) := by
  intro exchanges outcome final execution
  obtain ⟨permitted, -⟩ := strict.asks.keeps world _ _ _ execution
  refine ⟨permitted, ?_⟩
  cases outcome with
  | returned value =>
      exact strict.returned determined execution
  | raised error =>
      trivial
  | died =>
      trivial

/-- A program that evaluates to a value returns it, unless it dies. -/
theorem keeps_evaluate
    {surroundings : Surroundings World Request Answer}
    {answers : (request : Request) → Answer request}
    {program : Program Request Answer Error Value}
    {value : Value}
    (strict : program.Strict kind fault)
    (determined :
      ∀ before request answer after,
        kind request →
        surroundings.serves before request answer after →
        answer = answers request)
    (evaluates : program.evaluate answers = .returned value)
    (world : World) :
    Keeps surroundings (fun _ => kind) program world
      (fun returned _ => returned = value) (fun _ _ => False) := by
  intro exchanges outcome final execution
  obtain ⟨permitted, -⟩ := strict.asks.keeps world _ _ _ execution
  refine ⟨permitted, ?_⟩
  have ends := strict.evaluates determined execution
  rw [evaluates] at ends
  obtain rfl | rfl := ends
  · trivial
  · rfl

end Strict

/-- A program alone with a world that answers by a function, if it answers. -/
def run
    (serve :
      World → (request : Request) → Option (Answer request × World)) :
    Program Request Answer Error Value →
      World →
      Option (Outcome Error Value × World)
  | done value, world => some (.returned value, world)
  | raise error, world => some (.raised error, world)
  | ask request resume, world =>
      match serve world request with
      | none => none
      | some (answer, served) => run serve (resume answer) served

/-- What a program does alone is one of its executions. -/
theorem execution_of_run
    {surroundings : Surroundings World Request Answer}
    {serve :
      World → (request : Request) → Option (Answer request × World)}
    {program : Program Request Answer Error Value}
    {world final : World}
    {outcome : Outcome Error Value}
    (undisturbed : ∀ world, surroundings.interferes world world)
    (serves :
      ∀ world request answer served,
        serve world request = some (answer, served) →
        surroundings.serves world request answer served)
    (ran : program.run serve world = some (outcome, final)) :
    ∃ exchanges,
      Execution surroundings program world exchanges outcome final := by
  induction program generalizing world with
  | done value =>
      cases ran
      exact ⟨[], .done value _⟩
  | raise error =>
      cases ran
      exact ⟨[], .raise error _⟩
  | ask request resume inductionHypothesis =>
      simp only [run] at ran
      split at ran
      · cases ran
      · rename_i answer served answered
        obtain ⟨exchanges, execution⟩ := inductionHypothesis answer ran
        exact
          ⟨_, .ask (undisturbed world)
            (serves world request answer served answered) execution⟩

end Program
