import IncidentPilot.Library.Interaction

/-!
# Programs and what they are answered

A run of a program alone: the requests it asked with the answers it got, and the
value it returned.  `AlwaysUnder` is the judgement for programs that return what
they should when every answer is of an allowed kind.
-/

namespace Program

variable {Request : Type u} {Answer : Request → Type v}
variable {Error : Type w} {Value Next : Type x}

/-- A request with the answer it got. -/
abbrev Answered (Request : Type u) (Answer : Request → Type v) :=
  (request : Request) × Answer request

/-- A program returns a value, having been answered so. -/
inductive Returns :
    Program Request Answer Error Value →
      List (Answered Request Answer) → Value → Prop where
  | done (value : Value) :
      Returns (.done value) [] value
  | ask
      {request : Request}
      {resume : Answer request → Program Request Answer Error Value}
      {answer : Answer request}
      {answered : List (Answered Request Answer)}
      {value : Value}
      (rest : Returns (resume answer) answered value) :
      Returns (.ask request resume) (⟨request, answer⟩ :: answered) value

/-- Every value a program can return when it is answered as allowed. -/
def AlwaysUnder
    (allowed : (request : Request) → Answer request → Prop)
    (holds : Value → Prop) :
    Program Request Answer Error Value → Prop
  | done value => holds value
  | raise _ => True
  | ask request resume =>
      ∀ answer, allowed request answer → AlwaysUnder allowed holds (resume answer)

namespace AlwaysUnder

variable {allowed : (request : Request) → Answer request → Prop}
variable {holds : Value → Prop}

/-- The rule for one program and then another. -/
theorem bind
    {program : Program Request Answer Error Value}
    {next : Value → Program Request Answer Error Next}
    {holds : Next → Prop}
    (always :
      program.AlwaysUnder allowed fun value =>
        (next value).AlwaysUnder allowed holds) :
    (program >>= next).AlwaysUnder allowed holds := by
  change (Program.bind next program).AlwaysUnder allowed holds
  induction program with
  | done value =>
      exact always
  | raise error =>
      trivial
  | ask request resume inductionHypothesis =>
      exact fun answer allows =>
        inductionHypothesis answer (always answer allows)

/-- What is always returned may be weakened. -/
theorem mono
    {program : Program Request Answer Error Value}
    {weaker : Value → Prop}
    (always : program.AlwaysUnder allowed holds)
    (weakens : ∀ value, holds value → weaker value) :
    program.AlwaysUnder allowed weaker := by
  induction program with
  | done value =>
      exact weakens value always
  | raise error =>
      trivial
  | ask request resume inductionHypothesis =>
      exact fun answer allows =>
        inductionHypothesis answer (always answer allows)

/-- What is returned whatever is answered is returned. -/
theorem of_always
    {program : Program Request Answer Error Value}
    (always : program.Always holds) :
    program.AlwaysUnder allowed holds := by
  induction program with
  | done value =>
      exact always
  | raise error =>
      trivial
  | ask request resume inductionHypothesis =>
      exact fun answer _ => inductionHypothesis answer (always answer)

/-- A program that was answered as allowed returned what it should. -/
theorem returned
    {program : Program Request Answer Error Value}
    {answered : List (Answered Request Answer)}
    {value : Value}
    (always : program.AlwaysUnder allowed holds)
    (returns : program.Returns answered value)
    (allows : ∀ exchange ∈ answered, allowed exchange.1 exchange.2) :
    holds value := by
  induction returns with
  | done value =>
      exact always
  | ask rest inductionHypothesis =>
      obtain ⟨first, others⟩ := List.forall_mem_cons.mp allows
      exact inductionHypothesis (always _ first) others

/-- A program that returned, returned what it always returns. -/
theorem returned_of_always
    {program : Program Request Answer Error Value}
    {answered : List (Answered Request Answer)}
    {value : Value}
    (always : program.Always holds)
    (returns : program.Returns answered value) :
    holds value := by
  induction returns with
  | done value =>
      exact always
  | ask rest inductionHypothesis =>
      exact inductionHypothesis (always _)

/-- What is returned when answers are of a kind that is served is returned. -/
theorem keeps
    {World : Type y}
    {surroundings : Surroundings World Request Answer}
    {kind : Request → Prop}
    {program : Program Request Answer Error Value}
    (always : program.AlwaysUnder allowed holds)
    (asks : program.Asks kind)
    (serves :
      ∀ world request answer after,
        surroundings.serves world request answer after →
        allowed request answer)
    (world : World) :
    Keeps surroundings (fun _ => kind) program world
      (fun value _ => holds value) (fun _ _ => True) := by
  induction program generalizing world with
  | done value =>
      exact .done always
  | raise error =>
      exact .raise trivial
  | ask request resume inductionHypothesis =>
      refine .ask fun disturbed _ => ⟨asks.1, ?_⟩
      intro answer served serving
      exact
        inductionHypothesis answer
          (always answer (serves _ _ _ _ serving)) (asks.2 answer)
          served

end AlwaysUnder

/-- A program alone with a world that answers by a function, if it returns. -/
def converse
    {World : Type y}
    (serve :
      World → (request : Request) → Answer request × World) :
    Program Request Answer Error Value →
      World →
      Option (List (Answered Request Answer) × Value × World)
  | done value, world => some ([], value, world)
  | raise _, _ => none
  | ask request resume, world =>
      let served := serve world request
      (converse serve (resume served.1) served.2).map fun ended =>
        (⟨request, served.1⟩ :: ended.1, ended.2)

/-- One program and then another, alone. -/
theorem converse_bind
    {World : Type y}
    (serve :
      World → (request : Request) → Answer request × World)
    (program : Program Request Answer Error Value)
    (next : Value → Program Request Answer Error Next)
    (world : World) :
    (program >>= next).converse serve world =
      (program.converse serve world).bind fun first =>
        ((next first.2.1).converse serve first.2.2).map fun second =>
          (first.1 ++ second.1, second.2) := by
  change (Program.bind next program).converse serve world = _
  induction program generalizing world with
  | done value =>
      simp [Program.bind, converse]
  | raise error =>
      rfl
  | ask request resume inductionHypothesis =>
      simp only [Program.bind, converse, inductionHypothesis]
      cases (resume (serve world request).1).converse serve
          (serve world request).2 with
      | none => rfl
      | some first =>
          simp only [Option.bind_some, Option.map_some]
          cases (next first.2.1).converse serve first.2.2 <;> rfl

/-- What a program returns alone it returns when it is answered so. -/
theorem returns_of_converse
    {World : Type y}
    {serve :
      World → (request : Request) → Answer request × World}
    {program : Program Request Answer Error Value}
    {world after : World}
    {answered : List (Answered Request Answer)}
    {value : Value}
    (conversed :
      program.converse serve world = some (answered, value, after)) :
    program.Returns answered value := by
  induction program generalizing world answered with
  | done result =>
      cases conversed
      exact .done _
  | raise error =>
      cases conversed
  | ask request resume inductionHypothesis =>
      obtain ⟨⟨others, ended⟩, rest, ⟨⟩⟩ :=
        Option.map_eq_some_iff.mp conversed
      exact .ask (inductionHypothesis _ rest)

/-- A failure a request is answered with leaves the program as its error. -/
def Propagates
    (failure : (request : Request) → Answer request → Error → Prop) :
    Program Request Answer Error Value → Prop
  | done _ => True
  | raise _ => True
  | ask request resume =>
      ∀ answer,
        (∀ error, failure request answer error → resume answer = raise error) ∧
          Propagates failure (resume answer)

namespace Propagates

variable {failure : (request : Request) → Answer request → Error → Prop}

/-- The rule for one program and then another. -/
theorem bind
    {program : Program Request Answer Error Value}
    {next : Value → Program Request Answer Error Next}
    (first : program.Propagates failure)
    (second : ∀ value, (next value).Propagates failure) :
    (program >>= next).Propagates failure := by
  change (Program.bind next program).Propagates failure
  induction program with
  | done value =>
      exact second value
  | raise error =>
      trivial
  | ask request resume inductionHypothesis =>
      intro answer
      refine ⟨?_, inductionHypothesis answer (first answer).2⟩
      intro error failed
      simp only [(first answer).1 error failed]
      rfl

/-- The rule for a request that does not fail. -/
theorem ask
    {request : Request}
    {resume : Answer request → Program Request Answer Error Value}
    (sound : ∀ answer error, ¬ failure request answer error)
    (rest : ∀ answer, (resume answer).Propagates failure) :
    (Program.ask request resume).Propagates failure :=
  fun answer =>
    ⟨fun error failed => absurd failed (sound answer error), rest answer⟩

end Propagates

/-- Whatever a program returns, it returns after such exchanges. -/
def Yields
    {World : Type y}
    (surroundings : Surroundings World Request Answer) :
    Program Request Answer Error Value →
      (List (Exchange World Request Answer) → Value → Prop) → Prop
  | done value, holds => holds [] value
  | raise _, _ => True
  | ask request resume, holds =>
      ∀ before answer after,
        surroundings.serves before request answer after →
        Yields surroundings (resume answer) fun later value =>
          holds (⟨before, request, answer⟩ :: later) value

namespace Yields

variable {World : Type y}
variable {surroundings : Surroundings World Request Answer}

/-- What is yielded may be weakened. -/
theorem mono
    {program : Program Request Answer Error Value}
    {holds weaker : List (Exchange World Request Answer) → Value → Prop}
    (yields : program.Yields surroundings holds)
    (weakens :
      ∀ exchanges value, holds exchanges value → weaker exchanges value) :
    program.Yields surroundings weaker := by
  induction program generalizing holds weaker with
  | done value =>
      exact weakens [] value yields
  | raise error =>
      trivial
  | ask request resume inductionHypothesis =>
      intro before answer after serves
      exact
        inductionHypothesis answer (yields before answer after serves)
          fun later value => weakens _ value

/-- The rule for one program and then another. -/
theorem bind
    {program : Program Request Answer Error Value}
    {next : Value → Program Request Answer Error Next}
    {holds : List (Exchange World Request Answer) → Next → Prop}
    (yields :
      program.Yields surroundings fun earlier value =>
        (next value).Yields surroundings fun later result =>
          holds (earlier ++ later) result) :
    (program >>= next).Yields surroundings holds := by
  change (Program.bind next program).Yields surroundings holds
  induction program generalizing holds with
  | done value =>
      exact yields
  | raise error =>
      trivial
  | ask request resume inductionHypothesis =>
      exact fun before answer after serves =>
        inductionHypothesis answer (yields before answer after serves)

/-- What the second program yields, when exchanges before it do no harm. -/
theorem bind_last
    {program : Program Request Answer Error Value}
    {next : Value → Program Request Answer Error Next}
    {holds : List (Exchange World Request Answer) → Next → Prop}
    (yields : ∀ value, (next value).Yields surroundings holds)
    (grows :
      ∀ earlier later result,
        holds later result → holds (earlier ++ later) result) :
    (program >>= next).Yields surroundings holds := by
  change (Program.bind next program).Yields surroundings holds
  induction program with
  | done value =>
      exact yields value
  | raise error =>
      trivial
  | ask request resume inductionHypothesis =>
      intro before answer after serves
      refine (inductionHypothesis answer).mono fun later result => ?_
      exact grows [⟨before, request, answer⟩] later result

/-- The rule for `try` whose handlers only return. -/
theorem handle
    {program : Program Request Answer Error Value}
    {handler : Error → Value}
    {holds : List (Exchange World Request Answer) → Value → Prop}
    (yields : program.Yields surroundings holds)
    (handles : ∀ exchanges error, holds exchanges (handler error)) :
    (program.handle fun error => .done (handler error)).Yields surroundings
      holds := by
  induction program generalizing holds with
  | done value =>
      exact yields
  | raise error =>
      exact handles [] error
  | ask request resume inductionHypothesis =>
      exact fun before answer after serves =>
        inductionHypothesis answer (yields before answer after serves)
          fun later => handles _

/-- A program that only asks requests of a kind yields such exchanges. -/
theorem of_asks
    {kind : Request → Prop}
    {program : Program Request Answer Error Value}
    (asks : program.Asks kind) :
    program.Yields surroundings fun exchanges _ =>
      ∀ exchange ∈ exchanges, kind exchange.request := by
  induction program with
  | done value =>
      simp [Yields]
  | raise error =>
      trivial
  | ask request resume inductionHypothesis =>
      intro before answer after serves
      refine (inductionHypothesis answer (asks.2 answer)).mono ?_
      intro later value rest
      exact List.forall_mem_cons.mpr ⟨asks.1, rest⟩

/-- What is yielded and what is yielded. -/
theorem and
    {program : Program Request Answer Error Value}
    {first second :
      List (Exchange World Request Answer) → Value → Prop}
    (left : program.Yields surroundings first)
    (right : program.Yields surroundings second) :
    program.Yields surroundings fun exchanges value =>
      first exchanges value ∧ second exchanges value := by
  induction program generalizing first second with
  | done value =>
      exact ⟨left, right⟩
  | raise error =>
      trivial
  | ask request resume inductionHypothesis =>
      exact fun before answer after serves =>
        inductionHypothesis answer (left before answer after serves)
          (right before answer after serves)

/-- What an execution returned was yielded. -/
theorem returned
    {program : Program Request Answer Error Value}
    {holds : List (Exchange World Request Answer) → Value → Prop}
    {world final : World}
    {exchanges : List (Exchange World Request Answer)}
    {value : Value}
    (yields : program.Yields surroundings holds)
    (execution :
      Execution surroundings program world exchanges (.returned value)
        final) :
    holds exchanges value := by
  induction program generalizing holds world exchanges with
  | done result =>
      cases execution
      exact yields
  | raise error =>
      cases execution
  | ask request resume inductionHypothesis =>
      cases execution with
      | ask interfered serves continued =>
          have later := yields _ _ _ serves
          have holdsLater := inductionHypothesis _ later continued
          exact holdsLater

end Yields

/--
Two executions of a program end alike, unless one dies, when whatever it asks is
answered the same in worlds that are related, and leaves them related.
-/
theorem Asks.indistinguishable
    {World Other : Type y}
    {left : Surroundings World Request Answer}
    {right : Surroundings Other Request Answer}
    {kind : Request → Prop}
    {related : World → Other → Prop}
    {program : Program Request Answer Error Value}
    {world leftFinal : World}
    {other rightFinal : Other}
    {leftExchanges : List (Exchange World Request Answer)}
    {rightExchanges : List (Exchange Other Request Answer)}
    {leftOutcome rightOutcome : Outcome Error Value}
    (asks : program.Asks kind)
    (interferes :
      ∀ {world other world' other'},
        related world other →
        left.interferes world world' →
        right.interferes other other' →
        related world' other')
    (serves :
      ∀ {world other request answer reply world' other'},
        related world other →
        kind request →
        left.serves world request answer world' →
        right.serves other request reply other' →
        answer = reply ∧ related world' other')
    (begins : related world other)
    (leftExecution :
      Execution left program world leftExchanges leftOutcome leftFinal)
    (rightExecution :
      Execution right program other rightExchanges rightOutcome
        rightFinal) :
    leftOutcome = .died ∨ rightOutcome = .died ∨
      leftOutcome = rightOutcome := by
  induction program
    generalizing world other leftExchanges rightExchanges with
  | done value =>
      cases leftExecution
      cases rightExecution
      exact .inr (.inr rfl)
  | raise error =>
      cases leftExecution
      cases rightExecution
      exact .inr (.inr rfl)
  | ask request resume inductionHypothesis =>
      cases leftExecution with
      | died =>
          exact .inl rfl
      | ask leftDisturbed leftServes leftRest =>
          cases rightExecution with
          | died =>
              exact .inr (.inl rfl)
          | ask rightDisturbed rightServes rightRest =>
              have stillRelated :=
                interferes begins leftDisturbed rightDisturbed
              obtain ⟨rfl, relatedAfter⟩ :=
                serves stillRelated asks.1 leftServes rightServes
              exact
                inductionHypothesis _ (asks.2 _) relatedAfter leftRest
                  rightRest

/--
A program with a world that answers by a function, once others have done what
they do before each request: its exchanges, and how it ends.
-/
def record
    {World : Type y}
    (disturb : World → Request → World)
    (serve :
      World → (request : Request) → Option (Answer request × World)) :
    Program Request Answer Error Value →
      World →
      Option
        (List (Exchange World Request Answer) × Outcome Error Value × World)
  | done value, world => some ([], .returned value, world)
  | raise error, world => some ([], .raised error, world)
  | ask request resume, world =>
      let disturbed := disturb world request
      (serve disturbed request).bind fun served =>
        (record disturb serve (resume served.1) served.2).map fun ended =>
          (⟨disturbed, request, served.1⟩ :: ended.1, ended.2)

/-- What is recorded is an execution. -/
theorem execution_of_record
    {World : Type y}
    {surroundings : Surroundings World Request Answer}
    {disturb : World → Request → World}
    {serve :
      World → (request : Request) → Option (Answer request × World)}
    {program : Program Request Answer Error Value}
    {world final : World}
    {exchanges : List (Exchange World Request Answer)}
    {outcome : Outcome Error Value}
    (interferes :
      ∀ world request, surroundings.interferes world (disturb world request))
    (serves :
      ∀ world request answer served,
        serve world request = some (answer, served) →
        surroundings.serves world request answer served)
    (recorded :
      program.record disturb serve world =
        some (exchanges, outcome, final)) :
    Execution surroundings program world exchanges outcome final := by
  induction program generalizing world exchanges with
  | done value =>
      cases recorded
      exact .done value _
  | raise error =>
      cases recorded
      exact .raise error _
  | ask request resume inductionHypothesis =>
      obtain ⟨⟨answer, served⟩, answered, rest⟩ :=
        Option.bind_eq_some_iff.mp recorded
      obtain ⟨⟨others, ended⟩, continued, ⟨⟩⟩ :=
        Option.map_eq_some_iff.mp rest
      exact
        .ask (interferes world request) (serves _ _ _ _ answered)
          (inductionHypothesis answer continued)

end Program
