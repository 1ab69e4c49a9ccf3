import IncidentPilot.Library.Interaction

/-!
# Programs that clean up

`try` with `finally`: the cleanup runs after a value and after an error, and an
error of its own takes their place.  A program that dies does not clean up.  A
program alone with its world has one execution, whose exchanges are its trace.
-/

namespace Program

variable {Request : Type u} {Answer : Request → Type v}
variable {Error : Type w} {Value Cleaned : Type x} {World : Type y}

/-- `try` with `finally`. -/
def finallyDo
    (cleanup : Program Request Answer Error Cleaned) :
    Program Request Answer Error Value →
      Program Request Answer Error Value
  | done value => cleanup >>= fun _ => done value
  | raise error => cleanup >>= fun _ => raise error
  | ask request resume =>
      ask request fun answer => finallyDo cleanup (resume answer)

/-- The rule for `finally`. -/
theorem Keeps.finallyDo
    {surroundings : Surroundings World Request Answer}
    {permits : World → Request → Prop}
    {world : World}
    {program : Program Request Answer Error Value}
    {cleanup : Program Request Answer Error Cleaned}
    {returns : Value → World → Prop}
    {raises : Error → World → Prop}
    (keeps :
      Keeps surroundings permits program world
        (fun value middle =>
          Keeps surroundings permits cleanup middle
            (fun _ final => returns value final) raises)
        (fun error middle =>
          Keeps surroundings permits cleanup middle
            (fun _ final => raises error final) raises)) :
    Keeps surroundings permits (Program.finallyDo cleanup program) world
      returns raises := by
  induction program generalizing world with
  | done value =>
      apply Keeps.bind
      exact
        keeps.returned.mono (fun _ _ permitted => permitted)
          (fun _ _ holds => .done holds) (fun _ _ holds => holds)
  | raise error =>
      have cleans := (keeps _ _ _ (.raise error world)).2
      apply Keeps.bind
      exact
        Keeps.mono cleans (fun _ _ permitted => permitted)
          (fun _ _ holds => .raise holds) (fun _ _ holds => holds)
  | ask request resume inductionHypothesis =>
      intro exchanges outcome final execution
      cases execution with
      | died =>
          exact ⟨by simp, trivial⟩
      | @ask _ _ _ disturbed served _ answer exchanges _ interfered serves
          rest =>
          obtain ⟨first, firstExecution⟩ :=
            Keeps.exists_execution surroundings (resume answer) served
          have permitted :=
            (keeps _ _ _ (.ask interfered serves firstExecution)).1 _
              List.mem_cons_self
          have continues :
              Keeps surroundings permits (resume answer) served
                (fun value middle =>
                  Keeps surroundings permits cleanup middle
                    (fun _ final => returns value final) raises)
                (fun error middle =>
                  Keeps surroundings permits cleanup middle
                    (fun _ final => raises error final) raises) := by
            intro others outcome final execution
            obtain ⟨all, ends⟩ :=
              keeps _ _ _ (.ask interfered serves execution)
            exact
              ⟨fun exchange member =>
                all exchange (List.mem_cons_of_mem _ member), ends⟩
          obtain ⟨others, ends⟩ :=
            inductionHypothesis answer continues _ _ _ rest
          exact ⟨List.forall_mem_cons.mpr ⟨permitted, others⟩, ends⟩

/-- What neither a program nor its cleanup asks is not asked. -/
theorem Asks.finallyDo
    {kind : Request → Prop}
    {program : Program Request Answer Error Value}
    {cleanup : Program Request Answer Error Cleaned}
    (asks : program.Asks kind)
    (cleans : cleanup.Asks kind) :
    (Program.finallyDo cleanup program).Asks kind := by
  induction program with
  | done value =>
      exact cleans.bind fun _ => trivial
  | raise error =>
      exact cleans.bind fun _ => trivial
  | ask request resume inductionHypothesis =>
      exact
        ⟨asks.1, fun answer =>
          inductionHypothesis answer (asks.2 answer)⟩

/-- What neither a program nor its handler asks is not asked. -/
theorem Asks.handle
    {kind : Request → Prop}
    {program : Program Request Answer Error Value}
    {handler : Error → Program Request Answer Error Value}
    (asks : program.Asks kind)
    (handles : ∀ error, (handler error).Asks kind) :
    (program.handle handler).Asks kind := by
  induction program with
  | done value =>
      trivial
  | raise error =>
      exact handles error
  | ask request resume inductionHypothesis =>
      exact
        ⟨asks.1, fun answer =>
          inductionHypothesis answer (asks.2 answer)⟩

/-- What a program alone with its world exchanges. -/
def trace
    (serve :
      World → (request : Request) → Option (Answer request × World)) :
    Program Request Answer Error Value →
      World →
      List (Exchange World Request Answer)
  | done _, _ => []
  | raise _, _ => []
  | ask request resume, world =>
      match serve world request with
      | none => []
      | some (answer, served) =>
          ⟨world, request, answer⟩ :: trace serve (resume answer) served

/-- What a program does alone is an execution with its trace. -/
theorem execution_of_trace
    {surroundings : Surroundings World Request Answer}
    {serve :
      World → (request : Request) → Option (Answer request × World)}
    {program : Program Request Answer Error Value}
    {world final : World}
    {outcome : Outcome Error Value}
    (undisturbed : ∀ world, surroundings.interferes world world)
    (serves :
      ∀ world request answer served,
        serve world request = some (answer, served) →
        surroundings.serves world request answer served)
    (ran : program.run serve world = some (outcome, final)) :
    Execution surroundings program world (program.trace serve world)
      outcome final := by
  induction program generalizing world with
  | done value =>
      cases ran
      exact .done value _
  | raise error =>
      cases ran
      exact .raise error _
  | ask request resume inductionHypothesis =>
      cases answered : serve world request with
      | none =>
          simp [run, answered] at ran
      | some reply =>
          obtain ⟨answer, served⟩ := reply
          simp only [run, answered] at ran
          simp only [trace, answered]
          exact
            .ask (undisturbed world)
              (serves world request answer served answered)
              (inductionHypothesis answer ran)

/-- What is exchanged is served. -/
theorem served_of_mem_trace
    {serve :
      World → (request : Request) → Option (Answer request × World)}
    {program : Program Request Answer Error Value}
    {world : World}
    {exchange : Exchange World Request Answer}
    (member : exchange ∈ program.trace serve world) :
    ∃ served,
      serve exchange.before exchange.request =
        some (exchange.answer, served) := by
  induction program generalizing world with
  | done value =>
      cases member
  | raise error =>
      cases member
  | ask request resume inductionHypothesis =>
      cases answered : serve world request with
      | none =>
          simp [trace, answered] at member
      | some reply =>
          obtain ⟨answer, served⟩ := reply
          simp only [trace, answered] at member
          rcases List.mem_cons.mp member with rfl | inRest
          · exact ⟨served, answered⟩
          · exact inductionHypothesis answer inRest

end Program
