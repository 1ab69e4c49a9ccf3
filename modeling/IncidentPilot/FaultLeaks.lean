import IncidentPilot.EvaluationHarness

/-!
# Faults that outlive their case

When the harness takes its next case, a fault is active in the reference service
exactly if one was injected that no execution of a run followed: the reset is
reached from the execution only, not from a failure between the two.
-/

namespace IncidentPilot

/-- A fault is active exactly if it was injected since the last execution. -/
def FaultedService.Accounted (service : FaultedService) : Prop :=
  service.active = none ↔ service.injected = false

/-- The next case is taken when the active fault is accounted for. -/
def BeginsAccounted (service : FaultedService) : HarnessRequest → Prop
  | .begin _ => service.Accounted
  | _ => True

/-- A request to reset the fault has a response. -/
def ResetAnswered : (request : HarnessRequest) → HarnessAnswer request → Prop
  | .resetFault, answer => answer.isOk = true
  | _, _ => True

/-- Surroundings in which requests to reset the fault have a response. -/
def answeredSurroundings (tools : HarnessTools) :
    Program.Surroundings FaultedService HarnessRequest HarnessAnswer where
  serves before request answer after :=
    ServesHarness tools before request answer after ∧
      ResetAnswered request answer
  interferes before after := before = after

/-- A program that leaves the active fault accounted for. -/
def StaysAccounted
    (tools : HarnessTools)
    {Value : Type}
    (program : HarnessProgram Value) : Prop :=
  ∀ service : FaultedService,
    service.Accounted →
    Program.Keeps (answeredSurroundings tools) BeginsAccounted program
      service (fun _ final => final.Accounted)
      (fun _ final => final.Accounted)

/-- A request that leaves the reference service as it is. -/
def HarnessRequest.Observes : HarnessRequest → Prop
  | .postFault _ _ => False
  | .execute _ _ _ => False
  | .resetFault => False
  | .begin _ => True
  | .getOrders => True
  | .createIncident _ => True
  | .createRun _ => True
  | .readResults _ => True

/-- A request that observes is served without a change. -/
theorem HarnessRequest.Observes.unchanged
    {tools : HarnessTools}
    {request : HarnessRequest}
    {answer : HarnessAnswer request}
    {service served : FaultedService}
    (observes : request.Observes)
    (serves : ServesHarness tools service request answer served) :
    served = service := by
  cases serves with
  | refused faultType params answer =>
      exact observes.elim
  | injected applies answer =>
      exact observes.elim
  | execute incidentPk runId sandboxFaultType answer =>
      exact observes.elim
  | resetFault answer =>
      exact observes.elim
  | _ =>
      rfl

namespace StaysAccounted

variable {tools : HarnessTools} {Value Next : Type}

/-- A value leaves the service as it is. -/
theorem done (value : Value) :
    StaysAccounted tools (.done value) :=
  fun _ accounted => .done accounted

/-- An exception leaves the service as it is. -/
theorem raise (error : String) :
    StaysAccounted tools (.raise error : HarnessProgram Value) :=
  fun _ accounted => .raise accounted

/-- One program and then another. -/
theorem bind
    {program : HarnessProgram Value}
    {next : Value → HarnessProgram Next}
    (first : StaysAccounted tools program)
    (second : ∀ value, StaysAccounted tools (next value)) :
    StaysAccounted tools (program >>= next) := by
  intro service accounted
  apply Program.Keeps.bind
  exact
    (first service accounted).mono (fun _ _ permitted => permitted)
      (fun value final holds => second value final holds)
      (fun _ _ holds => holds)

/-- A program whose exceptions are caught. -/
theorem handle
    {program : HarnessProgram Value}
    {handler : String → HarnessProgram Value}
    (first : StaysAccounted tools program)
    (second : ∀ error, StaysAccounted tools (handler error)) :
    StaysAccounted tools (program.handle handler) := by
  intro service accounted
  apply Program.Keeps.handle
  exact
    (first service accounted).mono (fun _ _ permitted => permitted)
      (fun _ _ holds => holds)
      (fun error final holds => second error final holds)

/-- The value of an answer, or its exception. -/
theorem heard (answer : Except String Value) :
    StaysAccounted tools (heard answer) := by
  cases answer with
  | ok value =>
      exact done value
  | error error =>
      exact raise error

/-- A request whose service keeps the active fault accounted for. -/
theorem request
    {request : HarnessRequest}
    (keeps :
      ∀ service answer served,
        service.Accounted →
        ServesHarness tools service request answer served →
        served.Accounted) :
    StaysAccounted tools (Program.request request) := by
  intro service accounted
  apply Program.Keeps.request
  rintro disturbed rfl
  constructor
  · cases request with
    | begin case =>
        exact accounted
    | _ =>
        trivial
  · rintro answer served ⟨serves, -⟩
    exact keeps service answer served accounted serves

/-- A request that observes leaves the service as it is. -/
theorem observe
    {request : HarnessRequest}
    (observes : request.Observes) :
    StaysAccounted tools (Program.request request) := by
  apply StaysAccounted.request
  intro service answer served accounted serves
  rw [observes.unchanged serves]
  exact accounted

end StaysAccounted

section

variable {tools : HarnessTools}

/-- Requests to the API of the orders leave the fault as it is. -/
theorem getOrders_staysAccounted
    (times : Nat)
    (response : Option Nat) :
    StaysAccounted tools (getOrders times response) := by
  induction times generalizing response with
  | zero =>
      exact .done response
  | succ times inductionHypothesis =>
      refine .bind (.observe trivial) fun answer => ?_
      exact
        .bind (.heard answer) fun found =>
          inductionHypothesis (some found)

/-- A response with a failing status raises an exception. -/
theorem raiseForStatus_staysAccounted (status : Nat) :
    StaysAccounted tools (HarnessProgram.raiseForStatus status) := by
  unfold HarnessProgram.raiseForStatus
  split
  · exact .done ()
  · exact .raise _

/-- The setup of a case injects its fault, or leaves the service as it is. -/
theorem setupAndReproduce_staysAccounted (case : FaultCase) :
    StaysAccounted tools (setupAndReproduce case) := by
  refine .bind (getOrders_staysAccounted 3 none) fun _ => ?_
  refine .bind (.request ?_) fun answer => ?_
  · intro service answer served accounted serves
    cases serves with
    | refused =>
        exact accounted
    | injected =>
        simp [FaultedService.Accounted]
  · refine .bind (.heard answer) fun status => ?_
    refine .bind (raiseForStatus_staysAccounted status) fun _ => ?_
    refine .bind (getOrders_staysAccounted 4 none) fun reproduced => ?_
    split
    · exact .raise _
    · split
      · exact .done ()
      · exact .raise _

/-- The preparation of a case keeps the active fault accounted for. -/
theorem prepareCase_staysAccounted
    (settings : HarnessSettings)
    (tier : BenchmarkTier)
    (case : FaultCase) :
    StaysAccounted tools (prepareCase settings tier case) := by
  unfold prepareCase
  split
  · exact .done ()
  · split
    · exact .raise _
    · split
      · exact .raise _
      · exact setupAndReproduce_staysAccounted case

/-- An answered reset leaves no fault. -/
theorem resetFault_keeps
    {service : FaultedService}
    (executed : service.injected = false) :
    Program.Keeps (answeredSurroundings tools) BeginsAccounted resetFault
      service (fun _ final => final.Accounted)
      (fun _ final => final.Accounted) := by
  apply Program.Keeps.bind
  apply Program.Keeps.request
  rintro disturbed rfl
  refine ⟨trivial, ?_⟩
  rintro answer served ⟨serves, answered⟩
  have accounted : served.Accounted := by
    cases serves with
    | resetFault =>
        simp [FaultedService.Accounted, executed]
    | lostReset error =>
        cases answered
  exact
    StaysAccounted.bind (.heard answer) raiseForStatus_staysAccounted
      served accounted

/-- The execution of a run and the reset leave no fault. -/
theorem executeCase_staysAccounted
    {tier : BenchmarkTier}
    (real : tier ≠ .workflowFake)
    (case : FaultCase)
    (incidentPk runId : String) :
    StaysAccounted tools (executeCase tier case incidentPk runId) := by
  intro service accounted
  unfold executeCase
  rw [if_neg real]
  apply Program.Keeps.finallyDo
  apply Program.Keeps.bind
  apply Program.Keeps.request
  rintro disturbed rfl
  refine ⟨trivial, ?_⟩
  rintro answer served ⟨serves, -⟩
  have executed : served.injected = false := by
    cases serves
    rfl
  cases answer with
  | ok value =>
      exact .done (resetFault_keeps executed)
  | error error =>
      exact .raise (resetFault_keeps executed)

/-- A case keeps the active fault accounted for. -/
theorem runCase_staysAccounted
    (settings : HarnessSettings)
    {tier : BenchmarkTier}
    (real : tier ≠ .workflowFake)
    (case : FaultCase) :
    StaysAccounted tools (runCase tools settings tier case) := by
  refine .bind (prepareCase_staysAccounted settings tier case) fun _ => ?_
  refine .bind (.observe trivial) fun incident => ?_
  refine .bind (.heard incident) fun incidentPk => ?_
  refine .bind (.observe trivial) fun run => ?_
  refine .bind (.heard run) fun runId => ?_
  refine
    .bind (executeCase_staysAccounted real case incidentPk runId)
      fun _ => ?_
  refine .bind (.observe trivial) fun results => ?_
  exact .bind (.heard results) fun status => .done _

/-- The loop over the cases keeps the active fault accounted for. -/
theorem runCases_staysAccounted
    (settings : HarnessSettings)
    {tier : BenchmarkTier}
    (real : tier ≠ .workflowFake)
    (cases : List FaultCase) :
    StaysAccounted tools (runCases tools settings tier cases) := by
  induction cases with
  | nil =>
      exact .done []
  | cons case rest inductionHypothesis =>
      refine .bind (.observe trivial) fun _ => ?_
      refine .bind (.handle ?_ fun error => .done _) fun outcome => ?_
      · exact runCase_staysAccounted settings real case
      · exact .bind inductionHypothesis fun outcomes => .done _

end

/--
When the harness takes a case, no fault is active in the service exactly if none
was injected, or active at the start, since the last execution of a run.
-/
theorem next_case_without_fault_iff
    (tools : HarnessTools)
    (settings : HarnessSettings)
    {tier : BenchmarkTier}
    (real : tier ≠ .workflowFake)
    (start : Option String)
    (cases : List FaultCase)
    {exchanges :
      List (Program.Exchange FaultedService HarnessRequest HarnessAnswer)}
    {outcome : Program.Outcome String (List CaseOutcome)}
    {final : FaultedService}
    (execution :
      Program.Execution (harnessSurroundings tools)
        (runCases tools settings tier cases) ⟨start, start.isSome⟩
        exchanges outcome final)
    (answered :
      ∀ exchange ∈ exchanges,
        ResetAnswered exchange.request exchange.answer) :
    ∀ exchange ∈ exchanges,
      ∀ case,
        exchange.request = .begin case →
        (exchange.before.active = none ↔
          exchange.before.injected = false) := by
  have accounted :
      (⟨start, start.isSome⟩ : FaultedService).Accounted := by
    cases start with
    | none =>
        simp [FaultedService.Accounted]
    | some fault =>
        simp [FaultedService.Accounted]
  have restricted :
      Program.Execution (answeredSurroundings tools)
        (runCases tools settings tier cases) ⟨start, start.isSome⟩
        exchanges outcome final :=
    execution.restrict fun exchange member served serves =>
      ⟨serves, answered exchange member⟩
  obtain ⟨permitted, -⟩ :=
    runCases_staysAccounted settings real cases _ accounted _ _ _
      restricted
  intro exchange member case isBegin
  have begins := permitted exchange member
  rw [isBegin] at begins
  exact begins

/-- Library functions for parameters without text. -/
def plainHarnessTools : HarnessTools where
  parsesFloat _ := false
  parsesInt _ := false
  str _ := ""

/-- Settings that the checks accept. -/
def modelSettings : HarnessSettings where
  llmEnabled := true
  llmApiKey := "key"
  toolBackend := "mcp"

/-- A case of an exception in the service. -/
def exceptionCase : FaultCase where
  id := "case-1"
  title := "orders fail"
  faultType := "null_exception"
  params := .object []
  incident := .object []

/-- A case of missing items. -/
def missingCase : FaultCase where
  id := "case-2"
  title := "items are missing"
  faultType := "missing_items"
  params := .object []
  incident := .object []

/-- A service that answers every request, but for orders under a fault. -/
def serveHarness
    (faultedOrders : Except String Nat)
    (service : FaultedService) :
    (request : HarnessRequest) →
      Option (HarnessAnswer request × FaultedService)
  | .begin _ => some ((), service)
  | .getOrders =>
      some
        (if service.active = none then .ok 200 else faultedOrders, service)
  | .postFault faultType params =>
      if appliesFault plainHarnessTools faultType params = true then
        some (.ok 200, ⟨some faultType, true⟩)
      else
        some (.ok 400, service)
  | .createIncident _ => some (.ok "incident", service)
  | .createRun _ => some (.ok "run", service)
  | .execute _ _ _ => some (.ok (), { service with injected := false })
  | .resetFault => some (.ok 200, { service with active := none })
  | .readResults _ => some (.ok .investigationComplete, service)

/-- That service serves the harness. -/
theorem serveHarness_serves
    {faultedOrders : Except String Nat}
    {service served : FaultedService}
    {request : HarnessRequest}
    {answer : HarnessAnswer request}
    (answered :
      serveHarness faultedOrders service request = some (answer, served)) :
    ServesHarness plainHarnessTools service request answer served := by
  cases request with
  | postFault faultType params =>
      simp only [serveHarness] at answered
      split at answered
      · rename_i applies
        cases answered
        exact .injected service applies _
      · cases answered
        exact .refused service faultType params _
  | begin case =>
      cases answered
      exact .begin service case
  | getOrders =>
      cases answered
      exact .getOrders service _
  | createIncident arguments =>
      cases answered
      exact .createIncident service arguments _
  | createRun incidentPk =>
      cases answered
      exact .createRun service incidentPk _
  | execute incidentPk runId sandboxFaultType =>
      cases answered
      exact .execute service incidentPk runId sandboxFaultType _
  | resetFault =>
      cases answered
      exact .resetFault service _
  | readResults runId =>
      cases answered
      exact .readResults service runId _

/-- That service answers requests to reset the fault. -/
theorem serveHarness_answered
    {faultedOrders : Except String Nat}
    {service served : FaultedService}
    {request : HarnessRequest}
    {answer : HarnessAnswer request}
    (answered :
      serveHarness faultedOrders service request = some (answer, served)) :
    ResetAnswered request answer := by
  cases request with
  | resetFault =>
      cases answered
      rfl
  | _ =>
      trivial

/-- A benchmark of both cases. -/
def twoCases : HarnessProgram (List CaseOutcome) :=
  runCases plainHarnessTools modelSettings .realLlmInvestigation
    [exceptionCase, missingCase]

/-- The benchmark alone with that service is an execution. -/
theorem twoCases_execution
    {faultedOrders : Except String Nat}
    {outcome : Program.Outcome String (List CaseOutcome)}
    {final : FaultedService}
    (ran :
      twoCases.run (serveHarness faultedOrders) ⟨none, false⟩ =
        some (outcome, final)) :
    Program.Execution (harnessSurroundings plainHarnessTools) twoCases
      ⟨none, false⟩
      (twoCases.trace (serveHarness faultedOrders) ⟨none, false⟩)
      outcome final :=
  Program.execution_of_trace (fun _ => rfl)
    (fun _ _ _ _ => serveHarness_serves) ran

/-- Its requests to reset the fault have responses. -/
theorem twoCases_answered
    {faultedOrders : Except String Nat}
    (exchange :
      Program.Exchange FaultedService HarnessRequest HarnessAnswer)
    (member :
      exchange ∈
        twoCases.trace (serveHarness faultedOrders) ⟨none, false⟩) :
    ResetAnswered exchange.request exchange.answer := by
  obtain ⟨served, answered⟩ := Program.served_of_mem_trace member
  exact serveHarness_answered answered

/-- Both cases fail if orders under a fault do. -/
theorem twoCases_fail :
    twoCases.run (serveHarness (.error "ReadTimeout")) ⟨none, false⟩ =
      some
        (.returned
          [failedOutcome exceptionCase "ReadTimeout",
            failedOutcome missingCase "ReadTimeout"],
          ⟨some "null_exception", true⟩) := by
  rfl

/-- When all requests are answered, the second case starts without a fault. -/
theorem next_case_without_fault_two :
    ∃ outcome final,
      Program.Execution (harnessSurroundings plainHarnessTools) twoCases
          ⟨none, false⟩
          (twoCases.trace (serveHarness (.ok 500)) ⟨none, false⟩)
          outcome final ∧
        ∀ exchange ∈
            twoCases.trace (serveHarness (.ok 500)) ⟨none, false⟩,
          ∀ case,
            exchange.request = .begin case →
            (exchange.before.active = none ↔
              exchange.before.injected = false) := by
  have execution :
      Program.Execution (harnessSurroundings plainHarnessTools) twoCases
        ⟨none, false⟩
        (twoCases.trace (serveHarness (.ok 500)) ⟨none, false⟩)
        _ _ :=
    twoCases_execution rfl
  exact
    ⟨_, _, execution,
      next_case_without_fault_iff plainHarnessTools modelSettings
        (by decide) none [exceptionCase, missingCase] execution
        twoCases_answered⟩

/-- The fault of a case that could not be reproduced is active in the next. -/
theorem fault_outlives_case :
    ∃ exchanges outcome final,
      Program.Execution (harnessSurroundings plainHarnessTools) twoCases
          ⟨none, false⟩ exchanges outcome final ∧
        (∀ exchange ∈ exchanges,
          ResetAnswered exchange.request exchange.answer) ∧
        ∃ exchange ∈ exchanges,
          exchange.request = .begin missingCase ∧
            exchange.before.active = some "null_exception" := by
  have later :
      (twoCases.trace (serveHarness (.error "ReadTimeout"))
            ⟨none, false⟩)[6]? =
        some
          ⟨⟨some "null_exception", true⟩, .begin missingCase, ()⟩ := by
    rfl
  exact
    ⟨_, _, _, twoCases_execution twoCases_fail, twoCases_answered, _,
      List.mem_of_getElem? later, rfl, rfl⟩

end IncidentPilot
