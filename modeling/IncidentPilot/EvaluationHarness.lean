import IncidentPilot.Library.Cleanup
import IncidentPilot.Library.Json
import IncidentPilot.RunStatus

/-!
# The evaluation harness

`EvaluationHarness.run` of `eval/harness.py` and the faults of the reference
service.  Each case injects its fault into the service, reproduces it, and
executes a run; the reset of the fault is in a `finally` around the execution
alone.  Any request may fail, with or without having taken effect.
-/

namespace IncidentPilot

/-- The tier of a benchmark. -/
inductive BenchmarkTier where
  | workflowFake
  | realLlmInvestigation
  | fullRemediation
  deriving DecidableEq

/-- The settings that `run_case` checks. -/
structure HarnessSettings where
  llmEnabled : Bool
  llmApiKey : String
  toolBackend : String

/-- A fault case. -/
structure FaultCase where
  id : String
  title : String
  faultType : String
  params : Json
  incident : Json

/-- Functions of Python's library. -/
structure HarnessTools where
  parsesFloat : String → Bool
  parsesInt : String → Bool
  str : Json → String

/-- How the handler of a fault reads its parameters. -/
inductive FaultSetup where
  | any
  | float (key : String)
  | int (key : String)

/-- `HANDLERS`. -/
def faultHandlers : List (String × FaultSetup) :=
  [("n_plus_one_query", .float "per_row_delay"),
    ("slow_database_query", .float "delay_seconds"),
    ("null_exception", .any),
    ("missing_index", .float "per_row_delay"),
    ("dependency_timeout", .float "delay_seconds"),
    ("schema_mismatch", .any),
    ("incorrect_configuration", .int "max_limit"),
    ("bad_query_refactor", .float "per_row_delay"),
    ("connection_pool_exhaustion", .float "delay_seconds"),
    ("cache_failure", .float "per_row_delay"),
    ("bad_code_commit", .any),
    ("pagination_off_by_one", .any),
    ("duplicate_orders", .any),
    ("missing_items", .any),
    ("wrong_customer", .any),
    ("wrong_total", .any),
    ("reversed_orders", .any),
    ("hidden_orders", .any),
    ("invalid_status", .any),
    ("inflated_price", .any)]

/-- A parameter is absent, or a number, or a text that is read as one. -/
def numericParam (parses : String → Bool) (params : Json) (key : String) :
    Bool :=
  match params.get? key with
  | none => true
  | some (.string text) => parses text
  | some value => value.number?.isSome

/-- The handler of a fault accepts its parameters. -/
def FaultSetup.accepts (tools : HarnessTools) (params : Json) :
    FaultSetup → Bool
  | .any => true
  | .float key => numericParam tools.parsesFloat params key
  | .int key => numericParam tools.parsesInt params key

/-- `apply_fault` does not raise. -/
def appliesFault
    (tools : HarnessTools)
    (faultType : String)
    (params : Json) : Bool :=
  (faultHandlers.lookup faultType).any (FaultSetup.accepts tools params)

/-- What the harness asks of its surroundings. -/
inductive HarnessRequest where
  | begin (case : FaultCase)
  | getOrders
  | postFault (faultType : String) (params : Json)
  | createIncident (arguments : List (String × Json))
  | createRun (incidentPk : String)
  | execute
      (incidentPk runId : String)
      (sandboxFaultType : Option String)
  | resetFault
  | readResults (runId : String)

/-- What the harness is answered; an error is an exception. -/
@[reducible]
def HarnessAnswer : HarnessRequest → Type
  | .begin _ => Unit
  | .getOrders => Except String Nat
  | .postFault _ _ => Except String Nat
  | .createIncident _ => Except String String
  | .createRun _ => Except String String
  | .execute _ _ _ => Except String Unit
  | .resetFault => Except String Nat
  | .readResults _ => Except String AgentRunStatus

/-- Programs of the harness. -/
abbrev HarnessProgram :=
  Program HarnessRequest HarnessAnswer String

/-- The value of an answer, or its exception. -/
def heard {Value : Type} : Except String Value → HarnessProgram Value
  | .ok value => .done value
  | .error error => .raise error

/-- `response.raise_for_status()`. -/
def HarnessProgram.raiseForStatus (status : Nat) : HarnessProgram Unit :=
  if 200 ≤ status ∧ status < 300 then
    .done ()
  else
    .raise "HTTPStatusError"

/-- `GET /orders`, so many times; the last response, or the one before. -/
def getOrders : Nat → Option Nat → HarnessProgram (Option Nat)
  | 0, response => .done response
  | times + 1, _ => do
      let answer ← Program.request .getOrders
      let response ← heard answer
      getOrders times (some response)

/-- `_setup_and_reproduce`. -/
def setupAndReproduce (case : FaultCase) : HarnessProgram Unit := do
  let _ ← getOrders 3 none
  let answer ← Program.request (.postFault case.faultType case.params)
  let status ← heard answer
  HarnessProgram.raiseForStatus status
  let reproduced ← getOrders 4 none
  match reproduced with
  | none => .raise "'NoneType' object has no attribute 'status_code'"
  | some code =>
      if code ∈ [200, 500, 504] then
        .done ()
      else
        .raise ("fault reproduction failed with " ++ toString code)

/-- `_reset_fault`. -/
def resetFault : HarnessProgram Unit := do
  let answer ← Program.request .resetFault
  let status ← heard answer
  HarnessProgram.raiseForStatus status

/-- The arguments of the incident of a case. -/
def incidentArguments
    (tools : HarnessTools)
    (case : FaultCase) : List (String × Json) :=
  let get (key : String) (default : Json) :=
    (case.incident.get? key).getD default
  [("title", get "title" (.string case.title)),
    ("service", get "service" (.string "orders-api")),
    ("symptom", get "symptom" (.string case.title)),
    ("severity",
      .string (tools.str (get "severity" (.string "SEV2")))),
    ("repository", get "repository" (.string "reference/orders_api")),
    ("environment", get "environment" (.string "reference-production"))]

/-- The outcome of a case, without its scores. -/
structure CaseOutcome where
  faultCaseId : String
  incidentId : Json
  runId : String
  finalStatus : AgentRunStatus
  error : Option String := none

/-- The checks of a tier that needs a model, and the setup of its case. -/
def prepareCase
    (settings : HarnessSettings)
    (tier : BenchmarkTier)
    (case : FaultCase) : HarnessProgram Unit :=
  if tier = .workflowFake then
    .done ()
  else if settings.llmEnabled = false ∨ settings.llmApiKey = "" then
    .raise
      "real benchmark tier requires LLM_API_KEY and LLM_ENABLED=true"
  else if settings.toolBackend ≠ "mcp" then
    .raise "real benchmark tier requires TOOL_BACKEND=mcp"
  else
    setupAndReproduce case

/-- The execution of a run, and the reset of the fault after it. -/
def executeCase
    (tier : BenchmarkTier)
    (case : FaultCase)
    (incidentPk runId : String) : HarnessProgram Unit :=
  Program.finallyDo
    (if tier = .workflowFake then .done () else resetFault)
    do
      let answer ←
        Program.request
          (.execute incidentPk runId
            (if tier = .fullRemediation then some case.faultType else none))
      heard answer

/-- `run_case`. -/
def runCase
    (tools : HarnessTools)
    (settings : HarnessSettings)
    (tier : BenchmarkTier)
    (case : FaultCase) : HarnessProgram CaseOutcome := do
  prepareCase settings tier case
  let incident ←
    Program.request (.createIncident (incidentArguments tools case))
  let incidentPk ← heard incident
  let run ← Program.request (.createRun incidentPk)
  let runId ← heard run
  executeCase tier case incidentPk runId
  let results ← Program.request (.readResults runId)
  let status ← heard results
  return {
    faultCaseId := case.id
    incidentId := (case.incident.get? "title").getD (.string "")
    runId := runId
    finalStatus := status }

/-- The outcome of a case that raised an exception. -/
def failedOutcome (case : FaultCase) (error : String) : CaseOutcome where
  faultCaseId := case.id
  incidentId := .string ""
  runId := ""
  finalStatus := .failed
  error := some error

/-- The loop of `run` over the cases. -/
def runCases
    (tools : HarnessTools)
    (settings : HarnessSettings)
    (tier : BenchmarkTier) :
    List FaultCase → HarnessProgram (List CaseOutcome)
  | [] => .done []
  | case :: rest => do
      let _ ← Program.request (.begin case)
      let outcome ←
        (runCase tools settings tier case).handle fun error =>
          .done (failedOutcome case error)
      let outcomes ← runCases tools settings tier rest
      return outcome :: outcomes

/--
The reference service: the fault that is active, and whether one was injected
since the last execution of a run.
-/
structure FaultedService where
  active : Option String
  injected : Bool

/-- How the service and the database serve the harness. -/
inductive ServesHarness (tools : HarnessTools) :
    FaultedService →
      (request : HarnessRequest) →
      HarnessAnswer request →
      FaultedService →
      Prop where
  | begin (service : FaultedService) (case : FaultCase) :
      ServesHarness tools service (.begin case) () service
  | getOrders
      (service : FaultedService)
      (answer : Except String Nat) :
      ServesHarness tools service .getOrders answer service
  | refused
      (service : FaultedService)
      (faultType : String)
      (params : Json)
      (answer : Except String Nat) :
      ServesHarness tools service (.postFault faultType params) answer
        service
  | injected
      {faultType : String}
      {params : Json}
      (service : FaultedService)
      (applies : appliesFault tools faultType params = true)
      (answer : Except String Nat) :
      ServesHarness tools service (.postFault faultType params) answer
        { active := some faultType, injected := true }
  | createIncident
      (service : FaultedService)
      (arguments : List (String × Json))
      (answer : Except String String) :
      ServesHarness tools service (.createIncident arguments) answer
        service
  | createRun
      (service : FaultedService)
      (incidentPk : String)
      (answer : Except String String) :
      ServesHarness tools service (.createRun incidentPk) answer service
  | execute
      (service : FaultedService)
      (incidentPk runId : String)
      (sandboxFaultType : Option String)
      (answer : Except String Unit) :
      ServesHarness tools service
        (.execute incidentPk runId sandboxFaultType) answer
        { service with injected := false }
  | resetFault
      (service : FaultedService)
      (answer : Except String Nat) :
      ServesHarness tools service .resetFault answer
        { service with active := none }
  | lostReset (service : FaultedService) (error : String) :
      ServesHarness tools service .resetFault (.error error) service
  | readResults
      (service : FaultedService)
      (runId : String)
      (answer : Except String AgentRunStatus) :
      ServesHarness tools service (.readResults runId) answer service

/-- The harness is alone with the service and the database. -/
def harnessSurroundings (tools : HarnessTools) :
    Program.Surroundings FaultedService HarnessRequest HarnessAnswer where
  serves := ServesHarness tools
  interferes before after := before = after

end IncidentPilot
