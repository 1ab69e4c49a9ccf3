import IncidentPilot.AgentState
import IncidentPilot.Redaction

/-!
# The tool gateway

`tools/gateway.py`.  A call checks that its tool is registered, its budget and
its input, and then invokes the handler until an invocation succeeds, fails for
good, or may not be repeated.
-/

namespace IncidentPilot

/-- The types of an input schema. -/
inductive PropertyType where
  | string
  | integer
  | number
  | boolean
  deriving Repr, DecidableEq

namespace PropertyType

/-- The word for it in a schema. -/
def name : PropertyType → String
  | string => "string"
  | integer => "integer"
  | number => "number"
  | boolean => "boolean"

/-- `isinstance(value, py_type)`; a boolean is an integer. -/
def accepts : PropertyType → Json → Bool
  | string, .string _ => true
  | integer, .int _ => true
  | integer, .bool _ => true
  | number, .int _ => true
  | number, .float _ => true
  | number, .bool _ => true
  | boolean, .bool _ => true
  | _, _ => false

/-- Whether it is a type of numbers. -/
def numeric : PropertyType → Bool
  | integer => true
  | number => true
  | _ => false

end PropertyType

/-- `ToolSpec.input_schema`. -/
structure InputSchema where
  properties : List (String × PropertyType)
  required : List String := []
  additionalProperties : Bool := false

/-- `ToolSpec`. -/
structure ToolSpec where
  name : String
  timeoutSeconds : String := "30.0"
  maxRetries : Nat := 1
  inputSchema : InputSchema

/-- `ToolRegistry`. -/
abbrev ToolRegistry := List ToolSpec

/-- `registry.get`. -/
def ToolRegistry.get
    (registry : ToolRegistry)
    (name : String) : Option ToolSpec :=
  registry.find? fun spec => decide (spec.name = name)

/-- `READONLY_TOOLS`. -/
def readonlyTools : List String :=
  ["read_metrics", "read_logs", "inspect_git_history", "inspect_git_diff",
    "read_source_code", "query_database_readonly"]

/-- The tools that both backends register. -/
def readonlyRegistry : ToolRegistry :=
  [{ name := "read_metrics"
     inputSchema :=
      { properties := [("service", .string), ("window", .string)]
        required := ["service"] } },
    { name := "read_logs"
      inputSchema :=
      { properties := [("service", .string), ("window", .string)]
        required := ["service"] } },
    { name := "inspect_git_history"
      inputSchema :=
      { properties := [("repository", .string), ("limit", .integer)] } },
    { name := "inspect_git_diff"
      inputSchema :=
      { properties :=
          [("repository", .string), ("commit_sha", .string)] } },
    { name := "read_source_code"
      inputSchema :=
      { properties :=
          [("repository", .string), ("path", .string),
            ("start_line", .integer)]
        required := ["path"] } },
    { name := "query_database_readonly"
      inputSchema :=
      { properties := [("query", .string)]
        required := ["query"] } }]

/-- Why an input is refused; only a `ValueError` is caught. -/
inductive InputError where
  | value (message : String)
  | type (message : String)
  | recursion (message : String)
  deriving Repr, DecidableEq

/-- A list of names as Python prints it. -/
def printedNames (tools : JsonTools) (names : List String) : String :=
  "[" ++ ", ".intercalate (names.map tools.reprName) ++ "]"

/-- What `json.dumps` raises on an input. -/
def DumpsError.inputError : DumpsError → InputError
  | value message => .value message
  | recursion message => .recursion message

/-- What `json.dumps` raises on an output. -/
def DumpsError.exception : DumpsError → ToolException × String
  | value message => (.typeOrValue, message)
  | recursion message => (.other, message)

/-- One argument is checked against its property. -/
def validateArgument
    (spec : ToolSpec)
    (argument : String × Json) : Except InputError Unit :=
  match spec.inputSchema.properties.lookup argument.1 with
  | none => .ok ()
  | some expected =>
      if expected.accepts argument.2 = false then
        .error
          (.value
            ("invalid type for " ++ spec.name ++ "." ++ argument.1 ++
              ": expected " ++ expected.name))
      else if expected.numeric = true ∧
          PropertyType.boolean.accepts argument.2 = true then
        .error (.value "boolean is not a numeric tool argument")
      else
        match argument.2 with
        | .string text =>
            if (if argument.1 = "query" then 8192 else 512) <
                text.length then
              .error (.value ("tool argument too long: " ++ argument.1))
            else if argument.1 = "limit" then
              .error (.type "'<=' not supported")
            else
              .ok ()
        | value =>
            if argument.1 = "limit" ∧
                (value.number?.any fun limit =>
                  decide (1 ≤ limit) && decide (limit ≤ 50)) = false then
              .error (.value "limit must be between 1 and 50")
            else
              .ok ()

/-- `ToolGateway._validate_input`, which keeps every argument. -/
def validateInput
    (tools : JsonTools)
    (spec : ToolSpec)
    (payload : Json) : Except InputError Json :=
  match payload with
  | .object fields =>
      let names := fields.map Prod.fst
      let missing :=
        spec.inputSchema.required.filter fun name => name ∉ names
      let extras :=
        names.filter fun name =>
          name ∉ spec.inputSchema.properties.map Prod.fst
      match tools.dumps payload with
      | .error error => .error error.inputError
      | .ok dumped =>
          if 16000 < dumped.length then
            .error (.value "invalid or oversized tool input")
          else if missing ≠ [] then
            .error
              (.value
                ("missing required fields for " ++ spec.name ++ ": " ++
                  printedNames tools missing))
          else if spec.inputSchema.additionalProperties = false ∧
              extras ≠ [] then
            .error
              (.value
                ("unexpected fields for " ++ spec.name ++ ": " ++
                  printedNames tools
                    (extras.mergeSort fun first second =>
                      decide (first ≤ second))))
          else do
            fields.forM (validateArgument spec)
            .ok payload
  | _ => .error (.value "invalid or oversized tool input")

/-- `classify_tool_error`. -/
def classifyToolError : ToolException → String
  | .timeout => "timeout"
  | .connection => "connection"
  | .httpStatus code =>
      if code = 429 then
        "rate_limit"
      else if code ∈ [500, 502, 503, 504] then
        "server"
      else
        "http_permanent"
  | .permission => "permission"
  | .typeOrValue => "validation"
  | .other => "permanent"

/-- The categories after which an invocation may be repeated. -/
def retryableCategory (category : String) : Bool :=
  ["timeout", "connection", "rate_limit", "server"].contains category

/-- What is recorded of an invocation that failed. -/
structure InvocationFailure where
  status : ToolCallStatus
  error : String
  category : String
  deriving Repr, DecidableEq

/-- The `ValueError` about an output that is no complete dictionary. -/
def incompleteOutput : ToolException × String :=
  (.typeOrValue,
    "tool returned error, empty, invalid or incomplete result")

/-- An output is a complete dictionary of bounded size, or an exception. -/
def acceptOutput
    (tools : JsonTools)
    (output : Json) : Except (ToolException × String) Json :=
  match output with
  | .object (field :: rest) =>
      let output := Json.object (field :: rest)
      if output.flag "error" || output.flag "isError" ||
          output.flag "partial" || output.flag "truncated" then
        .error incompleteOutput
      else
        match tools.dumps output with
        | .error error => .error error.exception
        | .ok dumped =>
            if 64000 < dumped.utf8ByteSize then
              .error (.typeOrValue, "tool result exceeds size limit")
            else
              .ok output
  | _ => .error incompleteOutput

/-- `redact(str(exc))[:2000]`. -/
def redactedMessage (tools : JsonTools) (message : String) : String :=
  String.ofList ((redactInline tools message).toList.take 2000)

/-- What one invocation comes to. -/
def judgeInvocation
    (tools : JsonTools)
    (spec : ToolSpec) :
    HandlerOutcome → Except InvocationFailure Json
  | .returned output =>
      match acceptOutput tools output with
      | .ok output => .ok output
      | .error (kind, message) =>
          .error
            ⟨.failed, redactedMessage tools message, classifyToolError kind⟩
  | .timedOut =>
      .error
        ⟨.timeout, "timeout after " ++ spec.timeoutSeconds ++ "s",
          "timeout"⟩
  | .raised kind message =>
      .error
        ⟨.failed, redactedMessage tools message, classifyToolError kind⟩

/-- What the invocations of a call come to. -/
structure Invocations where
  outcome : Except InvocationFailure Json
  attemptCount : Nat
  budget : BudgetTracker

/--
The loop of `ToolGateway.call`, with the retries it has left.  The invocation it
starts with has been charged to the budget.
-/
def invokeHandler
    (tools : JsonTools)
    (spec : ToolSpec)
    (arguments : Json) :
    Nat → Nat → BudgetTracker → WorkflowProgram Invocations
  | retries, executed, budget =>
      .ask (.invokeTool spec.name arguments) fun outcome =>
        match judgeInvocation tools spec outcome with
        | .ok output => .done ⟨.ok output, executed + 1, budget⟩
        | .error failure =>
            if retryableCategory failure.category = true then
              match retries with
              | 0 => .done ⟨.error failure, executed + 1, budget⟩
              | retries + 1 =>
                  if budget.canCallTool = true then
                    invokeHandler tools spec arguments retries
                      (executed + 1) budget.recordToolCall
                  else
                    .done
                      ⟨.error
                          ⟨.denied, "retry budget exhausted", "budget"⟩,
                        executed + 1, budget⟩
            else
              .done ⟨.error failure, executed + 1, budget⟩

/-- A call that was not executed. -/
def refusedCall
    (tools : JsonTools)
    (toolCallId : Uuid)
    (name : String)
    (payload : Json)
    (status : ToolCallStatus)
    (error category : String) : ToolCall where
  toolCallId := toolCallId
  toolName := name
  status := status
  error := some error
  input := redact tools 0 payload
  errorCategory := some category

/-- The result of a call that was executed. -/
def executedCall
    (tools : JsonTools)
    (toolCallId : Uuid)
    (name : String)
    (arguments : Json)
    (invocations : Invocations) : ToolCall :=
  match invocations.outcome with
  | .ok output =>
      { toolCallId := toolCallId
        toolName := name
        status := .succeeded
        output := redact tools 0 output
        input := redact tools 0 arguments
        attemptCount := invocations.attemptCount }
  | .error failure =>
      { toolCallId := toolCallId
        toolName := name
        status := failure.status
        error := some failure.error
        input := redact tools 0 arguments
        attemptCount := invocations.attemptCount
        errorCategory := some failure.category }

/-- `ToolGateway.call`. -/
def ToolGateway.call
    (tools : JsonTools)
    (registry : ToolRegistry)
    (budget : BudgetTracker)
    (name : String)
    (payload : Json) : WorkflowProgram (ToolCall × BudgetTracker) := do
  let toolCallId ← freshId
  match registry.get name with
  | none =>
      .done
        (refusedCall tools toolCallId name payload .denied
            ("tool not registered: " ++ name) "permission",
          budget)
  | some spec =>
      if budget.canCallTool = true then
        match validateInput tools spec payload with
        | .error (.type message) => .raise (.other message)
        | .error (.recursion message) => .raise (.other message)
        | .error (.value message) =>
            .done
              (refusedCall tools toolCallId name payload .failed message
                  "validation",
                budget)
        | .ok arguments => do
            let invocations ←
              invokeHandler tools spec arguments spec.maxRetries 0
                budget.recordToolCall
            .done
              (executedCall tools toolCallId name arguments invocations,
                invocations.budget)
      else
        .done
          (refusedCall tools toolCallId name payload .denied
              "tool call budget exhausted" "budget",
            budget)

/-- An output that is not empty and carries no flag of an incomplete result. -/
structure CompleteOutput (output : Json) : Prop where
  truthy : output.truthy = true
  noError : output.flag "error" = false
  notPartial : output.flag "partial" = false
  notTruncated : output.flag "truncated" = false

/-- An accepted output is the one that was returned, and it is complete. -/
theorem acceptOutput_eq_ok
    {tools : JsonTools}
    {output accepted : Json}
    (accepts : acceptOutput tools output = .ok accepted) :
    ∃ fields, accepted = .object fields ∧ CompleteOutput accepted := by
  unfold acceptOutput at accepts
  split at accepts
  · rename_i field rest
    simp only at accepts
    split at accepts
    · cases accepts
    · rename_i unflagged
      split at accepts
      · cases accepts
      · split at accepts
        · cases accepts
        · cases accepts
          simp only [Bool.or_eq_true, not_or, Bool.not_eq_true]
            at unflagged
          exact
            ⟨_, rfl, rfl, unflagged.1.1.1, unflagged.1.2, unflagged.2⟩
  · cases accepts

/-- Redaction keeps an output complete. -/
theorem CompleteOutput.redacted
    {tools : JsonTools}
    {fields : List (String × Json)}
    (complete : CompleteOutput (.object fields)) :
    CompleteOutput (redact tools 0 (.object fields)) := by
  have unflagged
      (key : String)
      (plain : secretField key = false)
      (clear : (Json.object fields).flag key = false) :
      (redact tools 0 (.object fields)).flag key = false := by
    rw [Bool.eq_false_iff] at clear ⊢
    exact fun flagged => clear (redact_flag tools plain flagged)
  constructor
  · cases fields with
    | nil => exact complete.truthy
    | cons field rest => rfl
  · exact unflagged "error" (by decide +kernel) complete.noError
  · exact unflagged "partial" (by decide +kernel) complete.notPartial
  · exact
      unflagged "truncated" (by decide +kernel) complete.notTruncated

/-- Successful invocations have a complete output; others do not say success. -/
structure JudgedRight (outcome : Except InvocationFailure Json) : Prop where
  complete :
    ∀ output,
      outcome = .ok output →
      ∃ fields, output = .object fields ∧ CompleteOutput output
  failed :
    ∀ failure,
      outcome = .error failure →
      failure.status ≠ .succeeded

/-- An invocation is judged right. -/
theorem judgeInvocation_right
    (tools : JsonTools)
    (spec : ToolSpec)
    (outcome : HandlerOutcome) :
    JudgedRight (judgeInvocation tools spec outcome) := by
  unfold judgeInvocation
  split
  · split
    · rename_i accepted
      refine ⟨?_, nofun⟩
      rintro _ ⟨⟩
      exact acceptOutput_eq_ok accepted
    · exact ⟨nofun, by rintro _ ⟨⟩ ⟨⟩⟩
  · exact ⟨nofun, by rintro _ ⟨⟩ ⟨⟩⟩
  · exact ⟨nofun, by rintro _ ⟨⟩ ⟨⟩⟩

/-- The invocations of a call are judged right. -/
theorem invokeHandler_right
    (tools : JsonTools)
    (spec : ToolSpec)
    (arguments : Json)
    (retries executed : Nat)
    (budget : BudgetTracker) :
    (invokeHandler tools spec arguments retries executed budget).Always
      fun invocations => JudgedRight invocations.outcome := by
  induction retries generalizing executed budget with
  | zero =>
      unfold invokeHandler
      intro outcome
      have right := judgeInvocation_right tools spec outcome
      beta_reduce
      split
      · rename_i output judged
        exact judged ▸ right
      · rename_i failure judged
        split
        · exact judged ▸ right
        · exact judged ▸ right
  | succ retries inductionHypothesis =>
      unfold invokeHandler
      intro outcome
      have right := judgeInvocation_right tools spec outcome
      beta_reduce
      split
      · rename_i output judged
        exact judged ▸ right
      · rename_i failure judged
        split
        · simp only
          split
          · exact inductionHypothesis _ _
          · exact ⟨nofun, by rintro _ ⟨⟩ ⟨⟩⟩
        · exact judged ▸ right

/-- A call that succeeded has a complete output under the name it was made with. -/
structure RecordedRight (name : String) (call : ToolCall) : Prop where
  named : call.toolName = name
  complete : call.status = .succeeded → CompleteOutput call.output

/-- An executed call is recorded right. -/
theorem executedCall_right
    {tools : JsonTools}
    {toolCallId : Uuid}
    {name : String}
    {arguments : Json}
    {invocations : Invocations}
    (right : JudgedRight invocations.outcome) :
    RecordedRight name
      (executedCall tools toolCallId name arguments invocations) := by
  unfold executedCall
  split
  · rename_i output judged
    obtain ⟨fields, rfl, whole⟩ := right.complete _ judged
    exact ⟨rfl, fun _ => whole.redacted⟩
  · rename_i failure judged
    exact
      ⟨rfl, fun succeeded =>
        absurd succeeded (right.failed failure judged)⟩

/-- Whatever the handler does, a call is recorded right. -/
theorem ToolGateway.call_right
    (tools : JsonTools)
    (registry : ToolRegistry)
    (budget : BudgetTracker)
    (name : String)
    (payload : Json) :
    (ToolGateway.call tools registry budget name payload).Always
      fun called => RecordedRight name called.1 := by
  unfold ToolGateway.call
  refine .bind (freshId_always fun toolCallId => ?_)
  split
  · exact ⟨rfl, nofun⟩
  · split
    · split
      · trivial
      · trivial
      · exact ⟨rfl, nofun⟩
      · exact
          .bind
            ((invokeHandler_right ..).mono fun invocations right =>
              executedCall_right right)
    · exact ⟨rfl, nofun⟩

/-- A budget has been charged so many invocations, and no steps. -/
structure BudgetTracker.Charged
    (before after : BudgetTracker)
    (invocations : Nat) : Prop where
  sameLimit : after.maxToolCalls = before.maxToolCalls
  sameMaxSteps : after.maxSteps = before.maxSteps
  sameSteps : after.stepCount = before.stepCount
  counted : after.toolCallCount = before.toolCallCount + invocations
  within :
    before.toolCallCount ≤ before.maxToolCalls →
    after.toolCallCount ≤ after.maxToolCalls

/-- A budget that is not charged. -/
theorem BudgetTracker.Charged.nothing (budget : BudgetTracker) :
    budget.Charged budget 0 :=
  ⟨rfl, rfl, rfl, rfl, id⟩

/-- One more invocation is charged to a budget that allows it. -/
theorem BudgetTracker.Charged.record
    {before budget : BudgetTracker}
    {invocations : Nat}
    (charged : before.Charged budget invocations)
    (allowed : budget.canCallTool = true) :
    before.Charged budget.recordToolCall (invocations + 1) where
  sameLimit := charged.sameLimit
  sameMaxSteps := charged.sameMaxSteps
  sameSteps := charged.sameSteps
  counted := by
    have counted := charged.counted
    simp only [recordToolCall]
    omega
  within _ := by
    simp only [canCallTool, decide_eq_true_eq] at allowed
    simp only [recordToolCall]
    omega

/-- Every invocation of a call is charged, and nothing else is. -/
theorem invokeHandler_charged
    (tools : JsonTools)
    (spec : ToolSpec)
    (arguments : Json)
    (retries : Nat)
    {executed : Nat}
    {before budget : BudgetTracker}
    (charged : before.Charged budget (executed + 1)) :
    (invokeHandler tools spec arguments retries executed budget).Always
      fun invocations =>
        before.Charged invocations.budget invocations.attemptCount := by
  induction retries generalizing executed budget with
  | zero =>
      unfold invokeHandler
      intro outcome
      beta_reduce
      split
      · exact charged
      · split <;> exact charged
  | succ retries inductionHypothesis =>
      unfold invokeHandler
      intro outcome
      beta_reduce
      split
      · exact charged
      · split
        · simp only
          split
          · rename_i allowed
            exact inductionHypothesis (charged.record allowed)
          · exact charged
        · exact charged

/-- A call is charged what it records. -/
theorem ToolGateway.call_charged
    (tools : JsonTools)
    (registry : ToolRegistry)
    (budget : BudgetTracker)
    (name : String)
    (payload : Json) :
    (ToolGateway.call tools registry budget name payload).Always
      fun called => budget.Charged called.2 called.1.attemptCount := by
  unfold ToolGateway.call
  refine .bind (freshId_always fun toolCallId => ?_)
  split
  · exact .nothing budget
  · split
    · rename_i allowed
      split
      · trivial
      · trivial
      · exact .nothing budget
      · rename_i arguments accepted
        refine
          .bind
            ((invokeHandler_charged _ _ _ _
              ((BudgetTracker.Charged.nothing budget).record
                allowed)).mono ?_)
        intro invocations charged
        have recorded :
            (executedCall tools toolCallId name arguments
              invocations).attemptCount = invocations.attemptCount := by
          unfold executedCall
          split <;> rfl
        simp only [Program.Always, recorded]
        exact charged
    · exact .nothing budget

end IncidentPilot
