import IncidentPilot.Library.Answers
import IncidentPilot.DecisionPrompts

/-!
# Asking a model over HTTP

`OpenAICompatibleProvider` of `llm/provider.py`: a completion posts its messages
up to three times while the gateway fails, and a structured decision asks for up
to three completions.  The provider adds up the tokens it is told were used.
-/

namespace IncidentPilot

/-- The exceptions of a completion. -/
inductive ProviderError where
  | contextBudget
  | transport (text : String)
  | status (code : Nat)
  | request (text : String)
  | invalidJson (text : String)
  | malformed
  | structuredOutput
  | cancelled
  deriving Repr, DecidableEq

/-- The JSON of a request, but for its temperature, which is constant. -/
structure ModelPayload where
  maxTokens : Nat
  model : String
  messages : List LLMMessage
  responseFormat : Option String
  deriving Repr, DecidableEq

/-- The characters of all messages. -/
def ModelPayload.size (payload : ModelPayload) : Nat :=
  (payload.messages.map fun message => message.content.length).sum

/-- What becomes of a post: `request` stands for errors that are not retried. -/
inductive PostAnswer where
  | transport (text : String)
  | request (text : String)
  | cancelled
  | answered (status : Nat) (body : Except String Json)

namespace PostAnswer

/-- `resp.raise_for_status()` and `resp.json()`. -/
def read : PostAnswer → Except ProviderError Json
  | .transport text => .error (.transport text)
  | .request text => .error (.request text)
  | .cancelled => .error .cancelled
  | .answered status body =>
      if status < 200 ∨ 300 ≤ status then
        .error (.status status)
      else
        match body with
        | .ok data => .ok data
        | .error text => .error (.invalidJson text)

end PostAnswer

/-- The gateway failed, and may be asked again. -/
def ProviderError.transient : ProviderError → Bool
  | .transport _ => true
  | .status code => 500 ≤ code
  | _ => false

/-- The three numbers that are added up. -/
structure Usage where
  promptTokens : Int
  completionTokens : Int
  totalTokens : Int
  deriving Repr, DecidableEq

/-- One usage more. -/
def Usage.add (counted : Option Usage) (usage : Usage) : Usage where
  promptTokens :=
    (counted.map (·.promptTokens)).getD 0 + usage.promptTokens
  completionTokens :=
    (counted.map (·.completionTokens)).getD 0 + usage.completionTokens
  totalTokens :=
    (counted.map (·.totalTokens)).getD 0 + usage.totalTokens

/-- `value.get(key) or default` of what must be a dictionary. -/
def getOr
    (value : Json)
    (key : String)
    (default : Json) : Except ProviderError Json :=
  match value with
  | .object fields =>
      .ok
        (match fields.lookup key with
        | some found => if found.truthy then found else default
        | none => default)
  | _ => .error .malformed

/-- The content of the first choice of a response. -/
def responseContent (data : Json) : Except ProviderError Json := do
  match ← getOr data "choices" (.array []) with
  | .array [] => .ok (.string "")
  | .array (choice :: _) =>
      getOr (← getOr choice "message" (.object [])) "content" (.string "")
  | _ => .error .malformed

/-- The value of what `isinstance(value, int)` accepts. -/
def pythonInt : Option Json → Option Int
  | some (.int value) => some value
  | some (.bool value) => some (if value then 1 else 0)
  | _ => none

/-- The usage of a response, if it tells all of it. -/
def responseUsage (data : Json) : Except ProviderError (Option Usage) := do
  let usage ← getOr data "usage" (.object [])
  match usage with
  | .object fields =>
      .ok do
        return {
          promptTokens := ← pythonInt (fields.lookup "prompt_tokens")
          completionTokens :=
            ← pythonInt (fields.lookup "completion_tokens")
          totalTokens := ← pythonInt (fields.lookup "total_tokens") }
  | _ => .error .malformed

/-- What is read of a response: its content, and its usage if it tells it. -/
def PostAnswer.completion
    (answer : PostAnswer) :
    Except ProviderError (Json × Option Usage) := do
  let data ← answer.read
  let content ← responseContent data
  let usage ← responseUsage data
  return (content, usage)

/-- What a provider asks; `countUsage` is its assignment to `usage_totals`. -/
inductive ModelRequest where
  | post (payload : ModelPayload)
  | sleep (seconds : Nat)
  | countUsage (usage : Usage)

/-- The answers to each request; a sleep may be cancelled. -/
@[reducible] def ModelAnswer : ModelRequest → Type
  | .post _ => PostAnswer
  | .sleep _ => Bool
  | .countUsage _ => Unit

/-- Programs of a provider. -/
abbrev ModelProgram :=
  Program ModelRequest ModelAnswer ProviderError

/-- What `content.strip()` needs. -/
def contentText : Json → Except ProviderError String
  | .string text => .ok text
  | _ => .error .malformed

/-- The value of a computation, or its exception. -/
def readOr {Value : Type} : Except ProviderError Value → ModelProgram Value
  | .ok value => .done value
  | .error error => .raise error

/-- `RETRY_ATTEMPTS`. -/
def retryAttempts : Nat :=
  3

/-- The loop of `_complete`, with the attempts that are left after this one. -/
def postLoop (payload : ModelPayload) : Nat → Nat → ModelProgram Json
  | 0, _ =>
      .ask (.post payload) fun answer => readOr answer.read
  | remaining + 1, attempt =>
      .ask (.post payload) fun answer =>
        match answer.read with
        | .ok data => .done data
        | .error error =>
            if error.transient = true then
              .ask (.sleep attempt) fun slept =>
                if slept = true then
                  postLoop payload remaining (attempt + 1)
                else
                  .raise .cancelled
            else
              .raise error

/-- A content is a text if it can be stripped. -/
theorem contentText_ok
    {content : Json}
    {text : String}
    (stripped : contentText content = .ok text) :
    content = .string text := by
  cases content with
  | string own =>
      cases stripped
      rfl
  | null => cases stripped
  | bool value => cases stripped
  | int value => cases stripped
  | float value => cases stripped
  | array items => cases stripped
  | object fields => cases stripped

/-- The end of `_complete`. -/
def readCompletion (data : Json) : ModelProgram Json :=
  readOr (responseContent data) >>= fun content =>
    readOr (responseUsage data) >>= fun usage =>
      match usage with
      | none => .done content
      | some usage => .ask (.countUsage usage) fun _ => .done content

/-- `_complete`. -/
def complete (payload : ModelPayload) : ModelProgram Json :=
  if 40000 < payload.size then
    .raise .contextBudget
  else
    postLoop payload (retryAttempts - 1) 1 >>= readCompletion

/-- A structured decision, and how its schema judges a text. -/
structure StructuredCall (Value : Type) where
  model : String
  system : Option String
  schema : String
  messages : List LLMMessage
  validate : String → Except String Value

namespace StructuredCall

variable {Value : Type}

/-- The system message of a decision. -/
def instruction (call : StructuredCall Value) : String :=
  strip
    (call.system.getD "" ++ "\n" ++
      "Return only one JSON object matching this JSON Schema: " ++
      call.schema)

/-- What is posted for a decision. -/
def payload
    (call : StructuredCall Value)
    (messages : List LLMMessage) : ModelPayload where
  maxTokens := 16384
  model := call.model
  messages :=
    (if call.instruction ≠ "" then
      [{ role := "system", content := call.instruction }]
    else
      []) ++ messages
  responseFormat := some "json_object"

/-- The `try` of `complete_structured`, with what the loop does next. -/
def judge
    (call : StructuredCall Value)
    (again : List LLMMessage → ModelProgram Value)
    (text : String) : ModelProgram Value :=
  match call.validate (unfenced text) with
  | .ok value => .done value
  | .error error =>
      again (call.messages ++ [repairMessage (unfenced text) error])

/-- The loop of `complete_structured`, with the attempts that are left. -/
def decideLoop
    (call : StructuredCall Value) :
    Nat → List LLMMessage → ModelProgram Value
  | 0, _ => .raise .structuredOutput
  | remaining + 1, repairMessages =>
      complete (call.payload repairMessages) >>= fun content =>
        readOr (contentText content) >>=
          call.judge (decideLoop call remaining)

/-- `complete_structured`. -/
def completeStructured (call : StructuredCall Value) : ModelProgram Value :=
  call.decideLoop 3 call.messages

end StructuredCall

end IncidentPilot
