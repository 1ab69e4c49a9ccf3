import IncidentPilot.Library.Answers
import IncidentPilot.ToolGateway

/-!
# The discipline of a tool call

A whole call of the gateway, for every sequence of things its handler may do: it
returns, it counts what it invokes, it repeats only what may be repeated, and it
succeeds exactly when the last invocation did.
-/

namespace IncidentPilot

/--
A world in which the handler does one thing after another: it counts the
invocations.  A call asks for nothing but an identifier and invocations.
-/
def handlerWorld
    (behaviours : Nat → HandlerOutcome)
    (toolCallId : Uuid)
    (invoked : Nat) :
    (request : WorkflowRequest) → WorkflowAnswer request × Nat
  | .invokeTool .. => (behaviours invoked, invoked + 1)
  | .freshId => (toolCallId, invoked)
  | .patchFault .. => (none, invoked)
  | .plan => (.error (.other ""), invoked)
  | .nextAction _ => (.error (.other ""), invoked)
  | .proposeHypothesis _ => (.error (.other ""), invoked)
  | .directConclusion _ => (.error (.other ""), invoked)
  | .verificationAction .. => (.error (.other ""), invoked)
  | .verify .. => (.error (.other ""), invoked)
  | .conclude .. => (.error (.other ""), invoked)
  | .patch .. => (.error (.other ""), invoked)
  | .readSource => (.error "", invoked)
  | .runTests .. => (.error "", invoked)
  | .transact _ => (.error (.other ""), invoked)
  | .persistArtifact _ => (.error (.other ""), invoked)

/-- The six tools, with any number of retries each. -/
def registryWithRetries (retries : String → Nat) : ToolRegistry :=
  readonlyRegistry.map fun spec =>
    { spec with maxRetries := retries spec.name }

/-- The dictionaries that a call accepts from a handler. -/
structure AcceptableOutput (tools : JsonTools) (output : Json) : Prop where
  dictionary : ∃ field rest, output = .object (field :: rest)
  noError : output.flag "error" = false
  noIsError : output.flag "isError" = false
  notPartial : output.flag "partial" = false
  notTruncated : output.flag "truncated" = false
  small :
    ∃ dumped,
      tools.dumps output = .ok dumped ∧ dumped.utf8ByteSize ≤ 64000

/-- An invocation that failed with a category that may be repeated. -/
def RetryableFailure
    (tools : JsonTools)
    (outcome : HandlerOutcome) : Prop :=
  ∀ spec,
    ∃ failure,
      judgeInvocation tools spec outcome = .error failure ∧
        retryableCategory failure.category = true

/-- An invocation that returned in time what a call accepts. -/
def ReturnedAcceptable
    (tools : JsonTools)
    (outcome : HandlerOutcome) : Prop :=
  ∃ output, outcome = .returned output ∧ AcceptableOutput tools output

/-- What holds between a call, what it invoked, and its budget. -/
structure CallDiscipline
    (tools : JsonTools)
    (retries : Nat)
    (behaviours : Nat → HandlerOutcome)
    (before after : BudgetTracker)
    (call : ToolCall)
    (invocations : Nat) : Prop where
  counted : call.attemptCount = invocations
  charged : before.Charged after invocations
  limited : invocations ≤ retries + 1
  within :
    after.toolCallCount ≤ max before.toolCallCount before.maxToolCalls
  repeated :
    ∀ earlier,
      earlier + 1 < invocations →
      RetryableFailure tools (behaviours earlier)
  succeeded :
    call.status = .succeeded ↔
      ∃ last,
        invocations = last + 1 ∧
          ReturnedAcceptable tools (behaviours last)
  emptyOutput : call.status ≠ .succeeded → call.output = .object []

/-- An output is accepted exactly when it is acceptable, and as it is. -/
theorem acceptOutput_eq_ok_iff
    {tools : JsonTools}
    {output accepted : Json} :
    acceptOutput tools output = .ok accepted ↔
      accepted = output ∧ AcceptableOutput tools output := by
  constructor
  · intro accepts
    unfold acceptOutput at accepts
    split at accepts
    · rename_i field rest
      dsimp only at accepts
      split at accepts
      · cases accepts
      · rename_i unflagged
        split at accepts
        · cases accepts
        · rename_i dumped isDumped
          split at accepts
          · cases accepts
          · rename_i small
            cases accepts
            simp only [Bool.or_eq_true, not_or, Bool.not_eq_true]
              at unflagged
            obtain ⟨⟨⟨noError, noIsError⟩, notPartial⟩, notTruncated⟩ :=
              unflagged
            exact
              ⟨rfl, ⟨field, rest, rfl⟩, noError, noIsError, notPartial,
                notTruncated, dumped, isDumped, Nat.le_of_not_lt small⟩
    · cases accepts
  · rintro ⟨rfl, ⟨⟨field, rest, rfl⟩, noError, noIsError, notPartial,
      notTruncated, dumped, isDumped, small⟩⟩
    simp [acceptOutput, noError, noIsError, notPartial, notTruncated,
      isDumped, Nat.not_lt.mpr small]

/-- An invocation is judged a success exactly when it is acceptable. -/
theorem judgeInvocation_eq_ok_iff
    {tools : JsonTools}
    {spec : ToolSpec}
    {outcome : HandlerOutcome} :
    (∃ output, judgeInvocation tools spec outcome = .ok output) ↔
      ReturnedAcceptable tools outcome := by
  constructor
  · rintro ⟨output, judged⟩
    cases outcome with
    | returned returned =>
        simp only [judgeInvocation] at judged
        split at judged
        · rename_i accepted
          obtain ⟨-, acceptable⟩ := acceptOutput_eq_ok_iff.mp accepted
          exact ⟨returned, rfl, acceptable⟩
        · cases judged
    | timedOut => cases judged
    | raised kind message => cases judged
  · rintro ⟨output, rfl, acceptable⟩
    refine ⟨output, ?_⟩
    simp only [judgeInvocation,
      acceptOutput_eq_ok_iff.mpr ⟨rfl, acceptable⟩]

/-- The category of a failure does not depend on the tool. -/
theorem retryableFailure_of_judged
    {tools : JsonTools}
    {spec : ToolSpec}
    {outcome : HandlerOutcome}
    {failure : InvocationFailure}
    (judged : judgeInvocation tools spec outcome = .error failure)
    (retryable : retryableCategory failure.category = true) :
    RetryableFailure tools outcome := by
  intro other
  cases outcome with
  | returned output =>
      simp only [judgeInvocation] at judged ⊢
      split at judged
      · cases judged
      · cases judged
        exact ⟨_, rfl, retryable⟩
  | timedOut =>
      cases judged
      exact ⟨_, rfl, retryable⟩
  | raised kind message =>
      cases judged
      exact ⟨_, rfl, retryable⟩

/-- An invocation that failed returned nothing acceptable. -/
theorem error_iff_of_judged
    {tools : JsonTools}
    {spec : ToolSpec}
    {outcome : HandlerOutcome}
    {failure : InvocationFailure}
    (judged : judgeInvocation tools spec outcome = .error failure)
    (reported : InvocationFailure) :
    (∃ output,
        (.error reported : Except InvocationFailure Json) = .ok output) ↔
      ReturnedAcceptable tools outcome := by
  constructor
  · rintro ⟨output, ⟨⟩⟩
  · intro acceptable
    obtain ⟨output, succeeded⟩ :=
      (judgeInvocation_eq_ok_iff :
        (∃ output, judgeInvocation tools spec outcome = .ok output) ↔
          _).mpr acceptable
    rw [judged] at succeeded
    cases succeeded

/-- What holds of the invocations of a call that starts at some point. -/
structure InvocationDiscipline
    (tools : JsonTools)
    (spec : ToolSpec)
    (behaviours : Nat → HandlerOutcome)
    (retries executed invoked : Nat)
    (budget : BudgetTracker)
    (invocations : Invocations)
    (extra : Nat) : Prop where
  limited : extra ≤ retries
  counted : invocations.attemptCount = executed + extra + 1
  within :
    invocations.budget.toolCallCount ≤
      max budget.toolCallCount budget.maxToolCalls
  repeated :
    ∀ earlier < extra,
      RetryableFailure tools (behaviours (invoked + earlier))
  succeeded :
    (∃ output, invocations.outcome = .ok output) ↔
      ReturnedAcceptable tools (behaviours (invoked + extra))

/-- A call whose first invocation is its last. -/
theorem InvocationDiscipline.single
    {tools : JsonTools}
    {spec : ToolSpec}
    {behaviours : Nat → HandlerOutcome}
    {retries executed invoked : Nat}
    {budget : BudgetTracker}
    {outcome : Except InvocationFailure Json}
    (succeeded :
      (∃ output, outcome = .ok output) ↔
        ReturnedAcceptable tools (behaviours invoked)) :
    InvocationDiscipline tools spec behaviours retries executed invoked
      budget ⟨outcome, executed + 1, budget⟩ 0 where
  limited := Nat.zero_le _
  counted := rfl
  within := Nat.le_max_left ..
  repeated _ := nofun
  succeeded := succeeded

/-- A call that is repeated after a failure. -/
theorem InvocationDiscipline.repeated_after
    {tools : JsonTools}
    {spec : ToolSpec}
    {behaviours : Nat → HandlerOutcome}
    {retries executed invoked extra : Nat}
    {budget : BudgetTracker}
    {invocations : Invocations}
    (later :
      InvocationDiscipline tools spec behaviours retries (executed + 1)
        (invoked + 1) budget.recordToolCall invocations extra)
    (failed : RetryableFailure tools (behaviours invoked))
    (allowed : budget.canCallTool = true) :
    InvocationDiscipline tools spec behaviours (retries + 1) executed
      invoked budget invocations (extra + 1) where
  limited := Nat.succ_le_succ later.limited
  counted := by
    have counted := later.counted
    omega
  within := by
    have within := later.within
    simp only [BudgetTracker.recordToolCall] at within
    simp only [BudgetTracker.canCallTool, decide_eq_true_eq] at allowed
    omega
  repeated := by
    intro earlier before
    cases earlier with
    | zero => exact failed
    | succ earlier =>
        have repeated :=
          later.repeated earlier (Nat.lt_of_succ_lt_succ before)
        rwa [show invoked + (earlier + 1) = invoked + 1 + earlier by omega]
  succeeded := by
    rw [show invoked + (extra + 1) = invoked + 1 + extra by omega]
    exact later.succeeded

/-- The loop returns, whatever the handler does. -/
theorem invokeHandler_discipline
    (tools : JsonTools)
    (spec : ToolSpec)
    (arguments : Json)
    (behaviours : Nat → HandlerOutcome)
    (toolCallId : Uuid)
    (retries executed invoked : Nat)
    (budget : BudgetTracker) :
    ∃ answered invocations extra,
      (invokeHandler tools spec arguments retries executed budget).converse
            (handlerWorld behaviours toolCallId) invoked =
          some (answered, invocations, invoked + extra + 1) ∧
        InvocationDiscipline tools spec behaviours retries executed
          invoked budget invocations extra := by
  induction retries generalizing executed invoked budget with
  | zero =>
      unfold invokeHandler
      simp only [Program.converse, handlerWorld]
      cases judged : judgeInvocation tools spec (behaviours invoked) with
      | ok output =>
          exact
            ⟨_, _, 0, rfl,
              .single
                (iff_of_true ⟨output, rfl⟩
                  (judgeInvocation_eq_ok_iff.mp ⟨output, judged⟩))⟩
      | error failure =>
          have failed := error_iff_of_judged judged failure
          by_cases retryable : retryableCategory failure.category = true
          · simp only [retryable, if_true]
            exact ⟨_, _, 0, rfl, .single failed⟩
          · simp only [retryable]
            exact ⟨_, _, 0, rfl, .single failed⟩
  | succ retries inductionHypothesis =>
      unfold invokeHandler
      simp only [Program.converse, handlerWorld]
      cases judged : judgeInvocation tools spec (behaviours invoked) with
      | ok output =>
          exact
            ⟨_, _, 0, rfl,
              .single
                (iff_of_true ⟨output, rfl⟩
                  (judgeInvocation_eq_ok_iff.mp ⟨output, judged⟩))⟩
      | error failure =>
          by_cases retryable : retryableCategory failure.category = true
          · simp only [retryable, if_true]
            by_cases allowed : budget.canCallTool = true
            · simp only [allowed, if_true]
              obtain ⟨answered, invocations, extra, ran, discipline⟩ :=
                inductionHypothesis (executed + 1) (invoked + 1)
                  budget.recordToolCall
              refine
                ⟨⟨.invokeTool spec.name arguments, behaviours invoked⟩ ::
                    answered,
                  invocations, extra + 1, ?_,
                  discipline.repeated_after
                    (retryableFailure_of_judged judged retryable)
                    allowed⟩
              have count :
                  invoked + 1 + extra + 1 = invoked + (extra + 1) + 1 := by
                omega
              rw [ran, count]
              rfl
            · simp only [allowed]
              exact
                ⟨_, _, 0, rfl, .single (error_iff_of_judged judged _)⟩
          · simp only [retryable]
            exact
              ⟨_, _, 0, rfl, .single (error_iff_of_judged judged _)⟩

/-! ## What is refused before anything is invoked -/

/-- A tool without a text named `limit`, which could not be compared. -/
def ComparableLimit (spec : ToolSpec) : Prop :=
  spec.inputSchema.properties.lookup "limit" ≠ some .string

/-- An error of a loop over a list is an error of one of its items. -/
theorem forM_eq_error
    {Item Error : Type}
    {check : Item → Except Error Unit}
    {items : List Item}
    {error : Error}
    (failed : items.forM check = .error error) :
    ∃ item ∈ items, check item = .error error := by
  induction items with
  | nil => cases failed
  | cons first rest inductionHypothesis =>
      change (check first >>= fun _ => rest.forM check) = _ at failed
      cases checked : check first with
      | error reported =>
          rw [checked] at failed
          cases failed
          exact ⟨first, List.mem_cons_self, checked⟩
      | ok _ =>
          rw [checked] at failed
          obtain ⟨item, member, error⟩ := inductionHypothesis failed
          exact ⟨item, List.mem_cons_of_mem _ member, error⟩

/--
Checking an argument raises a `ValueError`, or a text named `limit` is compared
with numbers.
-/
theorem validateArgument_error_cases
    {spec : ToolSpec}
    {argument : String × Json}
    {error : InputError}
    (failed : validateArgument spec argument = .error error) :
    (∃ message, error = .value message) ∨
      ((∃ message, error = .type message) ∧
        argument.1 = "limit" ∧
        ∃ expected text,
          spec.inputSchema.properties.lookup argument.1 = some expected ∧
            expected.accepts argument.2 = true ∧
            argument.2 = .string text) := by
  unfold validateArgument at failed
  split at failed
  · cases failed
  · rename_i expected declared
    split at failed
    · cases failed
      exact .inl ⟨_, rfl⟩
    · rename_i accepted
      split at failed
      · cases failed
        exact .inl ⟨_, rfl⟩
      · split at failed
        · rename_i text isText
          generalize (if argument.1 = "query" then 8192 else 512) = bound
            at failed
          split at failed
          · cases failed
            exact .inl ⟨_, rfl⟩
          · split at failed
            · rename_i isLimit
              cases failed
              exact
                .inr
                  ⟨⟨_, rfl⟩, isLimit, expected, text, declared,
                    eq_true_of_ne_false accepted, isText⟩
            · cases failed
        · split at failed
          · cases failed
            exact .inl ⟨_, rfl⟩
          · cases failed

/-- Checking an input raises a `ValueError`, or what a part of it raises. -/
theorem validateInput_error_cases
    {tools : JsonTools}
    {spec : ToolSpec}
    {payload : Json}
    {error : InputError}
    (failed : validateInput tools spec payload = .error error) :
    (∃ message, error = .value message) ∨
      ∃ fields,
        payload = .object fields ∧
          ((∃ undumped,
              tools.dumps payload = .error undumped ∧
                error = undumped.inputError) ∨
            ∃ argument ∈ fields,
              validateArgument spec argument = .error error) := by
  unfold validateInput at failed
  split at failed
  · rename_i fields
    dsimp only at failed
    split at failed
    · rename_i undumped raised
      cases failed
      exact .inr ⟨fields, rfl, .inl ⟨undumped, raised, rfl⟩⟩
    · split at failed
      · cases failed
        exact .inl ⟨_, rfl⟩
      · split at failed
        · cases failed
          exact .inl ⟨_, rfl⟩
        · split at failed
          · cases failed
            exact .inl ⟨_, rfl⟩
          · cases checked : fields.forM (validateArgument spec) with
            | ok _ =>
                rw [checked] at failed
                cases failed
            | error reported =>
                rw [checked] at failed
                cases failed
                exact .inr ⟨fields, rfl, .inr (forM_eq_error checked)⟩
  · cases failed
    exact .inl ⟨_, rfl⟩

/-- Checking the input of such a tool raises no `TypeError`. -/
theorem validateInput_ne_type
    {tools : JsonTools}
    {spec : ToolSpec}
    (comparable : ComparableLimit spec)
    (payload : Json)
    (message : String) :
    validateInput tools spec payload ≠ .error (.type message) := by
  intro failed
  rcases validateInput_error_cases failed with
    ⟨reported, same⟩ |
      ⟨fields, -, ⟨undumped, -, same⟩ | ⟨argument, -, raised⟩⟩
  · cases same
  · cases undumped with
    | value reported => cases same
    | recursion reported => cases same
  · rcases validateArgument_error_cases raised with
      ⟨reported, same⟩ |
        ⟨-, isLimit, expected, text, declared, accepted, isText⟩
    · cases same
    · rw [isLimit] at declared
      rw [isText] at accepted
      cases expected with
      | string => exact comparable declared
      | integer => cases accepted
      | number => cases accepted
      | boolean => cases accepted

/-- A dictionary on which `json.dumps` raises a `RecursionError`. -/
def TooDeep (tools : JsonTools) (payload : Json) : Prop :=
  (∃ fields, payload = .object fields) ∧
    ∃ message, tools.dumps payload = .error (.recursion message)

/-- Checking an input raises a `RecursionError` exactly if it is too deep. -/
theorem validateInput_recursion_iff
    {tools : JsonTools}
    {spec : ToolSpec}
    {payload : Json} :
    (∃ message,
        validateInput tools spec payload = .error (.recursion message)) ↔
      TooDeep tools payload := by
  constructor
  · rintro ⟨message, failed⟩
    rcases validateInput_error_cases failed with
      ⟨reported, same⟩ |
        ⟨fields, isObject, ⟨undumped, dumped, same⟩ |
          ⟨argument, -, raised⟩⟩
    · cases same
    · cases undumped with
      | value reported => cases same
      | recursion reported => exact ⟨⟨fields, isObject⟩, reported, dumped⟩
    · rcases validateArgument_error_cases raised with
        ⟨reported, same⟩ | ⟨⟨reported, same⟩, -⟩
      · cases same
      · cases same
  · rintro ⟨⟨fields, rfl⟩, message, undumped⟩
    refine ⟨message, ?_⟩
    simp only [validateInput, undumped, DumpsError.inputError]

/-- None of the six tools has a text named `limit`. -/
theorem registryWithRetries_comparable
    {retries : String → Nat}
    {name : String}
    {spec : ToolSpec}
    (registered : (registryWithRetries retries).get name = some spec) :
    ComparableLimit spec ∧ spec.maxRetries = retries name := by
  have member := List.mem_of_find?_eq_some registered
  have named := List.find?_some registered
  simp only [decide_eq_true_eq] at named
  obtain ⟨original, listed, rfl⟩ := List.mem_map.mp member
  refine ⟨?_, congrArg retries named⟩
  have comparable :
      ∀ spec ∈ readonlyRegistry, ComparableLimit spec := by
    unfold ComparableLimit
    decide
  exact comparable original listed

/-- A call that is refused keeps the discipline: nothing is invoked. -/
theorem refusedCall_discipline
    (tools : JsonTools)
    (retries : Nat)
    (behaviours : Nat → HandlerOutcome)
    (budget : BudgetTracker)
    (toolCallId : Uuid)
    (name : String)
    (payload : Json)
    {status : ToolCallStatus}
    (unsuccessful : status ≠ .succeeded)
    (error category : String) :
    CallDiscipline tools retries behaviours budget budget
      (refusedCall tools toolCallId name payload status error category)
      0 where
  counted := rfl
  charged := .nothing budget
  limited := Nat.zero_le _
  within := Nat.le_max_left ..
  repeated _ := nofun
  succeeded := by
    constructor
    · exact fun succeeded => absurd succeeded unsuccessful
    · rintro ⟨last, ⟨⟩, -⟩
  emptyOutput _ := rfl

/-- A call that is executed keeps the discipline of its invocations. -/
theorem executedCall_discipline
    {tools : JsonTools}
    {spec : ToolSpec}
    {behaviours : Nat → HandlerOutcome}
    {budget : BudgetTracker}
    {invocations : Invocations}
    {extra : Nat}
    (toolCallId : Uuid)
    (name : String)
    (arguments : Json)
    (allowed : budget.canCallTool = true)
    (right : JudgedRight invocations.outcome)
    (charged :
      budget.Charged invocations.budget invocations.attemptCount)
    (discipline :
      InvocationDiscipline tools spec behaviours spec.maxRetries 0 0
        budget.recordToolCall invocations extra) :
    CallDiscipline tools spec.maxRetries behaviours budget
      invocations.budget
      (executedCall tools toolCallId name arguments invocations)
      (extra + 1) := by
  have counted : invocations.attemptCount = extra + 1 := by
    have counted := discipline.counted
    omega
  have last :
      (∃ last,
          extra + 1 = last + 1 ∧
            ReturnedAcceptable tools (behaviours last)) ↔
        ∃ output, invocations.outcome = .ok output := by
    rw [discipline.succeeded, Nat.zero_add]
    constructor
    · rintro ⟨last, same, acceptable⟩
      rwa [Nat.succ.inj same]
    · exact fun acceptable => ⟨extra, rfl, acceptable⟩
  refine
    ⟨?_, counted ▸ charged, Nat.succ_le_succ discipline.limited, ?_, ?_,
      ?_, ?_⟩
  · unfold executedCall
    split <;> exact counted
  · have within := discipline.within
    simp only [BudgetTracker.recordToolCall] at within
    simp only [BudgetTracker.canCallTool, decide_eq_true_eq] at allowed
    omega
  · intro earlier before
    have repeated :=
      discipline.repeated earlier (Nat.lt_of_succ_lt_succ before)
    rwa [Nat.zero_add] at repeated
  · rw [last]
    unfold executedCall
    split
    · rename_i output judged
      exact iff_of_true rfl ⟨output, judged⟩
    · rename_i failure judged
      refine iff_of_false (right.failed failure judged) ?_
      rintro ⟨output, succeeded⟩
      rw [judged] at succeeded
      cases succeeded
  · intro unsuccessful
    unfold executedCall at unsuccessful ⊢
    split
    · rename_i output judged
      rw [judged] at unsuccessful
      exact absurd rfl unsuccessful
    · rfl

/-- A call that checks an input too deep for `json.dumps`. -/
def RaisesRecursionError
    (tools : JsonTools)
    (registry : ToolRegistry)
    (budget : BudgetTracker)
    (name : String)
    (payload : Json) : Prop :=
  (registry.get name).isSome = true ∧
    budget.canCallTool = true ∧
    TooDeep tools payload

/-- A call that raises returns nothing. -/
theorem converse_of_raisesRecursionError
    {tools : JsonTools}
    {registry : ToolRegistry}
    {budget : BudgetTracker}
    {name : String}
    {payload : Json}
    (behaviours : Nat → HandlerOutcome)
    (toolCallId : Uuid)
    (raises : RaisesRecursionError tools registry budget name payload) :
    (ToolGateway.call tools registry budget name payload).converse
        (handlerWorld behaviours toolCallId) 0 =
      none := by
  obtain ⟨isRegistered, allowed, tooDeep⟩ := raises
  obtain ⟨spec, registered⟩ := Option.isSome_iff_exists.mp isRegistered
  obtain ⟨message, raised⟩ :=
    (@validateInput_recursion_iff tools spec payload).mpr tooDeep
  unfold ToolGateway.call
  rw [Program.converse_bind]
  simp only [freshId, Program.converse, handlerWorld, Option.map_some,
    Option.bind_some, registered, allowed, if_true, raised,
    Option.map_none]

/--
Whatever the handlers of the six tools do, a call returns a result and keeps the
discipline, but for one kind of call: of a tool within the budget, with an input
on which `json.dumps` raises a `RecursionError`, which then escapes.
-/
theorem tool_gateway_discipline
    (tools : JsonTools)
    (retries : String → Nat)
    (budget : BudgetTracker)
    (name : String)
    (payload : Json)
    (behaviours : Nat → HandlerOutcome)
    (toolCallId : Uuid) :
    (∃ answered call after invocations,
        (ToolGateway.call tools (registryWithRetries retries) budget name
                payload).converse
              (handlerWorld behaviours toolCallId) 0 =
            some (answered, (call, after), invocations) ∧
          CallDiscipline tools (retries name) behaviours budget after call
            invocations) ↔
      ¬ RaisesRecursionError tools (registryWithRetries retries) budget
        name payload := by
  constructor
  · rintro ⟨answered, call, after, invocations, ran, -⟩ raises
    rw [converse_of_raisesRecursionError behaviours toolCallId raises]
      at ran
    cases ran
  intro quiet
  unfold ToolGateway.call
  rw [Program.converse_bind]
  simp only [freshId, Program.converse, handlerWorld, Option.map_some,
    Option.bind_some]
  have refused
      {status : ToolCallStatus}
      (unsuccessful : status ≠ .succeeded)
      (error category : String) :=
    refusedCall_discipline tools (retries name) behaviours budget
      toolCallId name payload unsuccessful error category
  cases registered : (registryWithRetries retries).get name with
  | none =>
      exact ⟨_, _, _, 0, rfl, refused (by decide) _ _⟩
  | some spec =>
      obtain ⟨comparable, sameRetries⟩ :=
        registryWithRetries_comparable registered
      by_cases allowed : budget.canCallTool = true
      · simp only [allowed, if_true]
        cases validated : validateInput tools spec payload with
        | error error =>
            cases error with
            | type message =>
                exact
                  absurd validated
                    (validateInput_ne_type comparable payload message)
            | recursion message =>
                have tooDeep :=
                  validateInput_recursion_iff.mp ⟨message, validated⟩
                have isRegistered := congrArg Option.isSome registered
                exact absurd ⟨isRegistered, allowed, tooDeep⟩ quiet
            | value message =>
                exact ⟨_, _, _, 0, rfl, refused (by decide) _ _⟩
        | ok arguments =>
            obtain ⟨answered, invocations, extra, ran, discipline⟩ :=
              invokeHandler_discipline tools spec arguments behaviours
                toolCallId spec.maxRetries 0 0 budget.recordToolCall
            have returned := Program.returns_of_converse ran
            have right :=
              Program.AlwaysUnder.returned_of_always
                (invokeHandler_right tools spec arguments
                  spec.maxRetries 0 budget.recordToolCall)
                returned
            have charged :=
              Program.AlwaysUnder.returned_of_always
                (invokeHandler_charged tools spec arguments
                  spec.maxRetries
                  ((BudgetTracker.Charged.nothing budget).record
                    allowed))
                returned
            have disciplined :=
              executedCall_discipline toolCallId name arguments allowed
                right charged discipline
            rw [sameRetries] at disciplined
            rw [Nat.zero_add] at ran
            simp only [Program.converse_bind, ran, Option.bind_some,
              Program.converse, Option.map_some]
            exact ⟨_, _, _, extra + 1, rfl, disciplined⟩
      · simp only [allowed]
        exact ⟨_, _, _, 0, rfl, refused (by decide) _ _⟩

/-- A value nested as often as a number says. -/
def nestedPayload : Nat → Json
  | 0 => .null
  | depth + 1 => .object [("query", nestedPayload depth)]

/-- How often dictionaries of one field are nested in a value. -/
def fieldDepth : Json → Nat
  | .object [(_, value)] => fieldDepth value + 1
  | _ => 0

/-- `json.dumps` of nested dictionaries, where a nesting of 100000 is too much. -/
def recursiveTools : JsonTools :=
  { sampleJsonTools with
    dumps := fun value =>
      if 100000 ≤ fieldDepth value then
        .error
          (.recursion
            "maximum recursion depth exceeded while encoding a JSON object")
      else
        .ok "" }

/-- A nested value is as deep as was asked for. -/
theorem fieldDepth_nestedPayload (depth : Nat) :
    fieldDepth (nestedPayload depth) = depth := by
  induction depth with
  | zero =>
      rfl
  | succ depth inductionHypothesis =>
      rw [nestedPayload, fieldDepth, inductionHypothesis]

/-- A value that is nested is a dictionary. -/
theorem nestedPayload_object
    {depth : Nat}
    (nested : 0 < depth) :
    ∃ fields, nestedPayload depth = .object fields := by
  obtain ⟨before, rfl⟩ := Nat.exists_eq_succ_of_ne_zero nested.ne'
  exact ⟨_, rfl⟩

/-- A query that is nested too deeply makes the call raise. -/
theorem nested_payload_raises :
    ¬ ∃ answered call after invocations,
        (ToolGateway.call recursiveTools
                (registryWithRetries fun _ => 1)
                { maxToolCalls := 8, maxSteps := 5 }
                "query_database_readonly"
                (nestedPayload 100000)).converse
              (handlerWorld (fun _ => .timedOut) 0) 0 =
            some (answered, (call, after), invocations) ∧
          CallDiscipline recursiveTools 1 (fun _ => .timedOut)
            { maxToolCalls := 8, maxSteps := 5 } after call
            invocations := by
  rintro ⟨answered, call, after, invocations, ran, -⟩
  have tooDeep : TooDeep recursiveTools (nestedPayload 100000) :=
    ⟨nestedPayload_object (by decide),
      "maximum recursion depth exceeded while encoding a JSON object", by
        simp [recursiveTools, fieldDepth_nestedPayload]⟩
  have raises :
      RaisesRecursionError recursiveTools (registryWithRetries fun _ => 1)
        { maxToolCalls := 8, maxSteps := 5 } "query_database_readonly"
        (nestedPayload 100000) :=
    ⟨by decide, by decide, tooDeep⟩
  rw [converse_of_raisesRecursionError (fun _ => .timedOut) 0 raises]
    at ran
  cases ran

end IncidentPilot
