import IncidentPilot.PromptLengths

/-!
# The context budget of a prompt

Every prompt of the decision model fits the budget of the provider with its
longest repair message, but for the one that selects a verification: it appends
the hypothesis of the model to the envelope, whatever its length.
-/

namespace IncidentPilot

namespace DecisionPrompt

/-- A request and every repair of it are within the budget. -/
def AlwaysFits (tools : PromptTools) (prompt : DecisionPrompt) : Prop :=
  contextLength (prompt.systemPrompt tools) (prompt.messages tools) ≤
      40000 ∧
    ∀ content error,
      contextLength (prompt.systemPrompt tools)
          (prompt.messages tools ++ [repairMessage content error]) ≤
        40000

/-- No call ends on the budget, whatever is answered and rejected. -/
def NeverExceeds (tools : PromptTools) (prompt : DecisionPrompt) : Prop :=
  ∀ (Value : Type) (complete : Completion)
      (validate : String → Except String Value),
    (∀ call asked, complete call asked ≠ .error budgetExceeded) →
      completeStructured (budgeted (prompt.systemPrompt tools) complete)
          validate (prompt.messages tools) ≠
        .error budgetExceeded

end DecisionPrompt

/-- The characters that are left for the hypothesis of a verification. -/
def roomForHypothesis
    (tools : PromptTools)
    (incident : Json)
    (evidence : List Json) : Nat :=
  40000 -
    ((structuredSystem tools verificationInstructions
        .nextAction).length +
      (decisionContext tools incident evidence).length + 12 + 2700)

/-- A text of one letter. -/
def letters (count : Nat) : String :=
  String.ofList (List.replicate count 'a')

/-- A text of one letter has as many characters. -/
@[simp] theorem length_letters (count : Nat) :
    (letters count).length = count := by
  rw [letters, String.length_ofList, List.length_replicate]

/-- A text of letters is an answer without blanks and fences. -/
theorem unfenced_letters (count : Nat) :
    unfenced (letters count) = letters count := by
  have noSpace : isSpace 'a' = false := by
    decide
  have stripped : strip (letters count) = letters count := by
    simp only [strip, letters, String.toList_ofList,
      List.dropWhile_replicate, noSpace, Bool.false_eq_true, if_false,
      List.reverse_replicate]
  have noFence : fence3.isPrefixOf (letters count).toList = false := by
    rw [letters, String.toList_ofList]
    cases count with
    | zero =>
        rfl
    | succ count =>
        rw [List.replicate_succ]
        rfl
  simp only [unfenced, stripped, noFence, Bool.false_eq_true, if_false]

/-- One more message adds its characters. -/
theorem contextLength_append
    (system : String)
    (messages : List LLMMessage)
    (message : LLMMessage) :
    contextLength system (messages ++ [message]) =
      contextLength system messages + message.content.length := by
  simp only [contextLength, List.map_append, List.map_cons, List.map_nil,
    List.sum_append, List.sum_cons, List.sum_nil]
  omega

/-- A request that is too long is refused. -/
theorem budgeted_refuses
    {system : String}
    {complete : Completion}
    {call : Nat}
    {messages : List LLMMessage}
    (tooLong : 40000 < contextLength system messages) :
    budgeted system complete call messages = .error budgetExceeded :=
  if_pos tooLong

/-- A request within the budget is passed on. -/
theorem budgeted_passes
    {system : String}
    {complete : Completion}
    {call : Nat}
    {messages : List LLMMessage}
    (fits : contextLength system messages ≤ 40000) :
    budgeted system complete call messages = complete call messages :=
  if_neg (Nat.not_lt.mpr fits)

/-- A loop whose requests fit does not end on the budget. -/
theorem repairLoop_within_budget
    {Value : Type}
    {system : String}
    {complete : Completion}
    {validate : String → Except String Value}
    {messages : List LLMMessage}
    (honest :
      ∀ call asked, complete call asked ≠ .error budgetExceeded)
    (repairs :
      ∀ content error,
        contextLength system (messages ++ [repairMessage content error]) ≤
          40000)
    {remaining call : Nat}
    {asked : List LLMMessage}
    (fits : contextLength system asked ≤ 40000) :
    repairLoop (budgeted system complete) validate messages remaining call
        asked ≠
      .error budgetExceeded := by
  -- The first request fits; every later one is a repair.
  induction remaining generalizing call asked with
  | zero =>
      intro ended
      cases ended
  | succ remaining inductionHypothesis =>
      rw [repairLoop, budgeted_passes fits]
      cases answered : complete call asked with
      | error error =>
          intro ended
          cases ended
          exact honest call asked answered
      | ok response =>
          simp only [bind, Except.bind]
          cases validate (unfenced response) with
          | ok value =>
              intro ended
              cases ended
          | error error =>
              exact inductionHypothesis (repairs _ error)

/-- A first request that is too long ends a call. -/
theorem completeStructured_refused
    {Value : Type}
    {system : String}
    {complete : Completion}
    {validate : String → Except String Value}
    {messages : List LLMMessage}
    (tooLong : 40000 < contextLength system messages) :
    completeStructured (budgeted system complete) validate messages =
      .error budgetExceeded := by
  rw [completeStructured, repairLoop, budgeted_refuses tooLong]
  rfl

/-- A repair that is too long ends a call. -/
theorem completeStructured_repair_refused
    {system content error : String}
    {messages : List LLMMessage}
    (clean : unfenced content = content)
    (tooLong :
      40000 <
        contextLength system
          (messages ++ [repairMessage content error])) :
    completeStructured (budgeted system fun _ _ => .ok content)
        (fun _ => (.error error : Except String Unit)) messages =
      .error budgetExceeded := by
  by_cases first : contextLength system messages ≤ 40000
  · rw [completeStructured, repairLoop, budgeted_passes first]
    simp only [bind, Except.bind, clean]
    rw [repairLoop, budgeted_refuses tooLong]
    rfl
  · exact completeStructured_refused (Nat.lt_of_not_le first)

namespace DecisionPrompt

variable {tools : PromptTools} {prompt : DecisionPrompt}

/-- A prompt always fits if its longest repair does. -/
theorem alwaysFits_iff :
    prompt.AlwaysFits tools ↔
      contextLength (prompt.systemPrompt tools) (prompt.messages tools) +
          2700 ≤
        40000 := by
  constructor
  · rintro ⟨-, repairs⟩
    have longest := repairs (letters 2000) (letters 600)
    rw [contextLength_append, length_repairMessage, length_letters,
      length_letters] at longest
    omega
  · intro room
    constructor
    · omega
    · intro content error
      rw [contextLength_append, length_repairMessage]
      omega

/-- A call ends on the budget for some answers if a request is too long. -/
theorem neverExceeds_iff_alwaysFits :
    prompt.NeverExceeds tools ↔ prompt.AlwaysFits tools := by
  constructor
  · intro never
    rw [alwaysFits_iff]
    by_contra tooLong
    have repair :
        40000 <
          contextLength (prompt.systemPrompt tools)
            (prompt.messages tools ++
              [repairMessage (letters 2000) (letters 600)]) := by
      rw [contextLength_append, length_repairMessage, length_letters,
        length_letters]
      omega
    apply never Unit (fun _ _ => .ok (letters 2000))
      fun _ => .error (letters 600)
    · intro call asked ended
      cases ended
    · exact
        completeStructured_repair_refused (unfenced_letters 2000) repair
  · rintro ⟨first, repairs⟩ Value complete validate honest
    exact repairLoop_within_budget honest repairs first

/-- The characters of a decision without repairs. -/
theorem contextLength_messages :
    contextLength (prompt.systemPrompt tools) (prompt.messages tools) =
      (prompt.systemPrompt tools).length +
        (prompt.userMessage tools).length := by
  simp only [contextLength, messages, List.map_cons, List.map_nil,
    List.sum_cons, List.sum_nil]
  omega

/-- A prompt of instructions, a schema and an envelope always fits. -/
theorem alwaysFits_of_envelope
    (schemas : ∀ schema, (tools.schemaJson schema).length ≤ 5000)
    (envelope : (prompt.userMessage tools).length ≤ 24083) :
    prompt.AlwaysFits tools := by
  have system := length_systemPrompt_le schemas prompt
  rw [alwaysFits_iff, contextLength_messages]
  omega

end DecisionPrompt

section

variable {tools : PromptTools}

/-- An envelope of a dictionary is bounded. -/
theorem length_envelope_le
    (floats : ∀ value, Json.PrintableText (tools.floatRepr value))
    (fields : List (String × Json)) :
    (tools.envelope fields).length ≤ 24083 :=
  length_untrustedContext_le floats 24000 (.object fields)

/-- The envelope of an incident and its evidence is bounded. -/
theorem length_decisionContext_le
    (floats : ∀ value, Json.PrintableText (tools.floatRepr value))
    (incident : Json)
    (evidence : List Json) :
    (decisionContext tools incident evidence).length ≤ 24083 :=
  length_envelope_le floats _

/-- There is room for a hypothesis of five thousand characters. -/
theorem roomForHypothesis_ge
    (schemas : ∀ schema, (tools.schemaJson schema).length ≤ 5000)
    (floats : ∀ value, Json.PrintableText (tools.floatRepr value))
    (incident : Json)
    (evidence : List Json) :
    5000 ≤ roomForHypothesis tools incident evidence := by
  have system :
      (structuredSystem tools verificationInstructions
        .nextAction).length ≤ 8151 :=
    length_systemPrompt_le schemas
      (.verificationAction incident evidence ⟨"", [], ""⟩)
  have context := length_decisionContext_le floats incident evidence
  unfold roomForHypothesis
  omega

/-- A verification fits if its hypothesis fits the room that is left. -/
theorem verificationAction_alwaysFits_iff
    (schemas : ∀ schema, (tools.schemaJson schema).length ≤ 5000)
    (floats : ∀ value, Json.PrintableText (tools.floatRepr value))
    (incident : Json)
    (evidence : List Json)
    (hypothesis : ProposedHypothesis) :
    (DecisionPrompt.verificationAction incident evidence
        hypothesis).AlwaysFits tools ↔
      (tools.modelDumpJson hypothesis).length ≤
        roomForHypothesis tools incident evidence := by
  have room := roomForHypothesis_ge schemas floats incident evidence
  have label : "\nhypothesis=".length = 12 :=
    length_eq_of_eq_ofList rfl (by decide)
  have message :
      ((DecisionPrompt.verificationAction incident evidence
          hypothesis).userMessage tools).length =
        (decisionContext tools incident evidence).length + 12 +
          (tools.modelDumpJson hypothesis).length := by
    rw [DecisionPrompt.userMessage, String.length_append,
      String.length_append, label]
  have system :
      (DecisionPrompt.verificationAction incident evidence
          hypothesis).systemPrompt tools =
        structuredSystem tools verificationInstructions .nextAction :=
    rfl
  rw [DecisionPrompt.alwaysFits_iff,
    DecisionPrompt.contextLength_messages, message, system]
  unfold roomForHypothesis at room ⊢
  omega

/--
Every prompt and all its repairs fit the budget, and no call ends on it, if and
only if the prompt is not a verification whose hypothesis is longer than the
room that is left.
-/
theorem prompts_fit_iff
    (schemas : ∀ schema, (tools.schemaJson schema).length ≤ 5000)
    (floats : ∀ value, Json.PrintableText (tools.floatRepr value))
    (prompt : DecisionPrompt) :
    (prompt.AlwaysFits tools ∧ prompt.NeverExceeds tools ↔
        ∀ incident evidence hypothesis,
          prompt = .verificationAction incident evidence hypothesis →
            (tools.modelDumpJson hypothesis).length ≤
              roomForHypothesis tools incident evidence) ∧
      ∀ incident evidence,
        5000 ≤ roomForHypothesis tools incident evidence := by
  refine ⟨?_, roomForHypothesis_ge schemas floats⟩
  rw [DecisionPrompt.neverExceeds_iff_alwaysFits, and_self]
  constructor
  · rintro fits incident evidence hypothesis rfl
    exact
      (verificationAction_alwaysFits_iff schemas floats incident evidence
        hypothesis).mp fits
  · intro room
    cases prompt with
    | nextAction incident evidence =>
        exact
          DecisionPrompt.alwaysFits_of_envelope schemas
            (length_decisionContext_le floats incident evidence)
    | proposeHypothesis incident evidence =>
        exact
          DecisionPrompt.alwaysFits_of_envelope schemas
            (length_decisionContext_le floats incident evidence)
    | verificationAction incident evidence hypothesis =>
        exact
          (verificationAction_alwaysFits_iff schemas floats incident
            evidence hypothesis).mpr
            (room incident evidence hypothesis rfl)
    | verify hypothesis evidence =>
        exact
          DecisionPrompt.alwaysFits_of_envelope schemas
            (length_envelope_le floats _)
    | conclude incident hypothesis evidence =>
        exact
          DecisionPrompt.alwaysFits_of_envelope schemas
            (length_envelope_le floats _)
    | patch context =>
        exact
          DecisionPrompt.alwaysFits_of_envelope schemas
            (length_envelope_le floats _)

end

/-- A list of JSON strings without spaces. -/
def compactStrings (texts : List String) : String :=
  "[" ++
    ",".intercalate
      (texts.map fun text => String.ofList (Json.quotedText text)) ++
    "]"

/-- `model_dump_json` of a hypothesis in ASCII. -/
def compactHypothesis (hypothesis : ProposedHypothesis) : String :=
  "\x7b\"statement\":" ++
    String.ofList (Json.quotedText hypothesis.statement) ++
    (",\"evidence_ids\":" ++ compactStrings hypothesis.evidenceIds ++
      ",\"confidence\":" ++
      String.ofList (Json.quotedText hypothesis.confidence) ++ "\x7d")

/-- A text is no longer than with texts around it. -/
theorem length_le_around (first text last : String) :
    text.length ≤ (first ++ text ++ last).length := by
  rw [String.length_append, String.length_append]
  omega

/-- The JSON text of a hypothesis is longer than its statement. -/
theorem length_lt_compactHypothesis (hypothesis : ProposedHypothesis) :
    hypothesis.statement.length <
      (compactHypothesis hypothesis).length := by
  have quoted := Json.length_lt_quotedText hypothesis.statement
  rw [← @String.length_ofList (Json.quotedText _)] at quoted
  exact quoted.trans_le (length_le_around _ _ _)

/-- The schema of `VerificationDecision`, and the titles of the others. -/
def plainSchema : OutputSchema → String
  | .nextAction => "\x7b\"title\":\"NextAction\",\"type\":\"object\"\x7d"
  | .hypothesisProposal =>
      "\x7b\"title\":\"HypothesisProposal\",\"type\":\"object\"\x7d"
  | .verificationDecision =>
      "\x7b\"properties\":\x7b\"hypothesis_supported\":\x7b\"title\":\"Hypothesis Supported\",\"type\":\"boolean\"\x7d," ++
        "\"notes\":\x7b\"default\":\"\",\"title\":\"Notes\",\"type\":\"string\"\x7d,\"additional_tools\":\x7b" ++
        "\"items\":\x7b\"type\":\"string\"\x7d,\"title\":\"Additional Tools\",\"type\":\"array\"\x7d\x7d," ++
        "\"required\":[\"hypothesis_supported\"],\"title\":\"VerificationDecision\",\"type\":\"object\"\x7d"
  | .rootCauseConclusion =>
      "\x7b\"title\":\"RootCauseConclusion\",\"type\":\"object\"\x7d"
  | .patchProposal =>
      "\x7b\"title\":\"PatchProposal\",\"type\":\"object\"\x7d"

/-- Tools whose floats are all written alike. -/
def plainTools : PromptTools where
  json := sampleJsonTools
  floatRepr _ := "0.5".toList
  schemaJson := plainSchema
  modelDumpJson := compactHypothesis

/-- The schemas are short. -/
theorem length_plainSchema_le (schema : OutputSchema) :
    (plainSchema schema).length ≤ 5000 := by
  have short {text : String} (few : text.length ≤ 150) :
      text.length ≤ 5000 :=
    few.trans (by decide)
  cases schema with
  | nextAction =>
      exact short (length_sentence rfl (by decide))
  | hypothesisProposal =>
      exact short (length_sentence rfl (by decide))
  | verificationDecision =>
      refine
        Nat.le_trans
          (length_append_le
            (length_append_le
              (length_append_le (length_sentence rfl ?_)
                (length_sentence rfl ?_))
              (length_sentence rfl ?_))
            (length_sentence rfl ?_))
          ?_
      all_goals decide
  | rootCauseConclusion =>
      exact short (length_sentence rfl (by decide))
  | patchProposal =>
      exact short (length_sentence rfl (by decide))

/-- The floats are printable. -/
theorem plainTools_floats (value : Rat) :
    Json.PrintableText (plainTools.floatRepr value) := by
  change Json.PrintableText "0.5".toList
  decide

/-- A hypothesis of one sentence, with one item of evidence. -/
def shortHypothesis : ProposedHypothesis where
  statement := "orders degradation is caused by a missing index"
  evidenceIds := ["e1"]
  confidence := "MEDIUM"

/-- The question whether an item of evidence confirms a hypothesis. -/
theorem prompts_fit_verify :
    (DecisionPrompt.verify shortHypothesis
            [.object [("evidence_id", .string "e1")]]).AlwaysFits
          plainTools ∧
        (DecisionPrompt.verify shortHypothesis
            [.object [("evidence_id", .string "e1")]]).NeverExceeds
          plainTools :=
  (prompts_fit_iff length_plainSchema_le plainTools_floats
    (.verify shortHypothesis
      [.object [("evidence_id", .string "e1")]])).1.mpr
    fun _ _ _ other => by cases other

/-- A hypothesis whose statement has forty thousand characters. -/
def longHypothesis : ProposedHypothesis where
  statement := letters 40000
  evidenceIds := ["e1"]
  confidence := "MEDIUM"

/-- The verification of a long hypothesis ends on the budget. -/
theorem long_hypothesis_exceeds :
    ¬ (DecisionPrompt.verificationAction (.object [])
            [.object [("evidence_id", .string "e1")]]
            longHypothesis).AlwaysFits plainTools ∧
      completeStructured
          (budgeted
            ((DecisionPrompt.verificationAction (.object [])
                [.object [("evidence_id", .string "e1")]]
                longHypothesis).systemPrompt plainTools)
            fun _ _ => .ok "")
          (fun _ => (.ok () : Except String Unit))
          ((DecisionPrompt.verificationAction (.object [])
              [.object [("evidence_id", .string "e1")]]
              longHypothesis).messages plainTools) =
        .error budgetExceeded := by
  have statement : longHypothesis.statement.length = 40000 :=
    length_letters 40000
  have written := length_lt_compactHypothesis longHypothesis
  have dumped :
      plainTools.modelDumpJson longHypothesis =
        compactHypothesis longHypothesis :=
    rfl
  have tooLong :
      40000 <
        contextLength
          ((DecisionPrompt.verificationAction (.object [])
              [.object [("evidence_id", .string "e1")]]
              longHypothesis).systemPrompt plainTools)
          ((DecisionPrompt.verificationAction (.object [])
              [.object [("evidence_id", .string "e1")]]
              longHypothesis).messages plainTools) := by
    rw [DecisionPrompt.contextLength_messages, DecisionPrompt.userMessage,
      String.length_append, dumped]
    omega
  constructor
  · rintro ⟨first, -⟩
    omega
  · exact completeStructured_refused tooLong

end IncidentPilot
