import IncidentPilot.DecisionPrompts
import Mathlib.Algebra.Group.Nat.Defs

/-!
# The lengths of prompts

Bounds for the parts of a prompt: the instructions and the schema in front of
it, the envelope with its escaped excerpt, and the message that asks for a
repair.
-/

namespace IncidentPilot

/-- A text that is given by its characters is no longer than they are. -/
theorem length_le_of_eq_ofList
    {text : String}
    {chars : List Char}
    {bound : Nat}
    (same : text = String.ofList chars)
    (few : chars.length ≤ bound) :
    text.length ≤ bound := by
  rw [same, String.length_ofList]
  exact few

/-- A text that is given by its characters has as many of them. -/
theorem length_eq_of_eq_ofList
    {text : String}
    {chars : List Char}
    {count : Nat}
    (same : text = String.ofList chars)
    (counted : chars.length = count) :
    text.length = count := by
  rw [same, String.length_ofList]
  exact counted

/-- Two bounded texts, one after the other. -/
theorem length_append_le
    {first second : String}
    {firstBound secondBound : Nat}
    (firstShort : first.length ≤ firstBound)
    (secondShort : second.length ≤ secondBound) :
    (first ++ second).length ≤ firstBound + secondBound := by
  rw [String.length_append]
  exact Nat.add_le_add firstShort secondShort

/-- Bounded texts with a separator between them. -/
theorem length_intercalate_le
    {separator : String}
    {texts : List String}
    {bound : Nat}
    (short : ∀ text ∈ texts, text.length ≤ bound) :
    (separator.intercalate texts).length ≤
      texts.length * (bound + separator.length) := by
  induction texts with
  | nil =>
      simp
  | cons text rest inductionHypothesis =>
      have first := short text List.mem_cons_self
      have others :=
        inductionHypothesis fun found member =>
          short found (List.mem_cons_of_mem _ member)
      cases rest with
      | nil =>
          simp only [String.intercalate_singleton, List.length_cons,
            List.length_nil]
          omega
      | cons next rest =>
          rw [String.intercalate_cons_cons, String.length_append,
            String.length_append, List.length_cons, Nat.succ_mul]
          omega

/-- A stripped text is no longer. -/
theorem length_strip_le (text : String) :
    (strip text).length ≤ text.length := by
  have left : (text.toList.dropWhile isSpace).Sublist text.toList :=
    List.dropWhile_sublist isSpace
  have right :
      ((text.toList.dropWhile isSpace).reverse.dropWhile isSpace).Sublist
        (text.toList.dropWhile isSpace).reverse :=
    List.dropWhile_sublist isSpace
  calc
    (strip text).length =
        ((text.toList.dropWhile isSpace).reverse.dropWhile
          isSpace).length := by
      rw [strip, String.length_ofList, List.length_reverse]
    _ ≤ (text.toList.dropWhile isSpace).length :=
      right.length_le.trans_eq List.length_reverse
    _ ≤ text.length := by
      rw [← String.length_toList]
      exact left.length_le

/-- A literal of at most 150 characters. -/
theorem length_sentence
    {text : String}
    {chars : List Char}
    (same : text = String.ofList chars)
    (few : chars.length ≤ 150) :
    text.length ≤ 150 :=
  length_le_of_eq_ofList same few

/-- The tool names with commas. -/
theorem length_promptedTools :
    (", ".intercalate promptedTools).length ≤ 192 := by
  apply @length_intercalate_le ", " promptedTools 30
  intro name member
  simp only [promptedTools, List.mem_cons, List.not_mem_nil, or_false]
    at member
  rcases member with rfl | rfl | rfl | rfl | rfl | rfl
  all_goals exact length_le_of_eq_ofList rfl (by decide)

/-- The guide to the arguments of the tools. -/
theorem length_toolArgumentGuide : toolArgumentGuide.length ≤ 1212 := by
  apply @length_intercalate_le "\n" guideLines 100
  intro line member
  simp only [guideLines, List.mem_cons, List.not_mem_nil, or_false]
    at member
  rcases member with
    rfl | rfl | rfl | rfl | rfl | rfl | rfl | rfl | rfl | rfl | rfl | rfl
  all_goals exact length_le_of_eq_ofList rfl (by decide)

/-- The policy for untrusted data. -/
theorem length_dataPolicy : dataPolicy.length ≤ 600 :=
  length_append_le
    (length_append_le
      (length_append_le (length_sentence rfl (by decide))
        (length_sentence rfl (by decide)))
      (length_sentence rfl (by decide)))
    (length_sentence rfl (by decide))

/-- The instructions of every decision are short. -/
theorem length_instructions_le (prompt : DecisionPrompt) :
    prompt.instructions.length ≤ 3000 := by
  have tools := length_promptedTools
  have guide := length_toolArgumentGuide
  have policy := length_dataPolicy
  cases prompt with
  | nextAction incident evidence =>
      refine
        Nat.le_trans
          (length_append_le
            (length_append_le
              (length_append_le
                (length_append_le
                  (length_append_le
                    (length_append_le (length_sentence rfl ?_) tools)
                    (length_sentence rfl ?_))
                  (length_sentence rfl ?_))
                (length_sentence rfl ?_))
              guide)
            policy)
          ?_
      all_goals decide
  | proposeHypothesis incident evidence =>
      refine
        Nat.le_trans
          (length_append_le (length_sentence rfl ?_) policy)
          ?_
      all_goals decide
  | verificationAction incident evidence hypothesis =>
      refine
        Nat.le_trans
          (length_append_le
            (length_append_le
              (length_append_le
                (length_append_le
                  (length_append_le (length_sentence rfl ?_)
                    (length_sentence rfl ?_))
                  tools)
                (length_sentence rfl ?_))
              guide)
            policy)
          ?_
      all_goals decide
  | verify hypothesis evidence =>
      refine
        Nat.le_trans
          (length_append_le (length_sentence rfl ?_) policy)
          ?_
      all_goals decide
  | conclude incident hypothesis evidence =>
      refine
        Nat.le_trans
          (length_append_le
            (length_append_le
              (length_append_le (length_sentence rfl ?_)
                (length_sentence rfl ?_))
              (length_sentence rfl ?_))
            policy)
          ?_
      all_goals decide
  | patch context =>
      refine
        Nat.le_trans
          (length_append_le
            (length_append_le (length_sentence rfl ?_)
              (length_sentence rfl ?_))
            policy)
          ?_
      all_goals decide

/-- The instruction with the schema, and the instructions before it. -/
theorem length_systemPrompt_le
    {tools : PromptTools}
    (schemas : ∀ schema, (tools.schemaJson schema).length ≤ 5000)
    (prompt : DecisionPrompt) :
    (prompt.systemPrompt tools).length ≤ 8151 := by
  have line : "\n".length ≤ 1 := by
    decide
  refine (length_strip_le _).trans ?_
  refine
    Nat.le_trans
      (length_append_le
        (length_append_le (length_instructions_le prompt) line)
        (length_append_le (length_sentence rfl ?_)
          (schemas prompt.schema)))
      ?_
  all_goals decide

/-- An excerpt is marked and escaped. -/
theorem length_truncatedForm_le
    {repr : Rat → List Char}
    {excerpt : String}
    (printable : Json.PrintableText excerpt.toList) :
    (Json.dumps repr (truncatedForm excerpt)).length ≤
      2 * excerpt.length + 39 := by
  have quoted := Json.length_quotedText_le printable
  have truncated : (Json.quotedText "truncated").length = 11 := by
    decide
  have data : (Json.quotedText "data_excerpt").length = 14 := by
    decide
  have isTrue : "true".toList.length = 4 := by
    decide
  rw [Json.length_dumps]
  simp only [truncatedForm, Json.characters, Json.fieldCharacters,
    Json.separated, if_true, List.length_append, List.length_cons,
    List.length_nil, truncated, data, isTrue]
  omega

/-- Data is shown as it is if it fits, or else as an excerpt. -/
theorem length_excerpt_le
    {repr : Rat → List Char}
    (floats : ∀ value, Json.PrintableText (repr value))
    (limit : Nat)
    (shown : Json) :
    (Json.dumps repr
        (if limit < (Json.dumps repr shown).length then
          truncatedForm
            (String.ofList
              ((Json.dumps repr shown).toList.take (limit / 2)))
        else
          shown)).length ≤ limit + 39 := by
  split
  · have printable :
        Json.PrintableText
          (String.ofList
            ((Json.dumps repr shown).toList.take (limit / 2))).toList := by
      intro char member
      rw [String.toList_ofList] at member
      have inText := List.mem_of_mem_take member
      rw [Json.dumps, String.toList_ofList] at inText
      exact Json.characters_printable floats shown char inText
    have excerpt := @length_truncatedForm_le repr _ printable
    rw [String.length_ofList] at excerpt
    have half := List.length_take_le (limit / 2) (Json.dumps repr shown).toList
    omega
  · rename_i short
    omega

/-- An envelope is not much longer than its limit. -/
theorem length_untrustedContext_le
    {json : JsonTools}
    {repr : Rat → List Char}
    (floats : ∀ value, Json.PrintableText (repr value))
    (limit : Nat)
    (value : Json) :
    (untrustedContext json (Json.dumps repr) limit value).length ≤
      limit + 83 := by
  have opening : "UNTRUSTED_DATA_JSON\n".length ≤ 20 :=
    length_le_of_eq_ofList rfl (by decide)
  have closing : "\nEND_UNTRUSTED_DATA_JSON".length ≤ 24 :=
    length_le_of_eq_ofList rfl (by decide)
  have data :
      (Json.dumps repr
        (untrustedData json (Json.dumps repr) limit value)).length ≤
        limit + 39 :=
    length_excerpt_le floats limit _
  have all := length_append_le (length_append_le opening data) closing
  exact all.trans (by omega)

/-- A repair message shows at most 600 and 2000 characters. -/
theorem length_repairMessage (content error : String) :
    (repairMessage content error).content.length =
      100 + min 600 error.length + min 2000 content.length := by
  have invalid :
      "The previous output was invalid. Return only schema-valid JSON.\n".length = 64 :=
    length_eq_of_eq_ofList rfl (by decide)
  have validation : "Validation error: ".length = 18 :=
    length_eq_of_eq_ofList rfl (by decide)
  have previous : "\nPrevious output: ".length = 18 :=
    length_eq_of_eq_ofList rfl (by decide)
  rw [repairMessage, String.length_append, String.length_append,
    String.length_append, String.length_append, invalid, validation,
    previous, String.length_ofList, String.length_ofList,
    List.length_take, List.length_take, String.length_toList,
    String.length_toList]
  omega

end IncidentPilot
