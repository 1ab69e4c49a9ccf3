import IncidentPilot.Library.JsonText
import Mathlib.Data.List.Basic

/-!
# JSON texts in ASCII

The text of a value is printable ASCII if floats are, and such a text at most
doubles in length when it becomes a JSON string itself.
-/

namespace Json

/-- A printable character of ASCII. -/
def Printable (char : Char) : Prop :=
  32 ≤ char.toNat ∧ char.toNat ≤ 126

instance (char : Char) : Decidable (Printable char) :=
  inferInstanceAs (Decidable (_ ∧ _))

/-- A text of printable characters. -/
def PrintableText (text : List Char) : Prop :=
  ∀ char ∈ text, Printable char

instance (text : List Char) : Decidable (PrintableText text) :=
  List.decidableBAll Printable text

/-- Two texts of printable characters, one after the other. -/
theorem PrintableText.append
    {first second : List Char}
    (firstPrintable : PrintableText first)
    (secondPrintable : PrintableText second) :
    PrintableText (first ++ second) := by
  intro char member
  rcases List.mem_append.mp member with inFirst | inSecond
  · exact firstPrintable char inFirst
  · exact secondPrintable char inSecond

/-- A printable character before a text. -/
theorem PrintableText.cons
    {char : Char}
    {text : List Char}
    (first : Printable char)
    (rest : PrintableText text) :
    PrintableText (char :: text) := by
  intro found member
  rcases List.mem_cons.mp member with rfl | inRest
  · exact first
  · exact rest found inRest

/-- A hexadecimal digit is printable. -/
theorem hexDigit_printable
    {value : Nat}
    (small : value < 16) :
    Printable (hexDigit value) := by
  have all : ∀ digit < 16, Printable (hexDigit digit) := by
    decide
  exact all value small

/-- The escape of a code unit is printable. -/
theorem unitEscape_printable (unit : Nat) :
    PrintableText (unitEscape unit) := by
  have digit (value : Nat) : Printable (hexDigit (value % 16)) :=
    hexDigit_printable (Nat.mod_lt _ (by decide))
  intro char member
  simp only [unitEscape, List.mem_cons, List.not_mem_nil, or_false]
    at member
  rcases member with rfl | rfl | rfl | rfl | rfl | rfl
  · decide
  · decide
  · exact digit _
  · exact digit _
  · exact digit _
  · exact digit _

/-- An escaped character is printable. -/
theorem escaped_printable (char : Char) :
    PrintableText (escaped char) := by
  have slash : Printable '\\' := by
    decide
  unfold escaped
  split
  · exact .cons slash (.cons (by decide) fun _ none => by cases none)
  · exact .cons slash (.cons (by decide) fun _ none => by cases none)
  · exact .cons slash (.cons (by decide) fun _ none => by cases none)
  · exact .cons slash (.cons (by decide) fun _ none => by cases none)
  · exact .cons slash (.cons (by decide) fun _ none => by cases none)
  · rename_i isQuote
    have quote : Printable char := by
      simp [Printable, isQuote]
    exact .cons slash (.cons quote fun _ none => by cases none)
  · rename_i isSlash
    have alsoSlash : Printable char := by
      simp [Printable, isSlash]
    exact .cons slash (.cons alsoSlash fun _ none => by cases none)
  · split
    · rename_i printable
      exact .cons printable fun _ none => by cases none
    · unfold unicodeEscape
      split
      · exact unitEscape_printable _
      · exact (unitEscape_printable _).append (unitEscape_printable _)

/-- The escape of a printable character has at most two characters. -/
theorem length_escaped_le
    {char : Char}
    (printable : Printable char) :
    (escaped char).length ≤ 2 := by
  have inRange : 32 ≤ char.toNat ∧ char.toNat ≤ 126 := printable
  unfold escaped
  split
  all_goals try exact Nat.le_refl 2
  rw [if_pos inRange]
  exact Nat.le_succ 1

/-- A JSON string is printable. -/
theorem quotedText_printable (text : String) :
    PrintableText (quotedText text) := by
  have quote : Printable '\x22' := by
    decide
  unfold quotedText
  refine .append (.cons quote ?_) (.cons quote fun _ none => by cases none)
  intro char member
  obtain ⟨source, -, inEscape⟩ := List.mem_flatMap.mp member
  exact escaped_printable source char inEscape

/-- The JSON string of a printable text is at most double the text. -/
theorem length_quotedText_le
    {text : String}
    (printable : PrintableText text.toList) :
    (quotedText text).length ≤ 2 * text.length + 2 := by
  have doubled :
      ∀ chars : List Char,
        PrintableText chars →
        (chars.flatMap escaped).length ≤ 2 * chars.length := by
    intro chars allPrintable
    induction chars with
    | nil =>
        simp
    | cons char rest inductionHypothesis =>
        have first :=
          length_escaped_le (allPrintable char List.mem_cons_self)
        have others :=
          inductionHypothesis fun found member =>
            allPrintable found (List.mem_cons_of_mem _ member)
        rw [List.flatMap_cons, List.length_append, List.length_cons]
        omega
  have length := doubled text.toList printable
  rw [String.length_toList] at length
  simp only [quotedText, List.length_append, List.length_cons,
    List.length_nil]
  omega

/-- An escaped character has at least one character. -/
theorem escaped_ne_nil (char : Char) : escaped char ≠ [] := by
  unfold escaped
  split
  all_goals try exact List.cons_ne_nil _ _
  split
  · exact List.cons_ne_nil _ _
  · unfold unicodeEscape
    split
    · exact List.cons_ne_nil _ _
    · exact List.cons_ne_nil _ _

/-- The JSON string of a text is longer than the text. -/
theorem length_lt_quotedText (text : String) :
    text.length < (quotedText text).length := by
  have each :
      ∀ chars : List Char,
        chars.length ≤ (chars.flatMap escaped).length := by
    intro chars
    induction chars with
    | nil =>
        simp
    | cons char rest inductionHypothesis =>
        have first := List.length_pos_iff.mpr (escaped_ne_nil char)
        rw [List.flatMap_cons, List.length_append, List.length_cons]
        omega
  have length := each text.toList
  rw [String.length_toList] at length
  simp only [quotedText, List.length_append, List.length_cons,
    List.length_nil]
  omega

/-- The digits of a number are printable. -/
theorem natRepr_printable (value : Nat) :
    PrintableText value.repr.toList := by
  intro char member
  rw [Nat.toList_repr] at member
  have digit :=
    Nat.isDigit_of_mem_toDigits (by decide) (by decide) member
  have bounds := Char.isDigit_iff_toNat.mp digit
  have first : '0'.toNat = 48 := rfl
  have last : '9'.toNat = 57 := rfl
  constructor
  · omega
  · omega

/-- The text of an integer is printable. -/
theorem intText_printable (value : Int) :
    PrintableText (toString value).toList := by
  cases value with
  | ofNat value =>
      exact natRepr_printable value
  | negSucc value =>
      have minus : PrintableText "-".toList := by
        decide
      change PrintableText ("-" ++ (value + 1).repr).toList
      rw [String.toList_append]
      exact minus.append (natRepr_printable (value + 1))

/-- Printable items are printable with separators. -/
theorem separated_printable
    {items : List (List Char)}
    (printable : ∀ item ∈ items, PrintableText item) :
    PrintableText (separated items) := by
  induction items with
  | nil =>
      exact fun _ none => by cases none
  | cons item rest inductionHypothesis =>
      have first := printable item List.mem_cons_self
      cases rest with
      | nil =>
          exact first
      | cons next rest =>
          have comma : PrintableText [',', ' '] := by
            decide
          rw [separated]
          · apply (first.append comma).append
            exact
              inductionHypothesis fun found member =>
                printable found (List.mem_cons_of_mem _ member)
          · exact List.cons_ne_nil _ _

mutual

/-- The text of a value is printable. -/
theorem characters_printable
    {repr : Rat → List Char}
    (floats : ∀ value, PrintableText (repr value))
    (value : Json) :
    PrintableText (characters repr value) := by
  cases value with
  | null =>
      rw [characters]
      decide
  | bool value =>
      rw [characters]
      cases value with
      | false =>
          decide
      | true =>
          decide
  | int value =>
      rw [characters]
      exact intText_printable value
  | float value =>
      rw [characters]
      exact floats value
  | string text =>
      rw [characters]
      exact quotedText_printable text
  | array items =>
      rw [characters]
      have inside :=
        separated_printable (itemCharacters_printable floats items)
      have closing : PrintableText [']'] := by
        decide
      exact .cons (by decide) (inside.append closing)
  | object fields =>
      rw [characters]
      have inside :=
        separated_printable (fieldCharacters_printable floats fields)
      have closing : PrintableText ['\x7d'] := by
        decide
      exact .cons (by decide) (inside.append closing)

/-- The texts of items are printable. -/
theorem itemCharacters_printable
    {repr : Rat → List Char}
    (floats : ∀ value, PrintableText (repr value))
    (items : List Json) :
    ∀ text ∈ itemCharacters repr items, PrintableText text := by
  cases items with
  | nil =>
      intro text none
      cases none
  | cons item rest =>
      intro text member
      rw [itemCharacters] at member
      rcases List.mem_cons.mp member with rfl | inRest
      · exact characters_printable floats item
      · exact itemCharacters_printable floats rest text inRest

/-- The texts of fields are printable. -/
theorem fieldCharacters_printable
    {repr : Rat → List Char}
    (floats : ∀ value, PrintableText (repr value))
    (fields : List (String × Json)) :
    ∀ text ∈ fieldCharacters repr fields, PrintableText text := by
  cases fields with
  | nil =>
      intro text none
      cases none
  | cons field rest =>
      obtain ⟨key, value⟩ := field
      have colon : PrintableText [':', ' '] := by
        decide
      intro text member
      rw [fieldCharacters] at member
      rcases List.mem_cons.mp member with rfl | inRest
      · exact
          ((quotedText_printable key).append colon).append
            (characters_printable floats value)
      · exact fieldCharacters_printable floats rest text inRest

end

end Json
