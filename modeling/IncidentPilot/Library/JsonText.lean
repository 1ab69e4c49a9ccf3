import Mathlib.Algebra.GroupWithZero.Nat
import IncidentPilot.Library.Json

/-!
# The text of JSON values

`json.dumps` with `ensure_ascii`: everything outside the printable characters of
ASCII is escaped, and items are separated by a comma and a space.  How a float
is written is a parameter.
-/

namespace Json

/-- A hexadecimal digit. -/
def hexDigit (value : Nat) : Char :=
  if value < 10 then
    Char.ofNat (48 + value)
  else
    Char.ofNat (87 + value)

/-- The escape of a code unit of UTF-16. -/
def unitEscape (unit : Nat) : List Char :=
  ['\\', 'u', hexDigit (unit / 4096 % 16), hexDigit (unit / 256 % 16),
    hexDigit (unit / 16 % 16), hexDigit (unit % 16)]

/-- The escape of a character that is not printable in ASCII. -/
def unicodeEscape (code : Nat) : List Char :=
  if code < 65536 then
    unitEscape code
  else
    unitEscape (55296 + (code - 65536) / 1024 % 1024) ++
      unitEscape (56320 + (code - 65536) % 1024)

/-- A character inside a JSON string. -/
def escaped (char : Char) : List Char :=
  match char.toNat with
  | 8 => ['\\', 'b']
  | 9 => ['\\', 't']
  | 10 => ['\\', 'n']
  | 12 => ['\\', 'f']
  | 13 => ['\\', 'r']
  | 34 => ['\\', char]
  | 92 => ['\\', char]
  | code =>
      if 32 ≤ code ∧ code ≤ 126 then
        [char]
      else
        unicodeEscape code

/-- A JSON string. -/
def quotedText (text : String) : List Char :=
  '\x22' :: text.toList.flatMap escaped ++ ['\x22']

/-- Items, separated as `json.dumps` does. -/
def separated : List (List Char) → List Char
  | [] => []
  | [item] => item
  | item :: rest => item ++ [',', ' '] ++ separated rest

variable (repr : Rat → List Char)

mutual

/-- The characters of `json.dumps`. -/
def characters : Json → List Char
  | null => "null".toList
  | bool value => (if value then "true" else "false").toList
  | int value => (toString value).toList
  | float value => repr value
  | string text => quotedText text
  | array items => '[' :: separated (itemCharacters items) ++ [']']
  | object fields =>
      '\x7b' :: separated (fieldCharacters fields) ++
        ['\x7d']

/-- The items of a list. -/
def itemCharacters : List Json → List (List Char)
  | [] => []
  | item :: rest => characters item :: itemCharacters rest

/-- The items of a dictionary. -/
def fieldCharacters : List (String × Json) → List (List Char)
  | [] => []
  | (key, value) :: rest =>
      (quotedText key ++ [':', ' '] ++ characters value) ::
        fieldCharacters rest

end

/-- `json.dumps`. -/
def dumps (value : Json) : String :=
  String.ofList (characters repr value)

/-- The length of the text of a value. -/
theorem length_dumps (value : Json) :
    (dumps repr value).length = (characters repr value).length :=
  String.length_ofList

example :
    dumps (fun _ => "0.5".toList)
        (.object
          [("a", .array [.int 1, .float (1 / 2), .null]),
            ("b", .string "x\ty")]) =
      "\x7b\"a\": [1, 0.5, null], \"b\": \"x\\ty\"\x7d" := by
  decide +kernel

/-- Separators are between the items. -/
theorem length_separated (items : List (List Char)) :
    (separated items).length =
      (items.map List.length).sum + 2 * (items.length - 1) := by
  induction items with
  | nil =>
      rfl
  | cons item rest inductionHypothesis =>
      cases rest with
      | nil =>
          simp [separated]
      | cons next others =>
          have written :
              separated (item :: next :: others) =
                item ++ [',', ' '] ++ separated (next :: others) :=
            rfl
          rw [written, List.length_append, inductionHypothesis]
          simp
          omega

/-- The items of a list are written one by one. -/
theorem itemCharacters_eq_map (items : List Json) :
    itemCharacters repr items = items.map (characters repr) := by
  induction items with
  | nil =>
      rfl
  | cons item rest inductionHypothesis =>
      rw [itemCharacters, inductionHypothesis, List.map_cons]

/-- A field of a dictionary, as it is written. -/
def fieldText (field : String × Json) : List Char :=
  quotedText field.1 ++ [':', ' '] ++ characters repr field.2

/-- The fields of a dictionary are written one by one. -/
theorem fieldCharacters_eq_map (fields : List (String × Json)) :
    fieldCharacters repr fields = fields.map (fieldText repr) := by
  induction fields with
  | nil =>
      rfl
  | cons field rest inductionHypothesis =>
      rw [fieldCharacters, inductionHypothesis, List.map_cons]
      rfl

/-- The length of a dictionary, by those of its fields. -/
theorem length_object (fields : List (String × Json)) :
    (characters repr (.object fields)).length =
      2 + (fields.map fun field => (fieldText repr field).length).sum +
        2 * (fields.length - 1) := by
  rw [characters, fieldCharacters_eq_map]
  simp only [List.length_append, List.length_cons, List.length_nil,
    length_separated, List.map_map, List.length_map]
  rw [show List.length ∘ fieldText repr =
    fun field => (fieldText repr field).length from rfl]
  omega

/-- The length of a list, by those of its items. -/
theorem length_array (items : List Json) :
    (characters repr (.array items)).length =
      2 + (items.map fun item => (characters repr item).length).sum +
        2 * (items.length - 1) := by
  rw [characters, itemCharacters_eq_map]
  simp only [List.length_append, List.length_cons, List.length_nil,
    length_separated, List.map_map, List.length_map]
  rw [show List.length ∘ characters repr =
    fun item => (characters repr item).length from rfl]
  omega

variable {repr}

/-- Every value is written with at least one character, if floats are. -/
theorem length_characters_pos
    (floats : ∀ value, repr value ≠ [])
    (value : Json) :
    0 < (characters repr value).length := by
  cases value with
  | null =>
      simp [characters]
  | bool value =>
      cases value <;> simp [characters]
  | int value =>
      rw [characters]
      cases value with
      | ofNat number =>
          exact Nat.length_repr_pos
      | negSucc number =>
          change 0 < ("-" ++ Nat.repr (number + 1)).toList.length
          rw [String.toList_append, List.length_append]
          exact Nat.add_pos_left Nat.one_pos _
  | float value =>
      rw [characters]
      exact List.length_pos_iff.mpr (floats value)
  | string text =>
      simp [characters, quotedText]
  | array items =>
      rw [length_array]
      omega
  | object fields =>
      rw [length_object]
      omega

/-- A list gets shorter by at least one character for each entry it loses. -/
theorem length_array_drop
    (floats : ∀ value, repr value ≠ [])
    {count : Nat}
    {items : List Json}
    (has : count ≤ items.length) :
    (characters repr (.array (items.drop count))).length + count ≤
      (characters repr (.array items)).length := by
  induction count generalizing items with
  | zero =>
      simp
  | succ count inductionHypothesis =>
      cases items with
      | nil =>
          simp at has
      | cons first rest =>
          have later :=
            inductionHypothesis (Nat.le_of_succ_le_succ has)
          have positive := length_characters_pos floats first
          have whole := length_array repr (first :: rest)
          have tail := length_array repr rest
          simp only [List.map_cons, List.sum_cons, List.length_cons]
            at whole
          rw [List.drop_succ_cons]
          omega

/-- The next number has at most one more digit. -/
theorem length_repr_succ_le (number : Nat) :
    (number + 1).repr.length ≤ number.repr.length + 1 := by
  have known :=
    (Nat.length_repr_le_iff (@Nat.length_repr_pos number)).mp
      (Nat.le_refl _)
  rw [Nat.length_repr_le_iff (Nat.succ_pos _)]
  calc
    number + 1 ≤ 10 ^ number.repr.length := known
    _ < 10 ^ (number.repr.length + 1) :=
      Nat.pow_lt_pow_right (by decide) (Nat.lt_succ_self _)

/-- A larger number has at most one more digit for each that it is larger. -/
theorem length_natural_add (number more : Nat) :
    (characters repr (.int (number + more : Nat))).length ≤
      (characters repr (.int number)).length + more := by
  induction more with
  | zero =>
      simp
  | succ more inductionHypothesis =>
      refine Nat.le_trans ?_ (Nat.succ_le_succ inductionHypothesis)
      exact length_repr_succ_le (number + more)

end Json
