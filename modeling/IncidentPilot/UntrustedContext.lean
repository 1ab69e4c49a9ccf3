import Mathlib.Algebra.GroupWithZero.Nat
import Mathlib.Data.String.Basic
import Mathlib.Data.Prod.Lex
import Mathlib.Logic.Relation
import IncidentPilot.Library.JsonText
import IncidentPilot.Redaction

/-!
# The envelope of untrusted data

`untrusted_context` of `tools/data.py`.  The data is redacted, every item is
bounded, and while the text of an object is too long, the longest of its lists
loses its first entry.  What is still too long becomes an excerpt.
-/

namespace IncidentPilot

mutual

/-- `bounded`. -/
def bounded (depth : Nat) (value : Json) : Json :=
  if 10 < depth then
    .string "[depth limit]"
  else
    match value with
    | .string text => .string (String.ofList (text.toList.take 4000))
    | .object fields => .object ((boundedFields depth fields).take 40)
    | .array items =>
        let shown := boundedItems depth items
        .array (shown.drop (shown.length - 20))
    | other => other

/-- The fields of a dictionary. -/
def boundedFields
    (depth : Nat) : List (String × Json) → List (String × Json)
  | [] => []
  | (key, value) :: rest =>
      (key, bounded (depth + 1) value) :: boundedFields depth rest

/-- The items of a list. -/
def boundedItems (depth : Nat) : List Json → List Json
  | [] => []
  | value :: rest => bounded (depth + 1) value :: boundedItems depth rest

end

/-- `bounded_value` and `omitted` in the trimming loop. -/
structure Trimming where
  fields : List (String × Json)
  omitted : Nat

/-- `lists`: the lists that have entries, by length and key. -/
def entryLists (fields : List (String × Json)) : List (Nat ×ₗ String) :=
  fields.filterMap fun field =>
    match field.2 with
    | .array [] => none
    | .array items => some (toLex (items.length, field.1))
    | _ => none

/-- A list without its first entries; how many depends on its key. -/
def withoutFirst
    (dropped : String → Nat) : String × Json → String × Json
  | (key, .array items) => (key, .array (items.drop (dropped key)))
  | field => field

/-- `dictionary[key] = value`. -/
def setItem
    (key : String)
    (value : Json) : List (String × Json) → List (String × Json)
  | [] => [(key, value)]
  | (name, old) :: rest =>
      if name = key then
        (key, value) :: rest
      else
        (name, old) :: setItem key value rest

/-- One entry, of the list with this key. -/
def oneOf (key name : String) : Nat :=
  if name = key then 1 else 0

/-- The text of some fields is within the limit. -/
def Fits
    (dumps : Json → String)
    (limit : Nat)
    (fields : List (String × Json)) : Prop :=
  (dumps (.object fields)).length ≤ limit

instance
    (dumps : Json → String)
    (limit : Nat)
    (fields : List (String × Json)) :
    Decidable (Fits dumps limit fields) :=
  inferInstanceAs (Decidable (_ ≤ _))

/-- A round of the trimming loop, unless it is over. -/
def trimRound
    (dumps : Json → String)
    (limit : Nat)
    (trimming : Trimming) : Option Trimming :=
  if Fits dumps limit trimming.fields then
    none
  else
    (entryLists trimming.fields).max?.map fun longest =>
      { fields :=
          setItem "omitted_items" (.int (trimming.omitted + 1 : Nat))
            (trimming.fields.map
              (withoutFirst (oneOf (ofLex longest).2)))
        omitted := trimming.omitted + 1 }

/-- The number of entries of a field. -/
def fieldEntries (field : String × Json) : Nat :=
  match field.2 with
  | .array items => items.length
  | _ => 0

/-- The number of entries of all lists. -/
def entries (fields : List (String × Json)) : Nat :=
  (fields.map fieldEntries).sum

/-- Dropping first entries leaves no more of them. -/
theorem fieldEntries_withoutFirst_le
    (dropped : String → Nat)
    (field : String × Json) :
    fieldEntries (withoutFirst dropped field) ≤ fieldEntries field := by
  obtain ⟨key, value⟩ := field
  cases value <;> simp [withoutFirst, fieldEntries]

/-- Setting a key to a number adds no entries. -/
theorem entries_setItem_le
    (key : String)
    (number : Int)
    (fields : List (String × Json)) :
    entries (setItem key (.int number) fields) ≤ entries fields := by
  induction fields with
  | nil =>
      simp [setItem, entries, fieldEntries]
  | cons field rest inductionHypothesis =>
      obtain ⟨name, old⟩ := field
      by_cases same : name = key
      · simp [setItem, same, entries, fieldEntries]
      · simp only [setItem, same, if_false, entries, List.map_cons,
          List.sum_cons]
        exact Nat.add_le_add_left inductionHypothesis _

/-- Dropping first entries of all lists leaves no more of them. -/
theorem entries_withoutFirst_le
    (dropped : String → Nat)
    (fields : List (String × Json)) :
    entries (fields.map (withoutFirst dropped)) ≤ entries fields := by
  induction fields with
  | nil =>
      exact Nat.le_refl _
  | cons field rest inductionHypothesis =>
      simp only [entries, List.map_cons, List.sum_cons]
      exact
        Nat.add_le_add (fieldEntries_withoutFirst_le dropped field)
          inductionHypothesis

/-- Dropping the first entry of a list that has one leaves fewer of them. -/
theorem entries_withoutFirst_lt
    {key : String}
    {items : List Json}
    {fields : List (String × Json)}
    (member : (key, Json.array items) ∈ fields)
    (nonempty : items ≠ []) :
    entries (fields.map (withoutFirst (oneOf key))) < entries fields := by
  induction fields with
  | nil =>
      cases member
  | cons field rest inductionHypothesis =>
      simp only [entries, List.map_cons, List.sum_cons]
      rcases List.mem_cons.mp member with rfl | later
      · have positive := List.length_pos_iff.mpr nonempty
        refine
          Nat.add_lt_add_of_lt_of_le ?_
            (entries_withoutFirst_le (oneOf key) rest)
        simp [withoutFirst, oneOf, fieldEntries]
        omega
      · exact
          Nat.add_lt_add_of_le_of_lt
            (fieldEntries_withoutFirst_le (oneOf key) field)
            (inductionHypothesis later)

/-- A list with entries is among the lists. -/
theorem mem_entryLists
    {key : String}
    {length : Nat}
    {fields : List (String × Json)} :
    toLex (length, key) ∈ entryLists fields ↔
      ∃ items, (key, Json.array items) ∈ fields ∧ items ≠ [] ∧
        items.length = length := by
  simp only [entryLists, List.mem_filterMap]
  constructor
  · rintro ⟨⟨name, value⟩, member, found⟩
    cases value with
    | array items =>
        cases items with
        | nil =>
            cases found
        | cons first rest =>
            cases found
            exact ⟨first :: rest, member, by simp, rfl⟩
    | _ => cases found
  · rintro ⟨items, member, nonempty, rfl⟩
    refine ⟨_, member, ?_⟩
    cases items with
    | nil => exact absurd rfl nonempty
    | cons first rest => rfl

/-- A round drops the first entry of a longest list. -/
theorem trimRound_some
    {dumps : Json → String}
    {limit : Nat}
    {trimming next : Trimming}
    (round : trimRound dumps limit trimming = some next) :
    limit < (dumps (.object trimming.fields)).length ∧
      ∃ key items,
        (key, Json.array items) ∈ trimming.fields ∧ items ≠ [] ∧
          (∀ longest ∈ entryLists trimming.fields,
            longest ≤ toLex (items.length, key)) ∧
          next =
            { fields :=
                setItem "omitted_items"
                  (.int (trimming.omitted + 1 : Nat))
                  (trimming.fields.map (withoutFirst (oneOf key)))
              omitted := trimming.omitted + 1 } := by
  unfold trimRound at round
  split at round
  · cases round
  · rename_i tooLong
    refine ⟨Nat.not_le.mp tooLong, ?_⟩
    obtain ⟨longest, isLongest, rfl⟩ := Option.map_eq_some_iff.mp round
    obtain ⟨member, most⟩ := List.max?_eq_some_iff.mp isLongest
    obtain ⟨items, isField, nonempty, length⟩ :=
      mem_entryLists.mp (show toLex (ofLex longest) ∈ _ from member)
    refine ⟨_, items, isField, nonempty, fun other isOther => ?_, rfl⟩
    rw [length]
    exact most other isOther

/-- A round leaves fewer entries. -/
theorem entries_trimRound
    {dumps : Json → String}
    {limit : Nat}
    {trimming next : Trimming}
    (round : trimRound dumps limit trimming = some next) :
    entries next.fields < entries trimming.fields := by
  obtain ⟨-, key, items, member, nonempty, -, rfl⟩ := trimRound_some round
  exact
    Nat.lt_of_le_of_lt (entries_setItem_le _ _ _)
      (entries_withoutFirst_lt member nonempty)

/-- The trimming loop. -/
def trim
    (dumps : Json → String)
    (limit : Nat)
    (trimming : Trimming) : Trimming :=
  match _round : trimRound dumps limit trimming with
  | none => trimming
  | some next => trim dumps limit next
termination_by entries trimming.fields
decreasing_by exact entries_trimRound _round

/-- The explicit form of data that is too long. -/
def truncatedForm (excerpt : String) : Json :=
  .object [("truncated", .bool true), ("data_excerpt", .string excerpt)]

/-- `untrusted_context`, as the data that the envelope holds. -/
def untrustedData
    (tools : JsonTools)
    (dumps : Json → String)
    (limit : Nat)
    (value : Json) : Json :=
  let shown :=
    match bounded 0 (redact tools 0 value) with
    | .object fields => .object (trim dumps limit ⟨fields, 0⟩).fields
    | other => other
  let data := dumps shown
  if limit < data.length then
    truncatedForm (String.ofList (data.toList.take (limit / 2)))
  else
    shown

/-- `untrusted_context`. -/
def untrustedContext
    (tools : JsonTools)
    (dumps : Json → String)
    (limit : Nat)
    (value : Json) : String :=
  "UNTRUSTED_DATA_JSON\n" ++ dumps (untrustedData tools dumps limit value) ++
    "\nEND_UNTRUSTED_DATA_JSON"

/-- One round of the loop leads to the next state. -/
def TrimRound
    (dumps : Json → String)
    (limit : Nat)
    (trimming next : Trimming) : Prop :=
  trimRound dumps limit trimming = some next

/-- The loop runs round by round until no round is left. -/
theorem trim_ends
    (dumps : Json → String)
    (limit : Nat)
    (trimming : Trimming) :
    Relation.ReflTransGen (TrimRound dumps limit) trimming
        (trim dumps limit trimming) ∧
      trimRound dumps limit (trim dumps limit trimming) = none := by
  fun_induction trim dumps limit trimming with
  | case1 trimming ended =>
      exact ⟨.refl, ended⟩
  | case2 trimming next round inductionHypothesis =>
      exact
        ⟨.head round inductionHypothesis.1, inductionHypothesis.2⟩

/-- What fits is not trimmed. -/
theorem Fits.untrimmed
    {dumps : Json → String}
    {limit : Nat}
    {start trimming : Trimming}
    (fits : Fits dumps limit start.fields)
    (run : Relation.ReflTransGen (TrimRound dumps limit) start trimming) :
    trimming = start := by
  rcases run.cases_head with same | ⟨next, round, -⟩
  · exact same.symm
  · have tooLong := (trimRound_some round).1
    exact absurd fits (Nat.not_le.mpr tooLong)

/-- A key whose value `redact` removes. -/
def hiddenKey (key : String) : Prop :=
  secretField key = true ∧ key ∉ tokenCountKeys

instance (key : String) : Decidable (hiddenKey key) :=
  inferInstanceAs (Decidable (_ ∧ _))

/-- An entry of a list at the top level, as it is shown. -/
def shownEntry (tools : JsonTools) (entry : Json) : Json :=
  bounded 2 (redact tools 2 entry)

/-- A field of the data, as it is shown. -/
def shownField
    (tools : JsonTools)
    (field : String × Json) : String × Json :=
  (field.1,
    bounded 1
      (if hiddenKey field.1 then .string "[REDACTED]"
        else redact tools 1 field.2))

/-- Fields are redacted one by one. -/
theorem redactFields_eq_map
    (tools : JsonTools)
    (depth : Nat)
    (fields : List (String × Json)) :
    redactFields tools depth fields =
      fields.map fun field =>
        (field.1,
          if hiddenKey field.1 then .string "[REDACTED]"
          else redact tools (depth + 1) field.2) := by
  induction fields with
  | nil =>
      rfl
  | cons field rest inductionHypothesis =>
      rw [redactFields, inductionHypothesis]
      rfl

/-- Items are redacted one by one. -/
theorem redactItems_eq_map
    (tools : JsonTools)
    (depth : Nat)
    (items : List Json) :
    redactItems tools depth items =
      items.map (redact tools (depth + 1)) := by
  induction items with
  | nil =>
      rfl
  | cons item rest inductionHypothesis =>
      rw [redactItems, inductionHypothesis]
      rfl

/-- Fields are bounded one by one. -/
theorem boundedFields_eq_map
    (depth : Nat)
    (fields : List (String × Json)) :
    boundedFields depth fields =
      fields.map fun field => (field.1, bounded (depth + 1) field.2) := by
  induction fields with
  | nil =>
      rfl
  | cons field rest inductionHypothesis =>
      rw [boundedFields, inductionHypothesis]
      rfl

/-- Items are bounded one by one. -/
theorem boundedItems_eq_map
    (depth : Nat)
    (items : List Json) :
    boundedItems depth items = items.map (bounded (depth + 1)) := by
  induction items with
  | nil =>
      rfl
  | cons item rest inductionHypothesis =>
      rw [boundedItems, inductionHypothesis]
      rfl

/-- The first forty fields of an object are shown. -/
theorem bounded_redact_object
    (tools : JsonTools)
    (fields : List (String × Json)) :
    bounded 0 (redact tools 0 (.object fields)) =
      .object ((fields.take 40).map (shownField tools)) := by
  rw [redact, if_neg (by decide), bounded, if_neg (by decide)]
  simp only [redactFields_eq_map, boundedFields_eq_map, ← List.map_take,
    List.take_take, List.map_map]
  rfl

/-- The last entries of a list. -/
def lastEntries (count : Nat) (items : List Json) : List Json :=
  items.drop (items.length - count)

/-- The entries of a list at the top level that the loop starts with. -/
def shownEntries (tools : JsonTools) (items : List Json) : List Json :=
  lastEntries 20 ((items.take 200).map (shownEntry tools))

/-- The last twenty of the first 200 entries are shown. -/
theorem bounded_redact_array
    (tools : JsonTools)
    (items : List Json) :
    bounded 1 (redact tools 1 (.array items)) =
      .array (shownEntries tools items) := by
  rw [redact, if_neg (by decide), bounded, if_neg (by decide)]
  simp only [redactItems_eq_map, boundedItems_eq_map, ← List.map_take,
    List.map_map]
  rfl

end IncidentPilot
