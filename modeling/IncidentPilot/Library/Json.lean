/-!
# JSON values

The values `json.loads` returns, with the operations that Python code performs
on them: lookup in a dictionary, truth value and equality.  A dictionary is the
list of its items in insertion order.  Numbers are exact; `True` and `1` and
`1.0` are equal, as they are in Python.
-/

/-- A JSON value. -/
inductive Json where
  | null
  | bool (value : Bool)
  | int (value : Int)
  | float (value : Rat)
  | string (value : String)
  | array (items : List Json)
  | object (fields : List (String × Json))

namespace Json

/-- `value.get(key)` of a dictionary, and `none` of anything else. -/
def get? (value : Json) (key : String) : Option Json :=
  match value with
  | object fields => fields.lookup key
  | _ => none

/-- `bool(value)`. -/
def truthy : Json → Bool
  | null => false
  | bool value => value
  | int value => value ≠ 0
  | float value => value ≠ 0
  | string value => value ≠ ""
  | array items => !items.isEmpty
  | object fields => !fields.isEmpty

/-- `bool(value.get(key))`: a missing key is false. -/
def flag (value : Json) (key : String) : Bool :=
  (value.get? key).any truthy

/-- The exact value of a number, which Python's booleans are too. -/
def number? : Json → Option Rat
  | bool value => some (if value then 1 else 0)
  | int value => some value
  | float value => some value
  | _ => none

mutual

/-- `first == second`. -/
def equal : Json → Json → Bool
  | null, null => true
  | bool first, second => some (if first then 1 else 0) = second.number?
  | int first, second => some (first : Rat) = second.number?
  | float first, second => some first = second.number?
  | string first, string second => first = second
  | array first, array second => equalItems first second
  | object first, object second =>
      first.length = second.length && containedIn first second
  | _, _ => false

/-- Lists are equal item by item. -/
def equalItems : List Json → List Json → Bool
  | [], [] => true
  | first :: rest, second :: others =>
      equal first second && equalItems rest others
  | _, _ => false

/-- Every item of a dictionary has an equal item in another. -/
def containedIn :
    List (String × Json) → List (String × Json) → Bool
  | [], _ => true
  | (key, value) :: rest, others =>
      (others.any fun item =>
        decide (item.1 = key) && equal value item.2) &&
          containedIn rest others

end

mutual

/-- Every value equals itself. -/
theorem equal_refl (value : Json) : value.equal value = true := by
  cases value with
  | null => rfl
  | bool value => simp [equal, number?]
  | int value => simp [equal, number?]
  | float value => simp [equal, number?]
  | string value => simp [equal]
  | array items => simp [equal, equalItems_refl items]
  | object fields =>
      simp [equal, containedIn_of_subset fields fields fun _ => id]

/-- Every list equals itself item by item. -/
theorem equalItems_refl (items : List Json) :
    equalItems items items = true := by
  cases items with
  | nil => simp [equalItems]
  | cons first rest =>
      simp [equalItems, equal_refl first, equalItems_refl rest]

/-- A dictionary is contained in one that has all of its items. -/
theorem containedIn_of_subset
    (fields others : List (String × Json))
    (subset : ∀ item ∈ fields, item ∈ others) :
    containedIn fields others = true := by
  cases fields with
  | nil => simp [containedIn]
  | cons head rest =>
      obtain ⟨key, value⟩ := head
      have first :
          (others.any fun item =>
            decide (item.1 = key) && equal value item.2) = true :=
        List.any_eq_true.mpr
          ⟨(key, value), subset _ List.mem_cons_self,
            by simp [equal_refl value]⟩
      have remaining :=
        containedIn_of_subset rest others fun item member =>
          subset item (List.mem_cons_of_mem _ member)
      simp [containedIn, first, remaining]

end

end Json
