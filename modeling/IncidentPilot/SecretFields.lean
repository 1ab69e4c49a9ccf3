import IncidentPilot.Redaction

/-!
# Secret fields do not influence what is redacted

Two values that differ only under secret keys are redacted to the same value.
The limits on depth and size do not reveal anything either: they count entries,
and the entries of both values have the same keys.
-/

namespace IncidentPilot

/-- The key of a field whose value `redact` removes. -/
def SecretKey (key : String) : Prop :=
  secretField key = true ∧ key ∉ tokenCountKeys

instance (key : String) : Decidable (SecretKey key) :=
  inferInstanceAs (Decidable (_ ∧ _))

mutual

/-- Two values are equal except for what is stored under secret keys. -/
inductive EqualButSecrets : Json → Json → Prop where
  | same (value : Json) :
      EqualButSecrets value value
  | array
      {first second : List Json}
      (items : ItemsEqualButSecrets first second) :
      EqualButSecrets (.array first) (.array second)
  | object
      {first second : List (String × Json)}
      (fields : FieldsEqualButSecrets first second) :
      EqualButSecrets (.object first) (.object second)

/-- Two lists are equal, item by item, except for secrets. -/
inductive ItemsEqualButSecrets : List Json → List Json → Prop where
  | nil : ItemsEqualButSecrets [] []
  | cons
      {first second : Json}
      {rest others : List Json}
      (head : EqualButSecrets first second)
      (tail : ItemsEqualButSecrets rest others) :
      ItemsEqualButSecrets (first :: rest) (second :: others)

/-- Two dictionaries have the same keys, and values that differ in secrets. -/
inductive FieldsEqualButSecrets :
    List (String × Json) → List (String × Json) → Prop where
  | nil : FieldsEqualButSecrets [] []
  | secret
      {key : String}
      (first second : Json)
      {rest others : List (String × Json)}
      (isSecret : SecretKey key)
      (tail : FieldsEqualButSecrets rest others) :
      FieldsEqualButSecrets ((key, first) :: rest)
        ((key, second) :: others)
  | plain
      (key : String)
      {first second : Json}
      {rest others : List (String × Json)}
      (head : EqualButSecrets first second)
      (tail : FieldsEqualButSecrets rest others) :
      FieldsEqualButSecrets ((key, first) :: rest)
        ((key, second) :: others)

end

section

variable (tools : JsonTools)

mutual

/-- Values that differ in secrets only are redacted alike at every depth. -/
theorem redact_eq_of_equalButSecrets
    {first second : Json}
    (equal : EqualButSecrets first second)
    (depth : Nat) :
    redact tools depth first = redact tools depth second := by
  match equal with
  | .same value =>
      rfl
  | .array items =>
      by_cases deep : 12 < depth
      · simp only [redact, deep, if_true]
      · simp only [redact, deep, if_false]
        rw [redactItems_eq_of_equalButSecrets items depth]
  | .object fields =>
      by_cases deep : 12 < depth
      · simp only [redact, deep, if_true]
      · simp only [redact, deep, if_false]
        rw [redactFields_eq_of_equalButSecrets fields depth]

/-- Lists that differ in secrets only are redacted alike. -/
theorem redactItems_eq_of_equalButSecrets
    {first second : List Json}
    (equal : ItemsEqualButSecrets first second)
    (depth : Nat) :
    redactItems tools depth first = redactItems tools depth second := by
  match equal with
  | .nil =>
      rfl
  | .cons head tail =>
      simp only [redactItems]
      rw [redact_eq_of_equalButSecrets head (depth + 1),
        redactItems_eq_of_equalButSecrets tail depth]

/-- Dictionaries that differ in secrets only are redacted alike. -/
theorem redactFields_eq_of_equalButSecrets
    {first second : List (String × Json)}
    (equal : FieldsEqualButSecrets first second)
    (depth : Nat) :
    redactFields tools depth first = redactFields tools depth second := by
  match equal with
  | .nil =>
      rfl
  | .secret earlier later isSecret tail =>
      have removed := isSecret
      unfold SecretKey at removed
      simp only [redactFields, if_pos removed]
      rw [redactFields_eq_of_equalButSecrets tail depth]
  | .plain key head tail =>
      simp only [redactFields]
      rw [redact_eq_of_equalButSecrets head (depth + 1),
        redactFields_eq_of_equalButSecrets tail depth]

end

end

/-- Nothing under a secret key influences what `redact` returns. -/
theorem redact_noninterference
    (tools : JsonTools)
    {first second : Json}
    (equal : EqualButSecrets first second) :
    redact tools 0 first = redact tools 0 second :=
  redact_eq_of_equalButSecrets tools equal 0

/-- Two logins with different passwords, one of them a whole list. -/
theorem redact_noninterference_passwords :
    redact sampleJsonTools 0
        (.object
          [("user", .string "ann"),
            ("login", .object [("Password", .string "first")])]) =
      redact sampleJsonTools 0
        (.object
          [("user", .string "ann"),
            ("login",
              .object [("Password", .array [.int 1, .string "b"])])]) :=
  redact_noninterference sampleJsonTools
    (.object
      (.plain "user" (.same _)
        (.plain "login"
          (.object (.secret _ _ (by decide +kernel) .nil)) .nil)))

end IncidentPilot
