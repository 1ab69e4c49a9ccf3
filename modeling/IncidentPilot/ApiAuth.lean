import IncidentPilot.Library.Delimited
import IncidentPilot.Library.Json
import Mathlib.Data.List.TakeWhile

/-!
# Bearer identities

`api/auth.py`: the identities a server is provisioned with, the one a request
speaks for, and which resources it may touch.
-/

namespace IncidentPilot

/-- The roles `authenticate` accepts. -/
inductive Role where
  | initiator
  | reviewer
  | approver
  | admin
  deriving Repr, DecidableEq

/-- The name of a role in the configuration. -/
def Role.value : Role → String
  | initiator => "initiator"
  | reviewer => "reviewer"
  | approver => "approver"
  | admin => "admin"

/-- The role a configured name stands for. -/
def Role.parse (name : String) : Option Role :=
  [Role.initiator, .reviewer, .approver, .admin].find? fun role =>
    role.value = name

/-- `Principal`. -/
structure Principal where
  subject : String
  role : Role
  deriving Repr, DecidableEq

/-- `HTTPException`. -/
structure HttpError where
  statusCode : Nat
  detail : Json
  headers : List (String × String) := []

namespace Principal

/-- `Principal.require`. -/
def require
    (principal : Principal)
    (roles : List Role) : Except HttpError Unit :=
  if principal.role ∉ roles ∧ principal.role ≠ .admin then
    .error { statusCode := 403, detail := .string "role is not permitted" }
  else
    .ok ()

/-- `Principal.access`. -/
def access
    (principal : Principal)
    (ownerId : Option String) : Except HttpError Unit :=
  if principal.role = .initiator ∧ ownerId ≠ some principal.subject then
    .error
      { statusCode := 403
        detail := .string "resource belongs to another user" }
  else if ownerId = none ∧ principal.role ≠ .admin then
    .error
      { statusCode := 403
        detail := .string "legacy resource requires administrator" }
  else
    .ok ()

/-- The owner of a resource lets the principal at it. -/
def MayAccess (principal : Principal) (ownerId : Option String) : Prop :=
  principal.role = .admin ∨
    ∃ owner,
      ownerId = some owner ∧
        (principal.role = .initiator → owner = principal.subject)

/-- A required role is one of those named, or the administrator's. -/
theorem require_eq_ok
    {principal : Principal}
    {roles : List Role} :
    principal.require roles = .ok () ↔
      principal.role ∈ roles ∨ principal.role = .admin := by
  unfold require
  by_cases listed : principal.role ∈ roles
  · simp [listed]
  · by_cases isAdmin : principal.role = .admin
    · simp [isAdmin]
    · simp [listed, isAdmin]

/-- `access` lets through exactly those whom the owner lets through. -/
theorem access_eq_ok
    {principal : Principal}
    {ownerId : Option String} :
    principal.access ownerId = .ok () ↔ principal.MayAccess ownerId := by
  obtain ⟨subject, role⟩ := principal
  cases ownerId with
  | none =>
      cases role <;> simp [access, MayAccess]
  | some owner =>
      cases role <;> simp [access, MayAccess]

/-- An initiator may touch exactly what it owns. -/
theorem mayAccess_initiator
    {principal : Principal}
    {ownerId : Option String}
    (initiates : principal.role = .initiator) :
    principal.MayAccess ownerId ↔ ownerId = some principal.subject := by
  cases ownerId with
  | none => simp [MayAccess, initiates]
  | some owner => simp [MayAccess, initiates]

end Principal

/-- The dictionary a token is configured with; `none` is a missing key. -/
structure Identity where
  subject : Option String
  role : Option String
  deriving Repr, DecidableEq

/-- The principal of an identity that is complete. -/
def Identity.principal (identity : Identity) : Option Principal :=
  match identity.subject, identity.role.bind Role.parse with
  | some subject, some role =>
      if subject = "" then none else some ⟨subject, role⟩
  | _, _ => none

/-- The settings `api_tokens`, in the order of the dictionary. -/
abbrev ApiTokens := List (String × Identity)

/-- `text.partition(" ")`, without the blank. -/
def partitionBlank (text : String) : String × String :=
  (String.ofList (text.toList.takeWhile fun char => char ≠ ' '),
    String.ofList
      ((text.toList.dropWhile fun char => char ≠ ' ').drop 1))

/-- The exception of `authenticate`. -/
def unauthenticated : HttpError where
  statusCode := 401
  detail := .string "valid bearer credential required"
  headers := [("WWW-Authenticate", "Bearer")]

/-- The loop of `authenticate` over the configured tokens. -/
def identify (apiTokens : ApiTokens) (token : String) : Option Principal :=
  apiTokens.findSome? fun entry =>
    if token = entry.1 then entry.2.principal else none

/-- `authenticate`, given the header `Authorization`. -/
def authenticate
    (apiTokens : ApiTokens)
    (authorization : Option String) : Except HttpError Principal :=
  let (scheme, token) := partitionBlank (authorization.getD "")
  if scheme.toLower = "bearer" ∧ token ≠ "" then
    match identify apiTokens token with
    | some principal => .ok principal
    | none => .error unauthenticated
  else
    .error unauthenticated

/-- The server was provisioned with a token for a principal. -/
def ApiTokens.Provision
    (apiTokens : ApiTokens)
    (token : String)
    (principal : Principal) : Prop :=
  ∃ identity,
    (token, identity) ∈ apiTokens ∧ identity.principal = some principal

/-- The token identifies a principal it was provisioned for. -/
theorem identify_eq_some
    {apiTokens : ApiTokens}
    {token : String}
    {principal : Principal}
    (identified : identify apiTokens token = some principal) :
    apiTokens.Provision token principal := by
  obtain ⟨⟨configured, identity⟩, member, accepted⟩ :=
    List.exists_of_findSome?_eq_some identified
  by_cases same : token = configured
  · simp only [same, if_true] at accepted
    exact ⟨identity, same ▸ member, accepted⟩
  · simp [same] at accepted

/-- A text is what was before its first blank, and what was after it. -/
theorem partitionBlank_eq
    {text : String}
    (token : (partitionBlank text).2 ≠ "") :
    text = (partitionBlank text).1 ++ " " ++ (partitionBlank text).2 := by
  have present : ' ' ∈ text.toList := by
    by_contra absent
    apply token
    have all :
        text.toList.dropWhile (fun char => decide (char ≠ ' ')) = [] := by
      refine List.dropWhile_eq_nil_iff.mpr ?_
      intro char member
      exact decide_eq_true fun same => absent (same ▸ member)
    simp only [partitionBlank, all, List.drop_nil]
  apply String.toList_injective
  simpa [partitionBlank] using Delimited.split_first present

/--
Whoever is authenticated sent a bearer credential that the server was
provisioned with for that principal, and nobody else is.
-/
theorem authenticate_eq_ok
    {apiTokens : ApiTokens}
    {authorization : Option String}
    {principal : Principal}
    (authenticated :
      authenticate apiTokens authorization = .ok principal) :
    ∃ scheme token,
      authorization = some (scheme ++ " " ++ token) ∧
        scheme.toLower = "bearer" ∧
        apiTokens.Provision token principal := by
  unfold authenticate at authenticated
  by_cases bearer :
      (partitionBlank (authorization.getD "")).1.toLower = "bearer" ∧
        (partitionBlank (authorization.getD "")).2 ≠ ""
  · simp only [if_pos bearer] at authenticated
    cases identified :
        identify apiTokens (partitionBlank (authorization.getD "")).2 with
    | none =>
        rw [identified] at authenticated
        cases authenticated
    | some found =>
        rw [identified] at authenticated
        cases authenticated
        have split := partitionBlank_eq bearer.2
        cases authorization with
        | none =>
            exact absurd rfl bearer.2
        | some header =>
            exact
              ⟨_, _, congrArg some split, bearer.1,
                identify_eq_some identified⟩
  · simp only [if_neg bearer] at authenticated
    cases authenticated

/-- Every refusal of `authenticate` is a 401. -/
theorem authenticate_error
    {apiTokens : ApiTokens}
    {authorization : Option String}
    {error : HttpError}
    (refused : authenticate apiTokens authorization = .error error) :
    error.statusCode = 401 := by
  unfold authenticate at refused
  by_cases bearer :
      (partitionBlank (authorization.getD "")).1.toLower = "bearer" ∧
        (partitionBlank (authorization.getD "")).2 ≠ ""
  · simp only [if_pos bearer] at refused
    cases identified :
        identify apiTokens (partitionBlank (authorization.getD "")).2 with
    | none =>
        rw [identified] at refused
        cases refused
        rfl
    | some found =>
        rw [identified] at refused
        cases refused
  · simp only [if_neg bearer] at refused
    cases refused
    rfl

end IncidentPilot
