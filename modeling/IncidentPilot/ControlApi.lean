import IncidentPilot.ApiAuth
import IncidentPilot.InvestigationRecord
import IncidentPilot.Library.Pool
import IncidentPilot.QueueAdmission

/-!
# The control API

The routes of `api/app.py` that read or write the control plane, as programs
that query the database one statement, or one transaction, at a time.  Bodies
have passed their schemas.
-/

namespace IncidentPilot

/-- `Severity`. -/
inductive Severity where
  | sev1
  | sev2
  | sev3
  | sev4
  deriving Repr, DecidableEq

/-- The string of a severity. -/
def Severity.value : Severity → String
  | sev1 => "SEV1"
  | sev2 => "SEV2"
  | sev3 => "SEV3"
  | sev4 => "SEV4"

/-- The values of `IncidentStatus` that are written. -/
inductive IncidentStatus where
  | received
  | needsHumanIntervention
  deriving Repr, DecidableEq

/-- `IncidentCreate`. -/
structure IncidentCreate where
  incidentId : Option String := none
  title : String
  service : String
  severity : Severity := .sev3
  symptom : String
  startTime : Option Instant := none
  repository : String := ""
  environment : String := "reference-production"
  payload : List (String × Json) := []

/-- `ApprovalRequest`. -/
structure ApprovalRequest where
  decision : ApprovalDecision
  actor : Option String := none
  patchArtifactId : Option Uuid := none
  patchHash : Option String := none
  reason : String := ""
  deriving Repr, DecidableEq

/-- A request to one of the routes. -/
inductive ApiRequest where
  | createIncident (body : IncidentCreate)
  | getIncident (incidentId : String)
  | getRun (runId : String)
  | listEvidence (runId : String)
  | listToolCalls (runId : String)
  | listPatchArtifacts (runId : String)
  | listTests (runId : String)
  | getApproval (runId : String)
  | submitApproval (runId : String) (body : ApprovalRequest)

/-- A call of the API: the header `Authorization`, and the request. -/
structure ApiCall where
  authorization : Option String
  request : ApiRequest

/-- The settings the routes depend on. -/
structure ApiSettings where
  apiTokens : ApiTokens
  maxQueuedRuns : Nat
  embeddedWorkerEnabled : Bool

/-- The values whose text is not in view: a JSON column, an identifier. -/
structure ColumnValues where
  storesJson : Json → Bool
  uuidText : Uuid → String

/-- No text that holds a NUL reaches PostgreSQL. -/
def sendable (text : String) : Bool :=
  !text.toList.contains (Char.ofNat 0)

/-- A text that a column `String(length)` holds. -/
def fitsColumn (length : Nat) (text : String) : Bool :=
  sendable text && decide (text.length ≤ length)

/-- The row of `incidents` can hold what the caller gave for it. -/
def IncidentData.fits
    (columns : ColumnValues)
    (data : IncidentData) : Bool :=
  data.incidentId.all (fitsColumn 64) &&
    data.ownerId.all (fitsColumn 128) &&
    fitsColumn 256 data.title &&
    fitsColumn 128 data.service &&
    sendable data.symptom &&
    data.repository.all (fitsColumn 512) &&
    data.environment.all (fitsColumn 64) &&
    data.payload.all fun payload =>
      !payload.truthy || columns.storesJson payload

/-- The statements of `decide` can hold what the caller gave for them. -/
def DecisionRequest.fits
    (columns : ColumnValues)
    (request : DecisionRequest) : Bool :=
  request.patchArtifactId.all (fun id => sendable (columns.uuidText id)) &&
    fitsColumn 128 request.actor &&
    sendable request.reason

/-- What a route asks of the database, and of the embedded executor. -/
inductive ApiQuery where
  | findIncident (incidentId : String)
  | getIncident (pk : String)
  | findRun (runId : String)
  | createIncidentAndRun (data : IncidentData)
  | listEvidence (runPk : String)
  | listToolCalls (runPk : String)
  | listPatchArtifacts (runPk : String)
  | listTests (runPk : String)
  | findApproval (runPk : String)
  | decide (run : AgentRun) (request : DecisionRequest)
  | updateIncident (pk : String) (decision : ApprovalDecision)
  | submit (incidentPk runId : String)
  | submitResume (runId : String) (decision : ApprovalDecision)

/--
The answers to each query.  The error of `decide` is a conflict; `none` of an
admission or a decision is a `StatementError`.
-/
@[reducible] def ApiAnswer : ApiQuery → Type
  | .findIncident _ => Option (Incident × IncidentStatus)
  | .getIncident _ => Option Incident
  | .findRun _ => Option AgentRun
  | .createIncidentAndRun _ => Option AdmissionOutcome
  | .listEvidence _ => List EvidenceRow
  | .listToolCalls _ => List ToolCallRow
  | .listPatchArtifacts _ => List PatchArtifact
  | .listTests _ => List TestRun
  | .findApproval _ => Option Approval
  | .decide .. => Option (Except String (Approval × AgentRun))
  | .updateIncident .. => Unit
  | .submit .. => Unit
  | .submitResume .. => Unit

/-- What a route returns. -/
inductive ApiResponse where
  | accepted
      (incidentId runId : String)
      (status : AgentRunStatus)
      (workflowState : WorkflowState)
  | incident (incident : Incident) (status : IncidentStatus)
  | run (run : AgentRun) (incidentId : String)
  | evidence (rows : List EvidenceRow)
  | toolCalls (rows : List ToolCallRow)
  | patchArtifacts (rows : List PatchArtifact)
  | tests (rows : List TestRun)
  | approval (approval : Option Approval)

/-- What escapes a route: an error it answers with, or any other exception. -/
inductive ApiError where
  | http (error : HttpError)
  | unhandled (exception : String)

/-- Programs of the routes. -/
abbrev ApiProgram :=
  Program ApiQuery ApiAnswer ApiError

/-- Ask the database, or the executor. -/
def query (asked : ApiQuery) : ApiProgram (ApiAnswer asked) :=
  .ask asked .done

/-- Raise an `HTTPException` with a text. -/
def httpError {Value : Type} (statusCode : Nat) (detail : String) :
    ApiProgram Value :=
  .raise (.http { statusCode := statusCode, detail := .string detail })

/--
A value that PostgreSQL or its driver does not take: a `DataError` mostly, which
is a `StatementError`.
-/
def statementError {Value : Type} : ApiProgram Value :=
  .raise (.unhandled "StatementError")

/-- A text among the parameters of a query. -/
def sent (text : String) : ApiProgram Unit :=
  if sendable text = true then .done () else statementError

/-- A check of the principal. -/
def checked : Except HttpError Unit → ApiProgram Unit
  | .ok () => .done ()
  | .error error => .raise (.http error)

/-- `RunService.get`, or a 404. -/
def runOr404 (runId : String) : ApiProgram AgentRun := do
  sent runId
  let found ← query (.findRun runId)
  match found with
  | none => httpError 404 "run not found"
  | some run => .done run

/-- `authorize_run`. -/
def authorizeRun
    (principal : Principal)
    (run : AgentRun) : ApiProgram (Option Incident) := do
  let incident ← query (.getIncident run.incidentPk)
  checked (principal.access (incident.bind Incident.ownerId))
  return incident

/-- The `incident_data` of a body. -/
def IncidentCreate.data
    (body : IncidentCreate)
    (principal : Principal) : IncidentData where
  incidentId := body.incidentId
  title := body.title
  service := body.service
  severity := some body.severity.value
  symptom := body.symptom
  startTime := body.startTime
  repository := some body.repository
  environment := some body.environment
  payload := some (.object body.payload)
  ownerId := some principal.subject

/-- The answer to a full queue. -/
def queueFull (message : String) : HttpError where
  statusCode := 429
  detail :=
    .object
      [("code", .string "RUN_QUEUE_FULL"), ("message", .string message)]

section Routes

variable (settings : ApiSettings) (principal : Principal)

/-- `create_incident` up to its admission: the identifier must be new. -/
def rejectKnownIncident (body : IncidentCreate) : ApiProgram Unit :=
  match body.incidentId with
  | none => .done ()
  | some incidentId =>
      if incidentId = "" then
        .done ()
      else do
        sent incidentId
        let existing ← query (.findIncident incidentId)
        match existing with
        | none => .done ()
        | some _ =>
            httpError 409 ("incident_id already exists: " ++ incidentId)

/-- `create_incident`. -/
def createIncidentRoute (body : IncidentCreate) :
    ApiProgram ApiResponse := do
  checked (principal.require [.initiator])
  rejectKnownIncident body
  let outcome ← query (.createIncidentAndRun (body.data principal))
  match outcome with
  | none => statementError
  | some (.queueFull message) => .raise (.http (queueFull message))
  | some .integrityError => .raise (.unhandled "IntegrityError")
  | some (.accepted incident run) => do
      if settings.embeddedWorkerEnabled = true then
        query (.submit incident.id run.runId)
      return .accepted incident.incidentId run.runId run.status
        run.workflowState

/-- `get_incident`. -/
def getIncidentRoute (incidentId : String) : ApiProgram ApiResponse := do
  sent incidentId
  let found ← query (.findIncident incidentId)
  match found with
  | none => httpError 404 "incident not found"
  | some (incident, status) => do
      checked (principal.access incident.ownerId)
      return .incident incident status

/-- `get_run`. -/
def getRunRoute (runId : String) : ApiProgram ApiResponse := do
  let run ← runOr404 runId
  let incident ← authorizeRun principal run
  match incident with
  | none => .raise (.unhandled "AttributeError")
  | some incident => return .run run incident.incidentId

/-- What the routes that list rows of a run have in common. -/
def listRoute
    (rowsOf : String → ApiQuery)
    (response : (runPk : String) → ApiAnswer (rowsOf runPk) → ApiResponse)
    (runId : String) : ApiProgram ApiResponse := do
  let run ← runOr404 runId
  let _ ← authorizeRun principal run
  let rows ← query (rowsOf run.id)
  return response run.id rows

/-- `list_evidence`. -/
def listEvidenceRoute : String → ApiProgram ApiResponse :=
  listRoute principal .listEvidence fun _ rows => .evidence rows

/-- `list_tool_calls`. -/
def listToolCallsRoute : String → ApiProgram ApiResponse :=
  listRoute principal .listToolCalls fun _ rows => .toolCalls rows

/-- `list_patch_artifacts`. -/
def listPatchArtifactsRoute : String → ApiProgram ApiResponse :=
  listRoute principal .listPatchArtifacts fun _ rows =>
    .patchArtifacts rows

/-- `list_tests`. -/
def listTestsRoute : String → ApiProgram ApiResponse :=
  listRoute principal .listTests fun _ rows => .tests rows

/-- `get_approval`. -/
def getApprovalRoute : String → ApiProgram ApiResponse :=
  listRoute principal .findApproval fun _ approval => .approval approval

/-- The arguments `submit_approval` calls `decide` with. -/
def ApprovalRequest.decisionRequest
    (body : ApprovalRequest)
    (principal : Principal) : DecisionRequest where
  decision := body.decision
  actor := principal.subject
  reason := body.reason
  patchArtifactId := body.patchArtifactId
  patchHash := body.patchHash

/-- `update_incident_for_decision`, if the run has an incident. -/
def noteDecision
    (body : ApprovalRequest)
    (run : AgentRun) : ApiProgram Unit := do
  let incident ← query (.getIncident run.incidentPk)
  match incident with
  | none => return ()
  | some incident => query (.updateIncident incident.id body.decision)

/-- An approved run is handed to the embedded executor, if there is one. -/
def handOver
    (body : ApprovalRequest)
    (run : AgentRun) : ApiProgram Unit :=
  if body.decision = .approve ∧ settings.embeddedWorkerEnabled = true then
    query (.submitResume run.runId body.decision)
  else
    .done ()

/-- `submit_approval`. -/
def submitApprovalRoute
    (runId : String)
    (body : ApprovalRequest) : ApiProgram ApiResponse := do
  checked (principal.require [.approver])
  let run ← runOr404 runId
  let _ ← authorizeRun principal run
  if run.status ≠ .waitingApproval then
    httpError 409
      ("run is not waiting for approval (status=" ++ run.status.value ++
        ")")
  else do
    let decided ←
      query (.decide run (body.decisionRequest principal))
    match decided with
    | none => statementError
    | some (.error conflict) => httpError 409 conflict
    | some (.ok (approval, run)) => do
        noteDecision body run
        handOver settings body run
        return .approval (some approval)

/-- The route of a request. -/
def ApiRequest.route : ApiRequest → ApiProgram ApiResponse
  | createIncident body => createIncidentRoute settings principal body
  | getIncident incidentId => getIncidentRoute principal incidentId
  | getRun runId => getRunRoute principal runId
  | listEvidence runId => listEvidenceRoute principal runId
  | listToolCalls runId => listToolCallsRoute principal runId
  | listPatchArtifacts runId => listPatchArtifactsRoute principal runId
  | listTests runId => listTestsRoute principal runId
  | getApproval runId => getApprovalRoute principal runId
  | submitApproval runId body =>
      submitApprovalRoute settings principal runId body

end Routes

/-- What a call begins: authentication comes before the route. -/
def ApiCall.program
    (settings : ApiSettings)
    (call : ApiCall) : ApiProgram ApiResponse :=
  match authenticate settings.apiTokens call.authorization with
  | .error error => .raise (.http error)
  | .ok principal => call.request.route settings principal

end IncidentPilot
