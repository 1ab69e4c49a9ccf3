import IncidentPilot.ApiAuthority

/-!
# Every route does what it may

One judgement for each route: what it asks it may ask, what it returns is the
caller's to see, and what escapes it was expected; all while other calls and the
workers go on between its queries.
-/

namespace IncidentPilot

/-- What a principal is answered, and that it is theirs to see. -/
def ApiRequest.Answered
    (principal : Principal)
    (world : ApiWorld) : ApiRequest → ApiResponse → Prop
  | .createIncident _, .accepted incidentId runId _ _ =>
      ∃ runPk incident,
        world.RunOf runPk runId incident ∧
          incident.incidentId = incidentId ∧
          incident.ownerId = some principal.subject
  | .getIncident incidentId, .incident incident _ =>
      incident ∈ world.database.incidents ∧
        incident.incidentId = incidentId ∧
        principal.MayAccess incident.ownerId
  | .getRun runId, .run run incidentId =>
      run.runId = runId ∧
        ∃ incident,
          world.RunOf run.id runId incident ∧
            incident.incidentId = incidentId ∧
            principal.MayAccess incident.ownerId
  | .listEvidence runId, .evidence rows =>
      ∃ runPk,
        world.Opens principal runPk runId ∧
          ∀ row ∈ rows, row ∈ world.tables.evidence ∧ row.runPk = runPk
  | .listToolCalls runId, .toolCalls rows =>
      ∃ runPk,
        world.Opens principal runPk runId ∧
          ∀ row ∈ rows, row ∈ world.tables.toolCalls ∧ row.runPk = runPk
  | .listPatchArtifacts runId, .patchArtifacts rows =>
      ∃ runPk,
        world.Opens principal runPk runId ∧
          ∀ row ∈ rows,
            row ∈ world.database.patchArtifacts ∧ row.runPk = runPk
  | .listTests runId, .tests rows =>
      ∃ runPk,
        world.Opens principal runPk runId ∧
          ∀ row ∈ rows, row ∈ world.database.testRuns ∧ row.runPk = runPk
  | .getApproval runId, .approval approval =>
      ∃ runPk,
        world.Opens principal runPk runId ∧
          ∀ row, approval = some row →
            row ∈ world.database.approvals ∧ row.runPk = runPk
  | .submitApproval runId body, .approval (some approval) =>
      world.Opens principal approval.runPk runId ∧
        approval ∈ world.database.approvals ∧
        approval.actor = principal.subject ∧
        approval.decision = body.decision
  | _, _ => False

/-- The status codes a request may be refused with. -/
def ApiRequest.refusals : ApiRequest → List Nat
  | .createIncident _ => [401, 403, 409, 429]
  | .submitApproval .. => [401, 403, 404, 409]
  | _ => [401, 403, 404]

/-- Any request may come without a credential. -/
theorem ApiRequest.unauthorized_mem_refusals (request : ApiRequest) :
    401 ∈ request.refusals := by
  cases request <;> simp [refusals]

/-- Any request may be forbidden. -/
theorem ApiRequest.forbidden_mem_refusals (request : ApiRequest) :
    403 ∈ request.refusals := by
  cases request <;> simp [refusals]

/-- A text of the call, or of its principal, that no column holds. -/
def ApiCall.Unstorable (setup : ApiSetup) (call : ApiCall) : Prop :=
  match call.request with
  | .createIncident body =>
      ∃ principal,
        call.SpeaksFor setup.settings principal ∧
          (body.data principal).fits setup.columns = false
  | .submitApproval runId body =>
      sendable runId = false ∨
        ∃ principal,
          call.SpeaksFor setup.settings principal ∧
            (body.decisionRequest principal).fits setup.columns = false
  | .getIncident named
  | .getRun named
  | .listEvidence named
  | .listToolCalls named
  | .listPatchArtifacts named
  | .listTests named
  | .getApproval named => sendable named = false

/--
How a call may fail: what is not answered is the race for an identifier, and a
value that PostgreSQL or its driver does not take.
-/
def ApiCall.MayFail (setup : ApiSetup) (call : ApiCall) : ApiError → Prop
  | .http error => error.statusCode ∈ call.request.refusals
  | .unhandled exception =>
      (exception = "IntegrityError" ∧
          ∃ body, call.request = .createIncident body) ∨
        (exception = "StatementError" ∧ call.Unstorable setup)

/-- What a call was answered is a principal's to see that it speaks for. -/
def ApiCall.Answered
    (settings : ApiSettings)
    (call : ApiCall)
    (response : ApiResponse)
    (world : ApiWorld) : Prop :=
  ∃ principal,
    call.SpeaksFor settings principal ∧
      call.request.Answered principal world response

/-- What a principal was answered stays theirs to see. -/
theorem ApiWorld.Grows.answered
    {before after : ApiWorld}
    {principal : Principal}
    {request : ApiRequest}
    {response : ApiResponse}
    (grows : before.Grows after)
    (answered : request.Answered principal before response) :
    request.Answered principal after response := by
  cases request <;> cases response <;>
    try exact absurd answered id
  case createIncident.accepted =>
    obtain ⟨runPk, incident, belongs, rest⟩ := answered
    exact ⟨runPk, incident, grows.runOf belongs, rest⟩
  case getIncident.incident =>
    obtain ⟨member, rest⟩ := answered
    exact ⟨grows.incidents _ member, rest⟩
  case getRun.run =>
    obtain ⟨named, incident, belongs, rest⟩ := answered
    exact ⟨named, incident, grows.runOf belongs, rest⟩
  case listEvidence.evidence =>
    obtain ⟨runPk, isOpen, rows⟩ := answered
    exact
      ⟨runPk, grows.opens isOpen, fun row member =>
        ⟨grows.evidence row (rows row member).1, (rows row member).2⟩⟩
  case listToolCalls.toolCalls =>
    obtain ⟨runPk, isOpen, rows⟩ := answered
    exact
      ⟨runPk, grows.opens isOpen, fun row member =>
        ⟨grows.toolCalls row (rows row member).1, (rows row member).2⟩⟩
  case listPatchArtifacts.patchArtifacts =>
    obtain ⟨runPk, isOpen, rows⟩ := answered
    exact
      ⟨runPk, grows.opens isOpen, fun row member =>
        ⟨grows.patchArtifacts row (rows row member).1,
          (rows row member).2⟩⟩
  case listTests.tests =>
    obtain ⟨runPk, isOpen, rows⟩ := answered
    exact
      ⟨runPk, grows.opens isOpen, fun row member =>
        ⟨grows.testRuns row (rows row member).1, (rows row member).2⟩⟩
  case getApproval.approval =>
    obtain ⟨runPk, isOpen, rows⟩ := answered
    exact
      ⟨runPk, grows.opens isOpen, fun row found =>
        ⟨grows.approvals row (rows row found).1, (rows row found).2⟩⟩
  case submitApproval.approval runId body approval =>
    cases approval with
    | none =>
        exact absurd answered id
    | some approval =>
        obtain ⟨isOpen, member, rest⟩ := answered
        exact ⟨grows.opens isOpen, grows.approvals _ member, rest⟩

section Routes

variable {setup : ApiSetup}
variable {call : ApiCall} {principal : Principal}
variable {world : ApiWorld}

/-- What the calls see of each other and of the workers. -/
abbrev ApiSetup.surroundings (setup : ApiSetup) :
    Program.Surroundings ApiWorld ApiQuery ApiAnswer :=
  setup.service.interfered (ApiWorld.Sound setup.settings)
    ApiWorld.Grows

/-- A program of a call that only asks what it may, and fails as expected. -/
abbrev ApiProgram.Right
    {Value : Type}
    (setup : ApiSetup)
    (call : ApiCall)
    (program : ApiProgram Value)
    (world : ApiWorld)
    (returns : Value → ApiWorld → Prop) : Prop :=
  Program.Keeps setup.surroundings (call.MayAsk setup.settings) program
    world returns fun error _ => call.MayFail setup error

/-- One part of a route and then another. -/
theorem ApiProgram.Right.bind
    {Value Next : Type}
    {program : ApiProgram Value}
    {next : Value → ApiProgram Next}
    {middle : Value → ApiWorld → Prop}
    {returns : Next → ApiWorld → Prop}
    (first : program.Right setup call world middle)
    (rest :
      ∀ value after,
        middle value after →
        (next value).Right setup call after returns) :
    ApiProgram.Right setup call (program >>= next) world returns :=
  Program.Keeps.bind
    (first.mono (fun _ _ permitted => permitted) rest
      (fun _ _ expected => expected))

/-- A check that passes goes on; one that fails forbids the request. -/
theorem checked_right
    {result : Except HttpError Unit}
    {returns : Unit → ApiWorld → Prop}
    (passes : result = .ok () → returns () world)
    (forbids :
      ∀ error, result = .error error → error.statusCode = 403) :
    (checked result).Right setup call world returns := by
  cases result with
  | ok value =>
      exact .done (passes rfl)
  | error error =>
      refine .raise ?_
      change error.statusCode ∈ call.request.refusals
      rw [forbids error rfl]
      exact call.request.forbidden_mem_refusals

/-- Every error of a role check is a 403. -/
theorem Principal.require_error
    {roles : List Role}
    {error : HttpError}
    (refused : principal.require roles = .error error) :
    error.statusCode = 403 := by
  unfold Principal.require at refused
  split at refused
  · cases refused
    rfl
  · cases refused

/-- Every error of an access check is a 403. -/
theorem Principal.access_error
    {ownerId : Option String}
    {error : HttpError}
    (refused : principal.access ownerId = .error error) :
    error.statusCode = 403 := by
  unfold Principal.access at refused
  split at refused
  · cases refused
    rfl
  · split at refused
    · cases refused
      rfl
    · cases refused

/-- A query that reads, and what is known of its answer. -/
theorem query_right
    {asked : ApiQuery}
    {returns : ApiAnswer asked → ApiWorld → Prop}
    (permitted :
      ∀ disturbed,
        world.Grows disturbed →
        disturbed.Sound setup.settings →
        call.MayAsk setup.settings disturbed asked)
    (serves :
      ∀ disturbed answer served,
        world.Grows disturbed →
        disturbed.Sound setup.settings →
        ServesApi setup.columns setup.sha256 setup.settings.maxQueuedRuns
          disturbed asked
          answer served →
        returns answer served) :
    (query asked).Right setup call world returns :=
  Program.Keeps.request fun disturbed interfered =>
    ⟨permitted disturbed interfered.1 interfered.2,
      fun answer served serving =>
        serves disturbed answer served interfered.1 interfered.2 serving⟩

/-- A value that PostgreSQL does not take ends a call that gave it. -/
theorem statementError_right
    {Value : Type}
    {returns : Value → ApiWorld → Prop}
    (unstorable : call.Unstorable setup) :
    (statementError : ApiProgram Value).Right setup call world returns :=
  .raise (.inr ⟨rfl, unstorable⟩)

/-- A text without a NUL is sent. -/
theorem sent_right
    {text : String}
    (refused : sendable text = false → call.Unstorable setup) :
    (sent text).Right setup call world fun _ _ => True := by
  unfold sent
  by_cases sends : sendable text = true
  · rw [if_pos sends]
    exact .done trivial
  · rw [if_neg sends]
    exact statementError_right (refused (Bool.eq_false_iff.mpr sends))

/-- A run read before, whatever has been written to it since. -/
def ApiWorld.Knows (world : ApiWorld) (run : AgentRun) : Prop :=
  ∃ row,
    row ∈ world.database.runs ∧
      row.id = run.id ∧
      row.runId = run.runId ∧
      row.incidentPk = run.incidentPk

/-- A run that was read stays known. -/
theorem ApiWorld.Grows.knows
    {before after : ApiWorld}
    {run : AgentRun}
    (grows : before.Grows after)
    (known : before.Knows run) :
    after.Knows run := by
  obtain ⟨row, member, sameId, sameRunId, samePk⟩ := known
  obtain ⟨later, inAfter, laterId, laterRunId, laterPk⟩ :=
    grows.runs row member
  exact
    ⟨later, inAfter, laterId.trans sameId, laterRunId.trans sameRunId,
      laterPk.trans samePk⟩

/-- A known run belongs to the incident with its key. -/
theorem ApiWorld.Knows.runOf
    {run : AgentRun}
    {incident : Incident}
    (known : world.Knows run)
    (member : incident ∈ world.database.incidents)
    (named : incident.id = run.incidentPk) :
    world.RunOf run.id run.runId incident := by
  obtain ⟨row, inTable, sameId, sameRunId, samePk⟩ := known
  exact
    ⟨⟨row, inTable, sameId, sameRunId, samePk.trans named.symm⟩, member⟩

/-- The run of a route is known, and has the identifier that was asked for. -/
theorem runOr404_right
    (runId : String)
    (findsRun : 404 ∈ call.request.refusals)
    (refused : sendable runId = false → call.Unstorable setup) :
    (runOr404 runId).Right setup call world fun run final =>
      final.Knows run ∧ run.runId = runId := by
  refine (sent_right refused).bind ?_
  intro _ entered _
  refine Program.Keeps.bind (query_right (fun _ _ _ => trivial) ?_)
  intro disturbed answer served grew sound serves
  cases serves
  cases found :
      disturbed.database.runs.find fun run => run.runId = runId with
  | none =>
      exact .raise findsRun
  | some run =>
      obtain ⟨member, named⟩ := UniqueTable.find_some found
      exact
        .done
          ⟨⟨run, member, rfl, rfl, rfl⟩, of_decide_eq_true named⟩

/-- A run that passes `authorize_run` has an incident, open to the principal. -/
theorem authorizeRun_right
    {run : AgentRun}
    (known : world.Knows run) :
    (authorizeRun principal run).Right setup call world
      fun answer final =>
        final.Knows run ∧
          ∃ incident,
            answer = some incident ∧
              final.RunOf run.id run.runId incident ∧
              principal.MayAccess incident.ownerId := by
  refine Program.Keeps.bind (query_right (fun _ _ _ => trivial) ?_)
  intro disturbed answer served grew sound serves
  cases serves
  have stillKnown := grew.knows known
  obtain ⟨row, inTable, sameId, sameRunId, samePk⟩ := stillKnown
  obtain ⟨linked, isIncident, named⟩ := sound.linked row inTable
  have found :
      (disturbed.database.incidents.find fun incident =>
          incident.id = run.incidentPk) = some linked := by
    refine (UniqueTable.find_eq_some_iff ?_).mpr ⟨isIncident, ?_⟩
    · intro first second firstNamed secondNamed
      have firstId := of_decide_eq_true firstNamed
      have secondId := of_decide_eq_true secondNamed
      simp [Incident.conflicts, firstId, secondId]
    · exact decide_eq_true (named.trans samePk)
  rw [found]
  refine Program.Keeps.bind ?_
  refine checked_right ?_ (fun error refused => ?_)
  · intro passed
    have access := Principal.access_eq_ok.mp passed
    have known : disturbed.Knows run :=
      ⟨row, inTable, sameId, sameRunId, samePk⟩
    exact
      .done
        ⟨known, linked, rfl,
          known.runOf isIncident (named.trans samePk), access⟩
  · exact Principal.access_error refused

/-- A route that answers the principal what is theirs to see. -/
abbrev ApiProgram.Serves
    (setup : ApiSetup)
    (call : ApiCall)
    (principal : Principal)
    (program : ApiProgram ApiResponse)
    (world : ApiWorld) : Prop :=
  program.Right setup call world fun response final =>
    call.request.Answered principal final response

/-- `get_incident` answers the incident to whom it is open. -/
theorem getIncidentRoute_serves
    {incidentId : String}
    (asked : call.request = .getIncident incidentId) :
    (getIncidentRoute principal incidentId).Serves setup call principal
      world := by
  have refused : sendable incidentId = false → call.Unstorable setup := by
    intro refused
    simpa [ApiCall.Unstorable, asked] using refused
  refine (sent_right refused).bind ?_
  intro _ entered _
  refine Program.Keeps.bind (query_right (fun _ _ _ => trivial) ?_)
  intro disturbed answer served grew sound serves
  cases serves
  cases found :
      disturbed.database.incidents.find fun incident =>
        incident.incidentId = incidentId with
  | none =>
      exact .raise (by simp [asked, ApiCall.MayFail, ApiRequest.refusals])
  | some incident =>
      obtain ⟨member, named⟩ := UniqueTable.find_some found
      refine Program.Keeps.bind (checked_right ?_ ?_)
      · intro passed
        have access := Principal.access_eq_ok.mp passed
        refine .done ?_
        rw [asked]
        exact ⟨member, of_decide_eq_true named, access⟩
      · intro error refused
        exact Principal.access_error refused

/-- `get_run` answers the run to whom its incident is open. -/
theorem getRunRoute_serves
    {runId : String}
    (asked : call.request = .getRun runId) :
    (getRunRoute principal runId).Serves setup call principal world := by
  have findsRun : 404 ∈ call.request.refusals := by
    simp [asked, ApiRequest.refusals]
  have refused : sendable runId = false → call.Unstorable setup := by
    intro refused
    simpa [ApiCall.Unstorable, asked] using refused
  refine (runOr404_right runId findsRun refused).bind ?_
  rintro run middle ⟨known, rfl⟩
  refine (authorizeRun_right known).bind ?_
  rintro answer final ⟨stillKnown, incident, rfl, belongs, access⟩
  refine .done ?_
  rw [asked]
  exact ⟨rfl, incident, belongs, rfl, access⟩

/-- A route that lists rows of a run answers them to whom the run is open. -/
theorem listRoute_serves
    {rowsOf : String → ApiQuery}
    {response : (runPk : String) → ApiAnswer (rowsOf runPk) → ApiResponse}
    {runId : String}
    (findsRun : 404 ∈ call.request.refusals)
    (refused : sendable runId = false → call.Unstorable setup)
    (reads :
      ∀ world runPk, call.MayAsk setup.settings world (rowsOf runPk))
    (lists :
      ∀ runPk before answer after,
        ServesApi setup.columns setup.sha256 setup.settings.maxQueuedRuns
            before (rowsOf runPk) answer after →
        after.Opens principal runPk runId →
        call.request.Answered principal after (response runPk answer)) :
    (listRoute principal rowsOf response runId).Serves setup call principal
      world := by
  refine (runOr404_right runId findsRun refused).bind ?_
  rintro run middle ⟨known, rfl⟩
  refine (authorizeRun_right known).bind ?_
  rintro incident final ⟨stillKnown, found, rfl, belongs, access⟩
  refine
    Program.Keeps.bind
      (query_right (fun disturbed _ _ => reads disturbed run.id) ?_)
  intro disturbed answer served grew sound serves
  refine .done (lists run.id disturbed answer served serves ?_)
  exact (grew.trans serves.grows).opens ⟨found, belongs, access⟩

/-- Rows selected by their run belong to it. -/
theorem mem_filter_runPk
    {Row : Type}
    {runPkOf : Row → String}
    {runPk : String}
    {rows : List Row}
    {row : Row}
    (member : row ∈ rows.filter fun row => runPkOf row = runPk) :
    row ∈ rows ∧ runPkOf row = runPk := by
  obtain ⟨inRows, named⟩ := List.mem_filter.mp member
  exact ⟨inRows, of_decide_eq_true named⟩

/-- `list_evidence` answers the evidence of an open run. -/
theorem listEvidenceRoute_serves
    {runId : String}
    (asked : call.request = .listEvidence runId) :
    (listEvidenceRoute principal runId).Serves setup call principal
      world := by
  refine
    listRoute_serves (by simp [asked, ApiRequest.refusals])
      (by simp [ApiCall.Unstorable, asked]) (fun _ _ => trivial) ?_
  intro runPk before answer after serves isOpen
  cases serves
  rw [asked]
  exact ⟨runPk, isOpen, fun row member => mem_filter_runPk member⟩

/-- `list_tool_calls` answers the tool calls of an open run. -/
theorem listToolCallsRoute_serves
    {runId : String}
    (asked : call.request = .listToolCalls runId) :
    (listToolCallsRoute principal runId).Serves setup call principal
      world := by
  refine
    listRoute_serves (by simp [asked, ApiRequest.refusals])
      (by simp [ApiCall.Unstorable, asked]) (fun _ _ => trivial) ?_
  intro runPk before answer after serves isOpen
  cases serves
  rw [asked]
  exact ⟨runPk, isOpen, fun row member => mem_filter_runPk member⟩

/-- `list_patch_artifacts` answers the artifacts of an open run. -/
theorem listPatchArtifactsRoute_serves
    {runId : String}
    (asked : call.request = .listPatchArtifacts runId) :
    (listPatchArtifactsRoute principal runId).Serves setup call principal
      world := by
  refine
    listRoute_serves (by simp [asked, ApiRequest.refusals])
      (by simp [ApiCall.Unstorable, asked]) (fun _ _ => trivial) ?_
  intro runPk before answer after serves isOpen
  cases serves
  rw [asked]
  exact ⟨runPk, isOpen, fun row member => mem_filter_runPk member⟩

/-- `list_tests` answers the tests of an open run. -/
theorem listTestsRoute_serves
    {runId : String}
    (asked : call.request = .listTests runId) :
    (listTestsRoute principal runId).Serves setup call principal world := by
  refine
    listRoute_serves (by simp [asked, ApiRequest.refusals])
      (by simp [ApiCall.Unstorable, asked]) (fun _ _ => trivial) ?_
  intro runPk before answer after serves isOpen
  cases serves
  rw [asked]
  exact ⟨runPk, isOpen, fun row member => mem_filter_runPk member⟩

/-- `get_approval` answers the approval of an open run. -/
theorem getApprovalRoute_serves
    {runId : String}
    (asked : call.request = .getApproval runId) :
    (getApprovalRoute principal runId).Serves setup call principal
      world := by
  refine
    listRoute_serves (by simp [asked, ApiRequest.refusals])
      (by simp [ApiCall.Unstorable, asked]) (fun _ _ => trivial) ?_
  intro runPk before answer after serves isOpen
  cases serves
  rw [asked]
  refine ⟨runPk, isOpen, ?_⟩
  intro row found
  obtain ⟨member, named⟩ := UniqueTable.find_some found
  exact ⟨member, of_decide_eq_true named⟩

/-- The check for a known identifier only reads. -/
theorem rejectKnownIncident_right
    (body : IncidentCreate)
    (rejects : 409 ∈ call.request.refusals)
    (refused :
      ∀ incidentId,
        body.incidentId = some incidentId →
        sendable incidentId = false →
        call.Unstorable setup) :
    (rejectKnownIncident body).Right setup call world fun _ _ => True := by
  unfold rejectKnownIncident
  split
  · exact .done trivial
  · rename_i incidentId given
    split
    · exact .done trivial
    · refine (sent_right (refused incidentId given)).bind ?_
      intro _ entered _
      refine Program.Keeps.bind (query_right (fun _ _ _ => trivial) ?_)
      intro disturbed answer served grew sound serves
      cases answer with
      | none =>
          exact .done trivial
      | some incident =>
          exact .raise rejects

/-- The role that a passed check proves. -/
theorem Principal.role_of_require
    {role : Role}
    (passed : principal.require [role] = .ok ()) :
    principal.role = role ∨ principal.role = .admin := by
  simpa using Principal.require_eq_ok.mp passed

/-- Past a role check the principal has the role, or administers. -/
theorem requireRole_right (role : Role) :
    (checked (principal.require [role])).Right setup call world fun _ _ =>
      principal.role = role ∨ principal.role = .admin :=
  checked_right Principal.role_of_require
    (fun _ refused => Principal.require_error refused)

/-- What an accepted admission tells its caller. -/
theorem accepted_answered
    {body : IncidentCreate}
    {ids : AdmissionIds}
    {queued maxQueuedRuns : Nat}
    {incident : Incident}
    {run : AgentRun}
    (accepted :
      (createIncidentAndRun maxQueuedRuns queued (body.data principal) ids
        world.database).1 = .accepted incident run) :
    let admitted :=
      world.admitted
        (createIncidentAndRun maxQueuedRuns queued (body.data principal)
          ids world.database)
    admitted.RunOf run.id run.runId incident ∧
      incident.ownerId = some principal.subject := by
  rcases
    createIncidentAndRun_cases maxQueuedRuns queued (body.data principal)
      ids world.database with
    ⟨incidents, runs, incidentAdded, runAdded, shape⟩ |
      ⟨outcome, refused, shape⟩
  · rw [shape] at accepted ⊢
    cases accepted
    have inRuns : ids.run ∈ runs :=
      (UniqueTable.mem_insert runAdded _).mpr (.inr rfl)
    have inIncidents : (body.data principal).incident ids ∈ incidents :=
      (UniqueTable.mem_insert incidentAdded _).mpr (.inr rfl)
    exact ⟨⟨⟨ids.run, inRuns, rfl, rfl, rfl⟩, inIncidents⟩, rfl⟩
  · rw [shape] at accepted
    exact absurd accepted (refused incident run)

/-- An identifier with a NUL does not fit the row. -/
theorem IncidentCreate.fits_eq_false
    {columns : ColumnValues}
    {incidentId : String}
    (body : IncidentCreate)
    (given : body.incidentId = some incidentId)
    (refused : sendable incidentId = false) :
    (body.data principal).fits columns = false := by
  simp [IncidentData.fits, IncidentCreate.data, given, fitsColumn, refused]

/-- `create_incident` answers its caller the run it created for them. -/
theorem createIncidentRoute_serves
    {body : IncidentCreate}
    (speaks : call.SpeaksFor setup.settings principal)
    (asked : call.request = .createIncident body) :
    (createIncidentRoute setup.settings principal body).Serves setup call
      principal world := by
  have rejects : 409 ∈ call.request.refusals := by
    simp [asked, ApiRequest.refusals]
  have unstorable :
      (body.data principal).fits setup.columns = false →
        call.Unstorable setup := by
    intro refused
    simp only [ApiCall.Unstorable, asked]
    exact ⟨principal, speaks, refused⟩
  refine (requireRole_right .initiator).bind ?_
  intro _ checkedWorld role
  refine
    (rejectKnownIncident_right body rejects
      fun incidentId given refused =>
        unstorable (body.fits_eq_false given refused)).bind ?_
  intro _ middle _
  refine Program.Keeps.bind (query_right ?_ ?_)
  · intro disturbed grew sound
    exact ⟨principal, body, speaks, role, asked, rfl⟩
  · intro disturbed answer served grew sound serves
    cases serves with
    | incidentRefused data refused =>
      exact statementError_right (unstorable refused)
    | createIncidentAndRun data queued ids stored =>
      generalize outcome :
        (createIncidentAndRun setup.settings.maxQueuedRuns queued
          (body.data principal) ids disturbed.database).1 = answer
      cases answer with
      | queueFull message =>
          refine .raise ?_
          simp [asked, ApiCall.MayFail, ApiRequest.refusals, queueFull]
      | integrityError =>
          exact .raise (.inl ⟨rfl, body, asked⟩)
      | accepted incident run =>
          obtain ⟨belongs, owned⟩ := accepted_answered outcome
          by_cases embedded :
              setup.settings.embeddedWorkerEnabled = true
          · simp only [embedded, if_true]
            refine Program.Keeps.bind (query_right ?_ ?_)
            · intro later grew sound
              exact
                ⟨embedded, run.id, incident, grew.runOf belongs, rfl⟩
            · intro later answer final grew sound serves
              refine .done ?_
              rw [asked]
              exact
                ⟨run.id, incident,
                  (grew.trans serves.grows).runOf belongs, rfl, owned⟩
          · simp only [embedded]
            refine .done ?_
            rw [asked]
            exact ⟨run.id, incident, belongs, rfl, owned⟩

/-- What is known of a decision that a call has committed. -/
structure ApiWorld.Committed
    (world : ApiWorld)
    (principal : Principal)
    (runId : String)
    (body : ApprovalRequest)
    (approval : Approval)
    (run : AgentRun) : Prop where
  member : approval ∈ world.database.approvals
  actor : approval.actor = principal.subject
  decision : approval.decision = body.decision
  isOpen : world.Opens principal approval.runPk runId
  known : world.Knows run
  runPk : run.id = approval.runPk
  runId : run.runId = runId

/-- A committed decision stays committed. -/
theorem ApiWorld.Grows.committed
    {before after : ApiWorld}
    {runId : String}
    {body : ApprovalRequest}
    {approval : Approval}
    {run : AgentRun}
    (grows : before.Grows after)
    (committed : before.Committed principal runId body approval run) :
    after.Committed principal runId body approval run where
  member := grows.approvals _ committed.member
  actor := committed.actor
  decision := committed.decision
  isOpen := grows.opens committed.isOpen
  known := grows.knows committed.known
  runPk := committed.runPk
  runId := committed.runId

/-- The incident is updated only for a decision about its run. -/
theorem noteDecision_right
    {runId : String}
    {body : ApprovalRequest}
    {approval : Approval}
    {run : AgentRun}
    (committed : world.Committed principal runId body approval run) :
    (noteDecision body run).Right setup call world fun _ final =>
      final.Committed principal runId body approval run := by
  refine Program.Keeps.bind (query_right (fun _ _ _ => trivial) ?_)
  intro disturbed answer served grew sound serves
  cases serves
  have still := grew.committed committed
  cases found :
      disturbed.database.incidents.find fun incident =>
        incident.id = run.incidentPk with
  | none =>
      exact .done still
  | some incident =>
      obtain ⟨member, named⟩ := UniqueTable.find_some found
      have belongs :=
        still.known.runOf member (of_decide_eq_true named)
      rw [still.runPk, still.runId] at belongs
      have decided : disturbed.Decided body.decision runId incident.id :=
        ⟨approval, incident, still.member, still.decision, belongs, rfl⟩
      refine query_right ?_ ?_
      · intro later grew sound
        exact ⟨runId, grew.decided decided⟩
      · intro later answer final grew sound serves
        exact (grew.trans serves.grows).committed still

/-- The executor is handed only runs whose approval is committed. -/
theorem handOver_right
    {runId : String}
    {body : ApprovalRequest}
    {approval : Approval}
    {run : AgentRun}
    (committed : world.Committed principal runId body approval run) :
    (handOver setup.settings body run).Right setup call world
      fun _ final => final.Committed principal runId body approval run := by
  unfold handOver
  split
  · rename_i resumes
    refine query_right ?_ ?_
    · intro disturbed grew sound
      have still := grew.committed committed
      obtain ⟨incident, belongs, access⟩ := still.isOpen
      rw [still.runId]
      exact
        ⟨resumes.2, resumes.1, incident.id, approval, incident,
          still.member, still.decision.trans resumes.1, belongs, rfl⟩
    · intro disturbed answer served grew sound serves
      exact (grew.trans serves.grows).committed committed
  · exact .done committed

/-- The answer to a decision is the approval that was asked for. -/
theorem committed_of_decided
    {before after : ApiWorld}
    {runId : String}
    {body : ApprovalRequest}
    {loaded run : AgentRun}
    {approval : Approval}
    (isOpen : before.Opens principal loaded.id runId)
    (known : before.Knows loaded)
    (named : loaded.runId = runId)
    (serves :
      ServesApi setup.columns setup.sha256 setup.settings.maxQueuedRuns
        before (.decide loaded (body.decisionRequest principal))
        (some (.ok (approval, run))) after) :
    after.Committed principal runId body approval run := by
  have grows := serves.grows
  cases serves with
  | @decided _ row _ updatedAt decidedAt store _ found decides
      inserted stored =>
    obtain ⟨inTable, sameId⟩ := Database.runOf_eq_some found
    obtain ⟨artifact, approvals, chosen, waiting, added, rfl⟩ :=
      ApprovalService.decide_eq_ok.mp decides
    obtain ⟨member, ofRun⟩ := UniqueTable.find_some inserted
    have ofRow : approval.runPk = row.id := of_decide_eq_true ofRun
    have newest :
        (body.decisionRequest principal).approval row.id artifact
            decidedAt ∈ approvals :=
      (UniqueTable.mem_insert added _).mpr (.inr rfl)
    have same :
        approval =
          (body.decisionRequest principal).approval row.id artifact
            decidedAt := by
      refine UniqueTable.eq_of_conflict ?_ member newest ?_
      · intro left right
        simp [Approval.conflicts, eq_comm]
      · exact decide_eq_true ofRow
    subst same
    have samePk :
        ((body.decisionRequest principal).approval row.id artifact
          decidedAt).runPk = loaded.id := sameId
    obtain ⟨old, inOld, oldId, oldRunId, oldPk⟩ := known
    have isRow : old = row :=
      Database.run_eq_of_id inOld inTable (oldId.trans sameId.symm)
    subst isRow
    refine
      { member := member
        actor := rfl
        decision := rfl
        isOpen := ?_
        known := ?_
        runPk := rfl
        runId := oldRunId.trans named }
    · rw [samePk]
      exact grows.opens isOpen
    · exact
        ⟨_, (Database.mem_withStore_runs found).mpr (.inl rfl), rfl, rfl,
          rfl⟩

/-- `submit_approval` answers the approval it committed for the principal. -/
theorem submitApprovalRoute_serves
    {runId : String}
    {body : ApprovalRequest}
    (speaks : call.SpeaksFor setup.settings principal)
    (asked : call.request = .submitApproval runId body) :
    (submitApprovalRoute setup.settings principal runId body).Serves setup
      call principal world := by
  have findsRun : 404 ∈ call.request.refusals := by
    simp [asked, ApiRequest.refusals]
  have conflicts : 409 ∈ call.request.refusals := by
    simp [asked, ApiRequest.refusals]
  have unsent : sendable runId = false → call.Unstorable setup := by
    intro refused
    simp only [ApiCall.Unstorable, asked]
    exact .inl refused
  refine (requireRole_right .approver).bind ?_
  intro _ checkedWorld role
  refine (runOr404_right runId findsRun unsent).bind ?_
  rintro run middle ⟨known, rfl⟩
  refine (authorizeRun_right known).bind ?_
  rintro incident entered ⟨stillKnown, found, rfl, belongs, access⟩
  by_cases waiting : run.status = .waitingApproval
  · simp only [waiting, ne_eq, not_true_eq_false, if_false]
    refine Program.Keeps.bind (query_right ?_ ?_)
    · intro disturbed grew sound
      exact
        ⟨principal, run.runId, body, speaks, role, asked,
          grew.opens ⟨found, belongs, access⟩, rfl⟩
    · intro disturbed answer served grew sound serves
      rcases answer with _ | conflict | ⟨approval, refreshed⟩
      · cases serves with
        | decisionRefused loaded request refused =>
            refine statementError_right ?_
            simp only [ApiCall.Unstorable, asked]
            exact .inr ⟨principal, speaks, refused⟩
      · exact .raise conflicts
      · have committed :=
          committed_of_decided (grew.opens ⟨found, belongs, access⟩)
            (grew.knows stillKnown) rfl serves
        refine (noteDecision_right committed).bind ?_
        intro _ noted stillCommitted
        refine (handOver_right stillCommitted).bind ?_
        intro _ final atEnd
        refine .done ?_
        rw [asked]
        exact ⟨atEnd.isOpen, atEnd.member, atEnd.actor, atEnd.decision⟩
  · simp only [ne_eq, waiting, not_false_eq_true, if_true]
    exact .raise conflicts

/-- Every route answers what it may. -/
theorem route_serves
    {request : ApiRequest}
    (speaks : call.SpeaksFor setup.settings principal)
    (asked : call.request = request) :
    (request.route setup.settings principal).Serves setup call principal
      world := by
  cases request with
  | createIncident body =>
      exact createIncidentRoute_serves speaks asked
  | getIncident incidentId =>
      exact getIncidentRoute_serves asked
  | getRun runId =>
      exact getRunRoute_serves asked
  | listEvidence runId =>
      exact listEvidenceRoute_serves asked
  | listToolCalls runId =>
      exact listToolCallsRoute_serves asked
  | listPatchArtifacts runId =>
      exact listPatchArtifactsRoute_serves asked
  | listTests runId =>
      exact listTestsRoute_serves asked
  | getApproval runId =>
      exact getApprovalRoute_serves asked
  | submitApproval runId body =>
      exact submitApprovalRoute_serves speaks asked

/-- Every call is answered what its principal may see, or a 401. -/
theorem ApiCall.program_right (call : ApiCall) :
    (call.program setup.settings).Right setup call world
      (call.Answered setup.settings) := by
  unfold ApiCall.program
  cases authenticated :
      authenticate setup.settings.apiTokens call.authorization with
  | error error =>
      refine .raise ?_
      change error.statusCode ∈ call.request.refusals
      rw [authenticate_error authenticated]
      exact call.request.unauthorized_mem_refusals
  | ok principal =>
      refine
        (route_serves authenticated rfl).mono (fun _ _ may => may) ?_
          (fun _ _ expected => expected)
      intro response final answered
      exact ⟨principal, authenticated, answered⟩

end Routes

/-- The calls of the API and the workers cooperate. -/
theorem ApiSetup.cooperates (setup : ApiSetup) :
    setup.service.Cooperates (ApiWorld.Sound setup.settings)
      ApiWorld.Grows
      (fun call world => call ∈ world.received)
      (fun call => call.MayAsk setup.settings)
      (fun call => call.Answered setup.settings)
      (fun call error _ => call.MayFail setup error) where
  reflexive := .refl
  transitive := .trans
  arrival := by
    intro world call sound
    have grows :
        world.Grows { world with received := call :: world.received } :=
      { ApiWorld.Grows.refl world with
        received := fun _ member => List.mem_cons_of_mem _ member }
    refine ⟨?_, grows, List.mem_cons_self⟩
    exact
      sound.grown grows (fun _ member => member) (.refl _)
        (fun _ member => .inl member) (fun _ rejected => .inl rejected)
        (fun _ member => .inl member)
  elsewhere := by
    intro before after sound writes
    exact ⟨sound.workersWrite writes, writes.grows⟩
  serving := by
    intro call before asked answer after sound heard mayAsk serves
    exact ⟨sound.serves heard mayAsk serves, serves.grows⟩
  receivedStable := by
    intro call before after grows heard
    exact grows.received call heard
  returnsStable := by
    rintro call response before after grows ⟨principal, speaks, answered⟩
    exact ⟨principal, speaks, grows.answered answered⟩
  raisesStable := fun _ expected => expected
  keeps := by
    intro call world sound heard
    exact call.program_right

/-- A control plane on which nothing was decided yet is sound. -/
theorem ApiWorld.Initial.sound
    {settings : ApiSettings}
    {world : ApiWorld}
    (initial : world.Initial) :
    world.Sound settings where
  linked := initial.linked
  single := initial.single
  owned incident member := .inl (initial.legacy incident member)
  authorised approval member := absurd member (initial.undecided approval)
  rejected pk rejected := by
    rw [initial.unrejected pk] at rejected
    cases rejected
  submitted submission member := by
    rw [initial.idle] at member
    cases member

/-- Whatever is in flight, the API is sound. -/
theorem ApiSetup.sound_of_reachable
    {setup : ApiSetup}
    {pool :
      Program.Pool ApiWorld ApiCall ApiQuery ApiAnswer ApiError
        ApiResponse}
    (reached : setup.api.Reachable pool) :
    pool.Sound setup.service (ApiWorld.Sound setup.settings)
      ApiWorld.Grows
      (fun call world => call ∈ world.received)
      (fun call => call.MayAsk setup.settings)
      (fun call => call.Answered setup.settings)
      (fun call error _ => call.MayFail setup error) :=
  Program.Pool.sound_of_reachable setup.cooperates
    (fun initial => initial.sound) reached

end IncidentPilot
