import IncidentPilot.ConcurrentDecisions
import IncidentPilot.ControlApi

/-!
# The API and the workers on one control plane

Any number of calls of the API in flight at once, among the transactions of the
workers.  Every query of a route is a step of its own, so whatever a route has
read may be out of date when it writes.  `received` and `submitted` are history
variables: the calls that came in, and what the embedded executor was given.
-/

namespace IncidentPilot

/-- What the embedded executor was asked to do. -/
inductive Submission where
  | run (incidentPk runId : String)
  | resume (runId : String) (decision : ApprovalDecision)
  deriving Repr, DecidableEq

/-- The tables the API reads, with the column `incidents.status` by key. -/
structure ApiWorld where
  database : Database
  tables : InvestigationTables
  incidentStatus : String → IncidentStatus
  received : List ApiCall
  submitted : List Submission

/-- The run whose primary key is given. -/
def Database.runOf (database : Database) (pk : String) : Option AgentRun :=
  database.runs.find fun run => run.id = pk

/-- A transaction that leaves a store behind in a run's place. -/
def ApiWorld.withStore
    (world : ApiWorld)
    (runPk : String)
    (store : Store) : ApiWorld :=
  { world with database := world.database.withStore runPk store }

/-- The world after an admission. -/
def ApiWorld.admitted
    (world : ApiWorld)
    (outcome : AdmissionOutcome × Database) : ApiWorld :=
  { world with
    database := outcome.2
    incidentStatus :=
      match outcome.1 with
      | .accepted incident _ =>
          Function.update world.incidentStatus incident.id .received
      | _ => world.incidentStatus }

/-- How the database and the executor serve the routes. -/
inductive ServesApi
    (columns : ColumnValues)
    (sha256 : String → String)
    (maxQueuedRuns : Nat) :
    ApiWorld → (asked : ApiQuery) → ApiAnswer asked → ApiWorld → Prop where
  | findIncident (world : ApiWorld) (incidentId : String) :
      ServesApi columns sha256 maxQueuedRuns world (.findIncident incidentId)
        ((world.database.incidents.find fun incident =>
            incident.incidentId = incidentId).map fun incident =>
          (incident, world.incidentStatus incident.id))
        world
  | getIncident (world : ApiWorld) (pk : String) :
      ServesApi columns sha256 maxQueuedRuns world (.getIncident pk)
        (world.database.incidents.find fun incident => incident.id = pk)
        world
  | findRun (world : ApiWorld) (runId : String) :
      ServesApi columns sha256 maxQueuedRuns world (.findRun runId)
        (world.database.runs.find fun run => run.runId = runId) world
  -- The pending runs were counted some statements ago.  A queue that was full
  -- then is answered before anything is stored.
  | createIncidentAndRun
      (world : ApiWorld)
      (data : IncidentData)
      (queued : Nat)
      (ids : AdmissionIds)
      (stored : data.fits columns = true ∨ maxQueuedRuns ≤ queued) :
      ServesApi columns sha256 maxQueuedRuns world
        (.createIncidentAndRun data)
        (some
          (createIncidentAndRun maxQueuedRuns queued data ids
            world.database).1)
        (world.admitted
          (createIncidentAndRun maxQueuedRuns queued data ids
            world.database))
  | incidentRefused
      (world : ApiWorld)
      (data : IncidentData)
      (refused : data.fits columns = false) :
      ServesApi columns sha256 maxQueuedRuns world
        (.createIncidentAndRun data) none world
  | listEvidence (world : ApiWorld) (runPk : String) :
      ServesApi columns sha256 maxQueuedRuns world (.listEvidence runPk)
        (world.tables.evidence.rows.filter fun row => row.runPk = runPk)
        world
  | listToolCalls (world : ApiWorld) (runPk : String) :
      ServesApi columns sha256 maxQueuedRuns world (.listToolCalls runPk)
        (world.tables.toolCalls.rows.filter fun row => row.runPk = runPk)
        world
  | listPatchArtifacts (world : ApiWorld) (runPk : String) :
      ServesApi columns sha256 maxQueuedRuns world (.listPatchArtifacts runPk)
        (world.database.patchArtifacts.rows.filter fun row =>
          row.runPk = runPk)
        world
  | listTests (world : ApiWorld) (runPk : String) :
      ServesApi columns sha256 maxQueuedRuns world (.listTests runPk)
        (world.database.testRuns.rows.filter fun row => row.runPk = runPk)
        world
  | findApproval (world : ApiWorld) (runPk : String) :
      ServesApi columns sha256 maxQueuedRuns world (.findApproval runPk)
        (world.database.approvals.find fun row => row.runPk = runPk) world
  | decided
      {world : ApiWorld}
      {loaded row : AgentRun}
      {request : DecisionRequest}
      {updatedAt decidedAt : Instant}
      {store : Store}
      {approval : Approval}
      (found : world.database.runOf loaded.id = some row)
      (decides :
        ApprovalService.decide sha256 loaded.result request updatedAt
            decidedAt (world.database.storeOf row) = .ok store)
      (inserted :
        (store.approvals.find fun approval => approval.runPk = row.id) =
          some approval)
      (stored : request.fits columns = true) :
      ServesApi columns sha256 maxQueuedRuns world (.decide loaded request)
        (some (.ok (approval, store.rewrite row)))
        (world.withStore loaded.id store)
  | conflict
      {world : ApiWorld}
      {loaded row : AgentRun}
      {request : DecisionRequest}
      {updatedAt decidedAt : Instant}
      {message : String}
      (found : world.database.runOf loaded.id = some row)
      (refused :
        ApprovalService.decide sha256 loaded.result request updatedAt
            decidedAt (world.database.storeOf row) = .error message) :
      ServesApi columns sha256 maxQueuedRuns world (.decide loaded request)
        (some (.error message)) world
  | decisionRefused
      (world : ApiWorld)
      (loaded : AgentRun)
      (request : DecisionRequest)
      (refused : request.fits columns = false) :
      ServesApi columns sha256 maxQueuedRuns world (.decide loaded request)
        none world
  | rejected (world : ApiWorld) (pk : String) :
      ServesApi columns sha256 maxQueuedRuns world (.updateIncident pk .reject) ()
        { world with
          incidentStatus :=
            Function.update world.incidentStatus pk
              .needsHumanIntervention }
  | approved (world : ApiWorld) (pk : String) :
      ServesApi columns sha256 maxQueuedRuns world (.updateIncident pk .approve) ()
        world
  | submit (world : ApiWorld) (incidentPk runId : String) :
      ServesApi columns sha256 maxQueuedRuns world (.submit incidentPk runId) ()
        { world with
          submitted := .run incidentPk runId :: world.submitted }
  | submitResume
      (world : ApiWorld)
      (runId : String)
      (decision : ApprovalDecision) :
      ServesApi columns sha256 maxQueuedRuns world (.submitResume runId decision)
        ()
        { world with
          submitted := .resume runId decision :: world.submitted }

/-- What the workers do meanwhile: they decide nothing. -/
inductive WorkersWrite (sha256 : String → String) (deployment : Deployment) :
    ApiWorld → ApiWorld → Prop where
  | transaction
      {world : ApiWorld}
      {runPk : String}
      {row : AgentRun}
      {store : Store}
      (transaction : Transaction)
      (undecided : transaction.decides = false)
      (found : world.database.runOf runPk = some row)
      (committed :
        transaction.commitStore sha256 deployment
            (world.database.storeOf row) = some store) :
      WorkersWrite sha256 deployment world (world.withStore runPk store)
  | persist
      {world : ApiWorld}
      {runPk : String}
      {row : AgentRun}
      {final : AgentState}
      {tables : InvestigationTables}
      (found : world.database.runOf runPk = some row)
      (persisted :
        world.tables.persist sha256 runPk final = some tables) :
      WorkersWrite sha256 deployment world { world with tables := tables }

/-- The control plane, as its callers and its workers see it. -/
structure ApiSetup where
  columns : ColumnValues
  sha256 : String → String
  deployment : Deployment
  settings : ApiSettings

/-- The API as a service: a call that comes in is also recorded. -/
def ApiSetup.service
    (setup : ApiSetup) :
    Program.Service ApiWorld ApiCall ApiQuery ApiAnswer ApiError
      ApiResponse where
  begins call := call.program setup.settings
  arrives call world := { world with received := call :: world.received }
  serves :=
    ServesApi setup.columns setup.sha256 setup.settings.maxQueuedRuns
  others := WorkersWrite setup.sha256 setup.deployment

/--
Where the API begins: what the database already holds was not created by a
caller, so it has no owner, and nothing has been decided.
-/
structure ApiWorld.Initial (world : ApiWorld) : Prop where
  linked :
    ∀ run, run ∈ world.database.runs →
      ∃ incident,
        incident ∈ world.database.incidents ∧
          incident.id = run.incidentPk
  single :
    ∀ first, first ∈ world.database.runs →
      ∀ second, second ∈ world.database.runs →
        first.incidentPk = second.incidentPk → first.id = second.id
  legacy :
    ∀ incident, incident ∈ world.database.incidents →
      incident.ownerId = none
  undecided : ∀ approval, approval ∉ world.database.approvals
  unrejected : ∀ pk, world.incidentStatus pk = .received
  unheard : world.received = []
  idle : world.submitted = []

/-- The calls of the API, in any order, among the workers' transactions. -/
def ApiSetup.api (setup : ApiSetup) :
    Machine
      (Program.Pool ApiWorld ApiCall ApiQuery ApiAnswer ApiError
        ApiResponse)
      (Program.PoolAction ApiCall) :=
  Program.pools setup.service ApiWorld.Initial

end IncidentPilot
