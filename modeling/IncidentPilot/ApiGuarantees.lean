import IncidentPilot.ApiRoutes

/-!
# What the API guarantees

Stated for any number of calls in flight at once, in any order, each of which
may die, while the workers write what they like except decisions.
-/

namespace IncidentPilot

/-- The pools of the API. -/
abbrev ApiPool :=
  Program.Pool ApiWorld ApiCall ApiQuery ApiAnswer ApiError ApiResponse

/-- A database that answers at once, to which nothing else is written. -/
def serveApi
    (setup : ApiSetup)
    (ids : AdmissionIds)
    (world : ApiWorld) :
    (asked : ApiQuery) → Option (ApiAnswer asked × ApiWorld)
  | .findIncident incidentId =>
      some
        ((world.database.incidents.find fun incident =>
            incident.incidentId = incidentId).map fun incident =>
          (incident, world.incidentStatus incident.id),
          world)
  | .getIncident pk =>
      some
        (world.database.incidents.find fun incident => incident.id = pk,
          world)
  | .findRun runId =>
      some
        (world.database.runs.find fun run => run.runId = runId, world)
  | .createIncidentAndRun data =>
      let outcome :=
        createIncidentAndRun setup.settings.maxQueuedRuns
          world.database.pendingRuns data ids world.database
      if data.fits setup.columns = true then
        some (some outcome.1, world.admitted outcome)
      else
        none
  | .decide loaded request =>
      match world.database.runOf loaded.id with
      | none => none
      | some row =>
          match
            ApprovalService.decide setup.sha256 loaded.result request 0 0
              (world.database.storeOf row) with
          | .error message => some (some (.error message), world)
          | .ok store =>
              if request.fits setup.columns = true then
                (store.approvals.find fun approval =>
                    approval.runPk = row.id).map fun approval =>
                  (some (.ok (approval, store.rewrite row)),
                    world.withStore loaded.id store)
              else
                none
  | .updateIncident pk .reject =>
      some
        ((),
          { world with
            incidentStatus :=
              Function.update world.incidentStatus pk
                .needsHumanIntervention })
  | .updateIncident _ .approve => some ((), world)
  | _ => none

/-- What is answered at once is a service of the database. -/
theorem serveApi_serves
    {setup : ApiSetup}
    {ids : AdmissionIds}
    {world served : ApiWorld}
    {asked : ApiQuery}
    {answer : ApiAnswer asked}
    (answered : serveApi setup ids world asked = some (answer, served)) :
    ServesApi setup.columns setup.sha256 setup.settings.maxQueuedRuns world
      asked answer served := by
  cases asked with
  | findIncident incidentId =>
      cases answered
      exact .findIncident world incidentId
  | getIncident pk =>
      cases answered
      exact .getIncident world pk
  | findRun runId =>
      cases answered
      exact .findRun world runId
  | createIncidentAndRun data =>
      simp only [serveApi, Option.ite_none_right_eq_some,
        Option.some.injEq, Prod.mk.injEq] at answered
      obtain ⟨stored, rfl, rfl⟩ := answered
      exact .createIncidentAndRun world data _ ids (.inl stored)
  | decide loaded request =>
      simp only [serveApi] at answered
      cases found : world.database.runOf loaded.id with
      | none =>
          simp [found] at answered
      | some row =>
          cases decided :
              ApprovalService.decide setup.sha256 loaded.result request 0 0
                (world.database.storeOf row) with
          | error message =>
              simp only [found, decided, Option.some.injEq,
                Prod.mk.injEq] at answered
              obtain ⟨rfl, rfl⟩ := answered
              exact .conflict found decided
          | ok store =>
              simp only [found, decided, Option.ite_none_right_eq_some,
                Option.map_eq_some_iff] at answered
              obtain ⟨stored, approval, inserted, same⟩ := answered
              cases same
              exact .decided found decided inserted stored
  | updateIncident pk decision =>
      cases decision with
      | approve =>
          cases answered
          exact .approved world pk
      | reject =>
          cases answered
          exact .rejected world pk
  | _ =>
      cases answered

/-- What a worker commits about a run, if it may. -/
def workerCommits
    (setup : ApiSetup)
    (write : String × Transaction)
    (world : ApiWorld) : Option ApiWorld :=
  match world.database.runOf write.1 with
  | none => none
  | some row =>
      if write.2.decides = true then
        none
      else
        (write.2.commitStore setup.sha256 setup.deployment
            (world.database.storeOf row)).map fun store =>
          world.withStore write.1 store

/-- What a worker commits is a transaction of a worker. -/
theorem workersWrite_of_workerCommits
    {setup : ApiSetup}
    {write : String × Transaction}
    {world after : ApiWorld}
    (commits : workerCommits setup write world = some after) :
    WorkersWrite setup.sha256 setup.deployment world after := by
  unfold workerCommits at commits
  cases found : world.database.runOf write.1 with
  | none =>
      simp [found] at commits
  | some row =>
      by_cases decides : write.2.decides = true
      · simp [found, decides] at commits
      · simp only [found, decides, Bool.false_eq_true, if_false,
          Option.map_eq_some_iff] at commits
        obtain ⟨store, committed, rfl⟩ := commits
        exact
          .transaction write.2 (Bool.eq_false_iff.mpr decides) found
            committed

/-- A server with one initiator and one approver. -/
def smallServer : ApiSetup where
  columns :=
    { storesJson := fun _ => true, uuidText := fun id => id.repr }
  sha256 := id
  deployment := .durable 2 60
  settings :=
    { apiTokens :=
        [("a", ⟨some "alice", some "initiator"⟩),
          ("b", ⟨some "bob", some "approver"⟩)]
      maxQueuedRuns := 1
      embeddedWorkerEnabled := false }

/-- Who carries the first token of the small server. -/
theorem smallServer_initiator
    {call : ApiCall}
    (header : call.authorization = some "Bearer a") :
    call.SpeaksFor smallServer.settings ⟨"alice", .initiator⟩ := by
  have identified :
      (authenticate smallServer.settings.apiTokens
          (some "Bearer a")).toOption =
        some ⟨"alice", .initiator⟩ := by
    decide +kernel
  unfold ApiCall.SpeaksFor
  rw [header]
  cases outcome :
      authenticate smallServer.settings.apiTokens (some "Bearer a") with
  | error error =>
      rw [outcome] at identified
      cases identified
  | ok principal =>
      rw [outcome] at identified
      cases identified
      rfl

/-- A control plane without rows. -/
def ApiWorld.empty : ApiWorld where
  database :=
    { incidents := .empty
      runs := .empty
      approvals := .empty
      patchArtifacts := .empty
      testRuns := .empty
      sideEffects := .empty }
  tables := .empty
  incidentStatus _ := .received
  received := []
  submitted := []

/-- A control plane without rows is one the API may begin with. -/
theorem ApiWorld.empty_initial : ApiWorld.empty.Initial where
  linked run member := absurd member (UniqueTable.not_mem_empty run)
  single run member := absurd member (UniqueTable.not_mem_empty run)
  legacy incident member :=
    absurd member (UniqueTable.not_mem_empty incident)
  undecided approval := UniqueTable.not_mem_empty approval
  unrejected _ := rfl
  unheard := rfl
  idle := rfl

/-- The calls and transactions up to a run that waits for approval. -/
def untilWaiting : List (Program.PoolMove ApiCall (String × Transaction)) :=
  let claim : ClaimedRun := ⟨"incident-1", "RUN-1", "worker", 1, false⟩
  let artifact : PatchArtifact :=
    ⟨1, "run-1", "base", "diff", "diff", some 2, true⟩
  let test : TestRun := ⟨2, "run-1", .passed, some 0, "diff", "base"⟩
  let waiting : StatusChange :=
    { status := .waitingApproval
      workflowState := some .waitForApproval
      result := some { testRunId := some 2, patchArtifactId := some 1 }
      utcnow := 0 }
  [.arrive 0
      { authorization := some "Bearer a"
        request :=
          .createIncident
            { title := "t", service := "checkout", symptom := "s" } },
    .serve 0, .finish 0,
    .other ("run-1", .claimNextRun "worker" 0),
    .other ("run-1", .fenced (some claim) 0 .markRunning),
    .other ("run-1", .fenced (some claim) 0 (.patchArtifact artifact)),
    .other ("run-1", .fenced (some claim) 0 (.investigation [test] none none (some 1))),
    .other ("run-1", .fenced (some claim) 0 (.markStatus .running waiting))]

/-- The approver decides, and the initiator looks at the run. -/
def thenDecided
    (decision : ApprovalDecision) :
    List (Program.PoolMove ApiCall (String × Transaction)) :=
  [.arrive 1
      { authorization := some "Bearer b"
        request := .submitApproval "RUN-1" { decision := decision } },
    .arrive 2
      { authorization := some "Bearer a", request := .getRun "RUN-1" },
    .serve 1, .serve 2, .serve 1, .serve 1, .serve 1, .serve 1, .finish 1,
    .serve 2, .finish 2]

/-- What some moves lead to on the small server. -/
def ApiPool.moved
    (pool : ApiPool)
    (moves : List (Program.PoolMove ApiCall (String × Transaction))) :
    Option ApiPool :=
  moves.foldlM
    (Program.Pool.act smallServer.service
      (serveApi smallServer ⟨"incident-1", "INC-1", "run-1", "RUN-1", 0⟩)
      (workerCommits smallServer))
    pool

/-- Moves are a path of the small server. -/
theorem ApiPool.leads_of_moved
    {moves : List (Program.PoolMove ApiCall (String × Transaction))}
    {pool later : ApiPool}
    (moved : ApiPool.moved pool moves = some later) :
    smallServer.api.Leads pool later := by
  refine Program.Pool.leads_of_acts ?_ ?_ moved
  · intro world request answer served answered
    exact serveApi_serves answered
  · intro write world after commits
    exact workersWrite_of_workerCommits commits

/-- The small server gets to where moves lead. -/
theorem ApiPool.reached_of_moved
    {moves : List (Program.PoolMove ApiCall (String × Transaction))}
    {pool : ApiPool}
    (moved : ApiPool.moved (.idle ApiWorld.empty) moves = some pool) :
    smallServer.api.Reachable pool := by
  have begins : smallServer.api.Reachable (.idle ApiWorld.empty) :=
    .initial ⟨_, ApiWorld.empty_initial, rfl⟩
  exact begins.leads (ApiPool.leads_of_moved moved)

/-- The incident a call was answered with, once accepted. -/
def acceptedIncident :
    ApiCall × Program.Outcome ApiError ApiResponse → Option String
  | (_, .returned (.accepted incidentId _ _ _)) => some incidentId
  | _ => none

/-- An ending that names an accepted incident is such an answer. -/
theorem acceptedIncident_eq_some
    {ending : ApiCall × Program.Outcome ApiError ApiResponse}
    {incidentId : String}
    (accepted : acceptedIncident ending = some incidentId) :
    ∃ runId status workflowState,
      ending.2 =
        .returned (.accepted incidentId runId status workflowState) := by
  unfold acceptedIncident at accepted
  split at accepted
  · cases accepted
    exact ⟨_, _, _, rfl⟩
  · cases accepted

/-- The status code a call was refused with. -/
def refusedWith :
    ApiCall × Program.Outcome ApiError ApiResponse → Option Nat
  | (_, .raised (.http error)) => some error.statusCode
  | _ => none

/-- An ending with a status code is a refusal. -/
theorem refusedWith_eq_some
    {ending : ApiCall × Program.Outcome ApiError ApiResponse}
    {statusCode : Nat}
    (refused : refusedWith ending = some statusCode) :
    ∃ error,
      ending.2 = .raised (.http error) ∧
        error.statusCode = statusCode := by
  unfold refusedWith at refused
  split at refused
  · cases refused
    exact ⟨_, rfl, rfl⟩
  · cases refused

/-- The server was provisioned with the credential a call carries. -/
theorem ApiCall.SpeaksFor.credential
    {settings : ApiSettings}
    {call : ApiCall}
    {principal : Principal}
    (speaks : call.SpeaksFor settings principal) :
    ∃ scheme token,
      call.authorization = some (scheme ++ " " ++ token) ∧
        scheme.toLower = "bearer" ∧
        settings.apiTokens.Provision token principal :=
  authenticate_eq_ok speaks

/--
Every approval is the work of an approver or an administrator: a call that came
in with a credential provisioned for them asked for it, about a run whose
incident lets them at it, and the actor is whom the credential is for, whatever
the body says.
-/
theorem every_approval_authorised
    {setup : ApiSetup}
    {pool : ApiPool}
    (reached : setup.api.Reachable pool)
    {approval : Approval}
    (member : approval ∈ pool.world.database.approvals) :
    ∃ call principal runId body scheme token,
      call ∈ pool.world.received ∧
        call.authorization = some (scheme ++ " " ++ token) ∧
        scheme.toLower = "bearer" ∧
        setup.settings.apiTokens.Provision token principal ∧
        (principal.role = .approver ∨ principal.role = .admin) ∧
        call.request = .submitApproval runId body ∧
        pool.world.Opens principal approval.runPk runId ∧
        approval.actor = principal.subject ∧
        approval.decision = body.decision ∧
        approval.reason = body.reason := by
  have sound := ApiSetup.sound_of_reachable reached
  obtain ⟨call, principal, runId, body, heard, speaks, role, asked, isOpen,
    actor, decision, reason⟩ := sound.stands.authorised approval member
  obtain ⟨scheme, token, header, bearer, provision⟩ := speaks.credential
  exact
    ⟨call, principal, runId, body, scheme, token, heard, header, bearer,
      provision, role, asked, isOpen, actor, decision, reason⟩

/-- The approval on the small server is the approver's. -/
theorem every_approval_authorised_small :
    ∃ (pool : ApiPool) (approval : Approval) (principal : Principal),
      smallServer.api.Reachable pool ∧
        approval ∈ pool.world.database.approvals ∧
        (principal.role = .approver ∨ principal.role = .admin) ∧
        approval.actor = principal.subject := by
  have decided :
      (ApiPool.moved (.idle ApiWorld.empty)
            (untilWaiting ++ thenDecided .approve)).any
          (fun pool =>
            (pool.world.database.approvals.find fun _ => true).isSome) =
        true := by
    decide +kernel
  obtain ⟨pool, moved, holds⟩ := (Option.any_eq_true _ _).mp decided
  obtain ⟨approval, found⟩ := Option.isSome_iff_exists.mp holds
  have reached := ApiPool.reached_of_moved moved
  have member := (UniqueTable.find_some found).1
  obtain ⟨call, principal, runId, body, scheme, token, heard, header,
    bearer, provision, role, asked, isOpen, actor, rest⟩ :=
    every_approval_authorised reached member
  exact ⟨pool, approval, principal, reached, member, role, actor⟩

/-- A run belongs to one incident. -/
theorem ApiWorld.RunOf.unique
    {world : ApiWorld}
    {runPk firstRunId secondRunId : String}
    {first second : Incident}
    (left : world.RunOf runPk firstRunId first)
    (right : world.RunOf runPk secondRunId second) :
    first = second := by
  obtain ⟨⟨run, inRuns, named, -, samePk⟩, firstMember⟩ := left
  obtain ⟨⟨other, otherInRuns, otherNamed, -, otherPk⟩, secondMember⟩ :=
    right
  have sameRun : run = other :=
    Database.run_eq_of_id inRuns otherInRuns
      (named.trans otherNamed.symm)
  subst sameRun
  have sameIncident : first.id = second.id := samePk.symm.trans otherPk
  refine UniqueTable.eq_of_conflict ?_ firstMember secondMember ?_
  · intro left right
    simp [Incident.conflicts, eq_comm]
  · simp [Incident.conflicts, sameIncident]

/-- The incidents whose data a response shows. -/
def ApiResponse.About
    (world : ApiWorld)
    (incident : Incident) : ApiResponse → Prop
  | .accepted incidentId _ _ _ =>
      incident ∈ world.database.incidents ∧
        incident.incidentId = incidentId
  | .incident shown _ => incident = shown
  | .run shown _ => ∃ runId, world.RunOf shown.id runId incident
  | .evidence rows =>
      ∃ row ∈ rows, ∃ runId, world.RunOf row.runPk runId incident
  | .toolCalls rows =>
      ∃ row ∈ rows, ∃ runId, world.RunOf row.runPk runId incident
  | .patchArtifacts rows =>
      ∃ row ∈ rows, ∃ runId, world.RunOf row.runPk runId incident
  | .tests rows =>
      ∃ row ∈ rows, ∃ runId, world.RunOf row.runPk runId incident
  | .approval found =>
      ∃ row, found = some row ∧
        ∃ runId, world.RunOf row.runPk runId incident

/-- What is open to a principal is about incidents they may access. -/
theorem ApiWorld.Opens.access
    {world : ApiWorld}
    {principal : Principal}
    {runPk runId otherRunId : String}
    {incident : Incident}
    (isOpen : world.Opens principal runPk runId)
    (belongs : world.RunOf runPk otherRunId incident) :
    principal.MayAccess incident.ownerId := by
  obtain ⟨found, ofRun, access⟩ := isOpen
  rw [← ofRun.unique belongs]
  exact access

/-- An answer is about incidents its principal may access, and no others. -/
theorem ApiRequest.Answered.access
    {world : ApiWorld}
    {principal : Principal}
    {request : ApiRequest}
    {response : ApiResponse}
    {incident : Incident}
    (answered : request.Answered principal world response)
    (about : response.About world incident) :
    principal.MayAccess incident.ownerId := by
  cases request <;> cases response <;>
    try exact absurd answered id
  case createIncident.accepted =>
    obtain ⟨runPk, created, belongs, named, owned⟩ := answered
    obtain ⟨member, alsoNamed⟩ := about
    have same : created = incident := by
      refine
        UniqueTable.eq_of_conflict ?_ belongs.incident member ?_
      · intro left right
        simp [Incident.conflicts, eq_comm]
      · simp [Incident.conflicts, named, alsoNamed]
    subst same
    exact .inr ⟨principal.subject, owned, fun _ => rfl⟩
  case getIncident.incident =>
    obtain ⟨member, named, access⟩ := answered
    cases about
    exact access
  case getRun.run =>
    obtain ⟨named, found, belongs, -, access⟩ := answered
    obtain ⟨runId, ofRun⟩ := about
    exact ApiWorld.Opens.access ⟨found, belongs, access⟩ ofRun
  case listEvidence.evidence =>
    obtain ⟨runPk, isOpen, rows⟩ := answered
    obtain ⟨row, member, runId, ofRun⟩ := about
    exact isOpen.access ((rows row member).2 ▸ ofRun)
  case listToolCalls.toolCalls =>
    obtain ⟨runPk, isOpen, rows⟩ := answered
    obtain ⟨row, member, runId, ofRun⟩ := about
    exact isOpen.access ((rows row member).2 ▸ ofRun)
  case listPatchArtifacts.patchArtifacts =>
    obtain ⟨runPk, isOpen, rows⟩ := answered
    obtain ⟨row, member, runId, ofRun⟩ := about
    exact isOpen.access ((rows row member).2 ▸ ofRun)
  case listTests.tests =>
    obtain ⟨runPk, isOpen, rows⟩ := answered
    obtain ⟨row, member, runId, ofRun⟩ := about
    exact isOpen.access ((rows row member).2 ▸ ofRun)
  case getApproval.approval =>
    obtain ⟨runPk, isOpen, rows⟩ := answered
    obtain ⟨row, found, runId, ofRun⟩ := about
    exact isOpen.access ((rows row found).2 ▸ ofRun)
  case submitApproval.approval runId body approval =>
    cases approval with
    | none =>
        exact absurd answered id
    | some approval =>
        obtain ⟨row, found, otherRunId, ofRun⟩ := about
        cases found
        exact answered.1.access ofRun

/-- A call speaks for one principal. -/
theorem ApiCall.SpeaksFor.unique
    {settings : ApiSettings}
    {call : ApiCall}
    {first second : Principal}
    (left : call.SpeaksFor settings first)
    (right : call.SpeaksFor settings second) :
    first = second := by
  unfold ApiCall.SpeaksFor at left right
  rw [left] at right
  cases right
  rfl

/--
Whatever an initiator has been answered is about incidents of their own: the
incident itself, its run, and the evidence, tool calls, artifacts, tests and
approval of that run.
-/
theorem initiator_sees_own
    {setup : ApiSetup}
    {pool : ApiPool}
    (reached : setup.api.Reachable pool)
    {call : ApiCall}
    {principal : Principal}
    {response : ApiResponse}
    {incident : Incident}
    (answered : (call, .returned response) ∈ pool.ended)
    (speaks : call.SpeaksFor setup.settings principal)
    (initiates : principal.role = .initiator)
    (about : response.About pool.world incident) :
    incident.ownerId = some principal.subject := by
  have sound := ApiSetup.sound_of_reachable reached
  obtain ⟨other, speaksToo, answer⟩ := (sound.ended _ answered).2
  have same : other = principal := speaksToo.unique speaks
  subst same
  exact
    (Principal.mayAccess_initiator initiates).mp (answer.access about)

/-- The initiator of the small server was answered about their incident. -/
theorem initiator_sees_own_small :
    ∃ (pool : ApiPool) (incident : Incident),
      smallServer.api.Reachable pool ∧
        incident ∈ pool.world.database.incidents ∧
        incident.ownerId = some "alice" := by
  have accepted :
      (ApiPool.moved (.idle ApiWorld.empty) untilWaiting).any
          (fun pool =>
            (pool.ended.any fun ending =>
                decide (acceptedIncident ending = some "INC-1") &&
                  decide (ending.1.authorization = some "Bearer a")) &&
              (pool.world.database.incidents.find fun incident =>
                incident.incidentId = "INC-1").isSome) =
        true := by
    decide +kernel
  obtain ⟨pool, moved, holds⟩ := (Option.any_eq_true _ _).mp accepted
  obtain ⟨answered, known⟩ := Bool.and_eq_true_iff.mp holds
  obtain ⟨⟨call, outcome⟩, member, shown⟩ := List.any_eq_true.mp answered
  obtain ⟨named, header⟩ := Bool.and_eq_true_iff.mp shown
  obtain ⟨runId, status, workflowState, rfl⟩ :=
    acceptedIncident_eq_some (of_decide_eq_true named)
  obtain ⟨incident, found⟩ := Option.isSome_iff_exists.mp known
  obtain ⟨inTable, isNamed⟩ := UniqueTable.find_some found
  have reached := ApiPool.reached_of_moved moved
  have speaks := smallServer_initiator (of_decide_eq_true header)
  exact
    ⟨pool, incident, reached, inTable,
      initiator_sees_own reached member speaks rfl
        ⟨inTable, of_decide_eq_true isNamed⟩⟩

/--
Who may access a run never changes: not by what the workers write, nor by what
any call does, so that a route which has checked may still do what it checked.
-/
theorem access_never_changes
    {setup : ApiSetup}
    {pool later : ApiPool}
    (reached : setup.api.Reachable pool)
    (leads : setup.api.Leads pool later)
    {run : AgentRun}
    (member : run ∈ pool.world.database.runs)
    (principal : Principal) :
    later.world.Opens principal run.id run.runId ↔
      pool.world.Opens principal run.id run.runId := by
  have sound := ApiSetup.sound_of_reachable reached
  have grows : pool.world.Grows later.world :=
    (sound.leads setup.cooperates leads).2
  obtain ⟨incident, inTable, named⟩ := sound.stands.linked run member
  have belongs : pool.world.RunOf run.id run.runId incident :=
    ⟨⟨run, member, rfl, rfl, named.symm⟩, inTable⟩
  constructor
  · intro isOpen
    exact ⟨incident, belongs, isOpen.access (grows.runOf belongs)⟩
  · intro isOpen
    exact grows.opens isOpen

/-- Between being created and being decided, access to a run stays. -/
theorem access_never_changes_small :
    ∃ (pool later : ApiPool) (run : AgentRun),
      smallServer.api.Reachable pool ∧
        smallServer.api.Leads pool later ∧
        run ∈ pool.world.database.runs ∧
        ∀ principal,
          later.world.Opens principal run.id run.runId ↔
            pool.world.Opens principal run.id run.runId := by
  have moves :
      (ApiPool.moved (.idle ApiWorld.empty) untilWaiting).any
          (fun pool =>
            (ApiPool.moved pool (thenDecided .approve)).isSome &&
              (pool.world.database.runs.find fun _ => true).isSome) =
        true := by
    decide +kernel
  obtain ⟨pool, moved, holds⟩ := (Option.any_eq_true _ _).mp moves
  obtain ⟨goesOn, known⟩ := Bool.and_eq_true_iff.mp holds
  obtain ⟨later, movedOn⟩ := Option.isSome_iff_exists.mp goesOn
  obtain ⟨run, found⟩ := Option.isSome_iff_exists.mp known
  have reached := ApiPool.reached_of_moved moved
  have leads := ApiPool.leads_of_moved movedOn
  have member := (UniqueTable.find_some found).1
  exact
    ⟨pool, later, run, reached, leads, member,
      access_never_changes reached leads member⟩

/--
No call fails otherwise than with a status code of its own route, except that two
calls which race for one identifier of an incident may fail with an
`IntegrityError`, and a call with a value that no column holds with a
`StatementError`; in particular no route finds a run without its incident.
-/
theorem every_failure_expected
    {setup : ApiSetup}
    {pool : ApiPool}
    (reached : setup.api.Reachable pool)
    {call : ApiCall}
    {error : ApiError}
    (failed : (call, .raised error) ∈ pool.ended) :
    call.MayFail setup error :=
  ((ApiSetup.sound_of_reachable reached).ended _ failed).2

/-- The approver of the small server may not create an incident. -/
theorem every_failure_expected_small :
    ∃ (pool : ApiPool) (call : ApiCall) (error : HttpError),
      smallServer.api.Reachable pool ∧
        (call, .raised (.http error)) ∈ pool.ended ∧
        error.statusCode = 403 ∧
        call.MayFail smallServer (.http error) := by
  have refused :
      (ApiPool.moved (.idle ApiWorld.empty)
            [.arrive 0
                { authorization := some "Bearer b"
                  request :=
                    .createIncident
                      { title := "t", service := "s", symptom := "s" } },
              .finish 0]).any
          (fun pool =>
            pool.ended.any fun ending =>
              decide (refusedWith ending = some 403)) =
        true := by
    decide +kernel
  obtain ⟨pool, moved, holds⟩ := (Option.any_eq_true _ _).mp refused
  obtain ⟨⟨call, outcome⟩, member, shown⟩ := List.any_eq_true.mp holds
  obtain ⟨error, rfl, forbidden⟩ :=
    refusedWith_eq_some (of_decide_eq_true shown)
  have reached := ApiPool.reached_of_moved moved
  exact
    ⟨pool, call, error, reached, member, forbidden,
      every_failure_expected reached member⟩

/--
An incident has the owner it was created for: a call with a credential
provisioned for them, as an initiator or an administrator, asked for it, and
everything it says comes from that call.
-/
theorem owner_created_incident
    {setup : ApiSetup}
    {pool : ApiPool}
    (reached : setup.api.Reachable pool)
    {incident : Incident}
    {owner : String}
    (member : incident ∈ pool.world.database.incidents)
    (owned : incident.ownerId = some owner) :
    ∃ call principal body ids scheme token,
      call ∈ pool.world.received ∧
        call.authorization = some (scheme ++ " " ++ token) ∧
        scheme.toLower = "bearer" ∧
        setup.settings.apiTokens.Provision token principal ∧
        principal.subject = owner ∧
        (principal.role = .initiator ∨ principal.role = .admin) ∧
        call.request = .createIncident body ∧
        incident = (body.data principal).incident ids := by
  have sound := ApiSetup.sound_of_reachable reached
  rcases sound.stands.owned incident member with legacy | created
  · rw [legacy] at owned
    cases owned
  · obtain ⟨call, principal, body, ids, heard, speaks, role, asked, rfl⟩ :=
      created
    obtain ⟨scheme, token, header, bearer, provision⟩ := speaks.credential
    have named : principal.subject = owner := Option.some.inj owned
    exact
      ⟨call, principal, body, ids, scheme, token, heard, header, bearer,
        provision, named, role, asked, rfl⟩

/-- The incident of the small server was created by its initiator. -/
theorem owner_created_incident_small :
    ∃ (pool : ApiPool) (incident : Incident) (call : ApiCall),
      smallServer.api.Reachable pool ∧
        incident ∈ pool.world.database.incidents ∧
        incident.ownerId = some "alice" ∧
        call ∈ pool.world.received := by
  have created :
      (ApiPool.moved (.idle ApiWorld.empty) untilWaiting).any
          (fun pool =>
            (pool.world.database.incidents.find fun incident =>
              incident.ownerId = some "alice").isSome) =
        true := by
    decide +kernel
  obtain ⟨pool, moved, holds⟩ := (Option.any_eq_true _ _).mp created
  obtain ⟨incident, found⟩ := Option.isSome_iff_exists.mp holds
  obtain ⟨member, owned⟩ := UniqueTable.find_some found
  have reached := ApiPool.reached_of_moved moved
  have hasOwner : incident.ownerId = some "alice" :=
    of_decide_eq_true owned
  obtain ⟨call, principal, body, ids, scheme, token, heard, rest⟩ :=
    owner_created_incident reached member hasOwner
  exact ⟨pool, incident, call, reached, member, hasOwner, heard⟩

/-- An incident has one run. -/
theorem ApiWorld.RunOf.sameRun
    {settings : ApiSettings}
    {world : ApiWorld}
    {firstPk firstRunId secondPk secondRunId : String}
    {incident : Incident}
    (sound : world.Sound settings)
    (left : world.RunOf firstPk firstRunId incident)
    (right : world.RunOf secondPk secondRunId incident) :
    firstPk = secondPk ∧ firstRunId = secondRunId := by
  obtain ⟨⟨run, inRuns, rfl, rfl, ofIncident⟩, -⟩ := left
  obtain ⟨⟨other, otherInRuns, rfl, rfl, alsoOfIncident⟩, -⟩ := right
  have sameId : run.id = other.id :=
    sound.single run inRuns other otherInRuns
      (ofIncident.trans alsoOfIncident.symm)
  have same : run = other :=
    Database.run_eq_of_id inRuns otherInRuns sameId
  exact ⟨congrArg AgentRun.id same, congrArg AgentRun.runId same⟩

/-- A run named by its identifier belongs to one incident. -/
theorem ApiWorld.RunOf.sameIncident
    {world : ApiWorld}
    {firstPk secondPk runId : String}
    {first second : Incident}
    (left : world.RunOf firstPk runId first)
    (right : world.RunOf secondPk runId second) :
    first = second := by
  obtain ⟨⟨run, inRuns, rfl, named, ofFirst⟩, firstMember⟩ := left
  obtain ⟨⟨other, otherInRuns, rfl, alsoNamed, ofSecond⟩, secondMember⟩ :=
    right
  have same : run = other := by
    refine UniqueTable.eq_of_conflict ?_ inRuns otherInRuns ?_
    · intro left right
      simp [AgentRun.conflicts, eq_comm]
    · simp [AgentRun.conflicts, named, alsoNamed]
  subst same
  exact
    ApiWorld.RunOf.unique
      ⟨⟨run, inRuns, rfl, named, ofFirst⟩, firstMember⟩
      ⟨⟨run, inRuns, rfl, named, ofSecond⟩, secondMember⟩

/--
An incident that is flagged for a human was rejected for good: the one decision
about its run is a rejection, and the embedded executor is not asked to resume
that run.
-/
theorem rejection_is_final
    {setup : ApiSetup}
    {pool : ApiPool}
    (reached : setup.api.Reachable pool)
    {incident : Incident}
    {runPk runId : String}
    (belongs : pool.world.RunOf runPk runId incident)
    (flagged :
      pool.world.incidentStatus incident.id = .needsHumanIntervention) :
    (∃ approval, approval ∈ pool.world.database.approvals ∧
        approval.runPk = runPk) ∧
      (∀ approval, approval ∈ pool.world.database.approvals →
        approval.runPk = runPk → approval.decision = .reject) ∧
      ∀ decision, .resume runId decision ∉ pool.world.submitted := by
  have sound := (ApiSetup.sound_of_reachable reached).stands
  obtain ⟨rejectedRunId, approval, found, member, rejects, ofRun, named⟩ :=
    sound.rejected incident.id flagged
  have same : found = incident := by
    refine UniqueTable.eq_of_conflict ?_ ofRun.incident belongs.incident ?_
    · intro left right
      simp [Incident.conflicts, eq_comm]
    · simp [Incident.conflicts, named]
  subst same
  have samePk : approval.runPk = runPk := (ofRun.sameRun sound belongs).1
  have only :
      ∀ other, other ∈ pool.world.database.approvals →
        other.runPk = runPk → other.decision = .reject := by
    intro other otherMember otherPk
    have one : other = approval := by
      refine UniqueTable.eq_of_conflict ?_ otherMember member ?_
      · intro left right
        simp [Approval.conflicts, eq_comm]
      · exact decide_eq_true (otherPk.trans samePk.symm)
    rw [one]
    exact rejects
  refine ⟨⟨approval, member, samePk⟩, only, ?_⟩
  intro decision resumed
  obtain ⟨-, -, pk, other, otherIncident, otherMember, approves, otherOf,
    -⟩ := sound.submitted _ resumed
  have sameIncident : otherIncident = found := otherOf.sameIncident belongs
  subst sameIncident
  have otherPk : other.runPk = runPk := (otherOf.sameRun sound belongs).1
  rw [only other otherMember otherPk] at approves
  cases approves

/-- The run of the small server, rejected, is not resumed. -/
theorem rejection_is_final_small :
    ∃ pool : ApiPool,
      smallServer.api.Reachable pool ∧
        pool.world.incidentStatus "incident-1" = .needsHumanIntervention ∧
        (∃ approval, approval ∈ pool.world.database.approvals ∧
          approval.runPk = "run-1") ∧
        (∀ approval, approval ∈ pool.world.database.approvals →
          approval.runPk = "run-1" → approval.decision = .reject) ∧
        ∀ decision, .resume "RUN-1" decision ∉ pool.world.submitted := by
  have rejected :
      (ApiPool.moved (.idle ApiWorld.empty)
            (untilWaiting ++ thenDecided .reject)).any
          (fun pool =>
            decide
                (pool.world.incidentStatus "incident-1" =
                  .needsHumanIntervention) &&
              (pool.world.database.runs.find fun run =>
                decide (run.id = "run-1") && decide (run.runId = "RUN-1") &&
                  decide (run.incidentPk = "incident-1")).isSome &&
              (pool.world.database.incidents.find fun incident =>
                incident.id = "incident-1").isSome) =
        true := by
    decide +kernel
  obtain ⟨pool, moved, holds⟩ := (Option.any_eq_true _ _).mp rejected
  simp only [Bool.and_eq_true, decide_eq_true_eq,
    Option.isSome_iff_exists] at holds
  obtain ⟨⟨flagged, run, foundRun⟩, incident, foundIncident⟩ := holds
  obtain ⟨inRuns, keys⟩ := UniqueTable.find_some foundRun
  obtain ⟨inTable, named⟩ := UniqueTable.find_some foundIncident
  simp only [Bool.and_eq_true, decide_eq_true_eq] at keys named
  obtain ⟨⟨runPk, runId⟩, ofIncident⟩ := keys
  have belongs : pool.world.RunOf "run-1" "RUN-1" incident :=
    ⟨⟨run, inRuns, runPk, runId, ofIncident.trans named.symm⟩, inTable⟩
  have reached := ApiPool.reached_of_moved moved
  have final :=
    rejection_is_final reached belongs (named.symm ▸ flagged)
  exact ⟨pool, reached, flagged, final⟩

end IncidentPilot
