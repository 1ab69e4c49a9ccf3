import IncidentPilot.ApiGrowth

/-!
# Who may read and who may decide

What holds of the control plane whatever the callers of the API ask, in any
order, while the workers go on: who created an incident, whose decision an
approval is, what a caller is shown, and how a call can fail.
-/

namespace IncidentPilot

/-- The call carries a credential of the principal. -/
def ApiCall.SpeaksFor
    (settings : ApiSettings)
    (call : ApiCall)
    (principal : Principal) : Prop :=
  authenticate settings.apiTokens call.authorization = .ok principal

namespace ApiWorld

/-- A run with these identifiers belongs to the incident. -/
structure RunOf
    (world : ApiWorld)
    (runPk runId : String)
    (incident : Incident) : Prop where
  run :
    ∃ run,
      run ∈ world.database.runs ∧
        run.id = runPk ∧
        run.runId = runId ∧
        run.incidentPk = incident.id
  incident : incident ∈ world.database.incidents

/-- The incident of a run lets the principal at it. -/
def Opens
    (world : ApiWorld)
    (principal : Principal)
    (runPk runId : String) : Prop :=
  ∃ incident,
    world.RunOf runPk runId incident ∧
      principal.MayAccess incident.ownerId

/-- An incident as a call of an initiator or an administrator created it. -/
def Created
    (settings : ApiSettings)
    (world : ApiWorld)
    (incident : Incident) : Prop :=
  ∃ call principal body ids,
    call ∈ world.received ∧
      call.SpeaksFor settings principal ∧
      (principal.role = .initiator ∨ principal.role = .admin) ∧
      call.request = .createIncident body ∧
      incident = (body.data principal).incident ids

/--
An approval as a call of an approver or an administrator made it, about a run
whose incident lets them at it.
-/
def Authorised
    (settings : ApiSettings)
    (world : ApiWorld)
    (approval : Approval) : Prop :=
  ∃ call principal runId body,
    call ∈ world.received ∧
      call.SpeaksFor settings principal ∧
      (principal.role = .approver ∨ principal.role = .admin) ∧
      call.request = .submitApproval runId body ∧
      world.Opens principal approval.runPk runId ∧
      approval.actor = principal.subject ∧
      approval.decision = body.decision ∧
      approval.reason = body.reason

/-- A decision was committed about a run of the incident with this key. -/
def Decided
    (world : ApiWorld)
    (decision : ApprovalDecision)
    (runId incidentPk : String) : Prop :=
  ∃ approval incident,
    approval ∈ world.database.approvals ∧
      approval.decision = decision ∧
      world.RunOf approval.runPk runId incident ∧
      incident.id = incidentPk

/-- What the embedded executor may have been asked to do. -/
def Justifies
    (settings : ApiSettings)
    (world : ApiWorld) : Submission → Prop
  | .run incidentPk runId =>
      settings.embeddedWorkerEnabled = true ∧
        ∃ runPk incident,
          world.RunOf runPk runId incident ∧ incident.id = incidentPk
  | .resume runId decision =>
      settings.embeddedWorkerEnabled = true ∧
        decision = .approve ∧
        ∃ pk, world.Decided .approve runId pk

/-- What holds of the control plane at any time. -/
structure Sound (settings : ApiSettings) (world : ApiWorld) : Prop where
  linked :
    ∀ run, run ∈ world.database.runs →
      ∃ incident,
        incident ∈ world.database.incidents ∧
          incident.id = run.incidentPk
  single :
    ∀ first, first ∈ world.database.runs →
      ∀ second, second ∈ world.database.runs →
        first.incidentPk = second.incidentPk → first.id = second.id
  owned :
    ∀ incident, incident ∈ world.database.incidents →
      incident.ownerId = none ∨ world.Created settings incident
  authorised :
    ∀ approval, approval ∈ world.database.approvals →
      world.Authorised settings approval
  rejected :
    ∀ pk, world.incidentStatus pk = .needsHumanIntervention →
      ∃ runId, world.Decided .reject runId pk
  submitted :
    ∀ submission ∈ world.submitted,
      world.Justifies settings submission

end ApiWorld

namespace ApiWorld.Grows

variable {settings : ApiSettings} {before after : ApiWorld}

/-- A run of an incident stays one. -/
theorem runOf
    {runPk runId : String}
    {incident : Incident}
    (grows : before.Grows after)
    (belongs : before.RunOf runPk runId incident) :
    after.RunOf runPk runId incident := by
  obtain ⟨⟨run, member, rfl, rfl, samePk⟩, inTable⟩ := belongs
  obtain ⟨later, laterMember, laterId, laterRunId, laterPk⟩ :=
    grows.runs run member
  exact
    ⟨⟨later, laterMember, laterId, laterRunId, laterPk.trans samePk⟩,
      grows.incidents incident inTable⟩

/-- A run that is open to a principal stays so. -/
theorem opens
    {principal : Principal}
    {runPk runId : String}
    (grows : before.Grows after)
    (isOpen : before.Opens principal runPk runId) :
    after.Opens principal runPk runId := by
  obtain ⟨incident, belongs, access⟩ := isOpen
  exact ⟨incident, grows.runOf belongs, access⟩

/-- A created incident stays created. -/
theorem created
    {incident : Incident}
    (grows : before.Grows after)
    (created : before.Created settings incident) :
    after.Created settings incident := by
  obtain ⟨call, principal, body, ids, heard, rest⟩ := created
  exact ⟨call, principal, body, ids, grows.received call heard, rest⟩

/-- An authorised approval stays authorised. -/
theorem authorised
    {approval : Approval}
    (grows : before.Grows after)
    (authorised : before.Authorised settings approval) :
    after.Authorised settings approval := by
  obtain ⟨call, principal, runId, body, heard, speaks, role, asked, isOpen,
    rest⟩ := authorised
  exact
    ⟨call, principal, runId, body, grows.received call heard, speaks,
      role, asked, grows.opens isOpen, rest⟩

/-- A committed decision stays committed. -/
theorem decided
    {decision : ApprovalDecision}
    {runId incidentPk : String}
    (grows : before.Grows after)
    (decided : before.Decided decision runId incidentPk) :
    after.Decided decision runId incidentPk := by
  obtain ⟨approval, incident, member, same, belongs, named⟩ := decided
  exact
    ⟨approval, incident, grows.approvals approval member, same,
      grows.runOf belongs, named⟩

/-- What was submitted stays justified. -/
theorem justifies
    {submission : Submission}
    (grows : before.Grows after)
    (justified : before.Justifies settings submission) :
    after.Justifies settings submission := by
  cases submission with
  | run incidentPk runId =>
      obtain ⟨embedded, runPk, incident, belongs, named⟩ := justified
      exact ⟨embedded, runPk, incident, grows.runOf belongs, named⟩
  | resume runId decision =>
      obtain ⟨embedded, approves, pk, decided⟩ := justified
      exact ⟨embedded, approves, pk, grows.decided decided⟩

end ApiWorld.Grows

namespace ApiWorld

variable {settings : ApiSettings}

/-- A sound world stays sound where rows are only rewritten or decided on. -/
theorem Sound.grown
    {before after : ApiWorld}
    (sound : before.Sound settings)
    (grows : before.Grows after)
    (incidents :
      ∀ incident, incident ∈ after.database.incidents →
        incident ∈ before.database.incidents)
    (runs : RunsKept after.database.runs before.database.runs)
    (approvals :
      ∀ approval, approval ∈ after.database.approvals →
        approval ∈ before.database.approvals ∨
          after.Authorised settings approval)
    (statuses :
      ∀ pk, after.incidentStatus pk = .needsHumanIntervention →
        before.incidentStatus pk = .needsHumanIntervention ∨
          ∃ runId, after.Decided .reject runId pk)
    (submissions :
      ∀ submission ∈ after.submitted,
        submission ∈ before.submitted ∨
          after.Justifies settings submission) :
    after.Sound settings where
  linked := by
    intro run member
    obtain ⟨old, inBefore, -, -, samePk⟩ := runs run member
    obtain ⟨incident, inTable, named⟩ := sound.linked old inBefore
    exact
      ⟨incident, grows.incidents incident inTable, named.trans samePk⟩
  single := by
    intro first firstMember second secondMember same
    obtain ⟨oldFirst, inFirst, firstId, -, firstPk⟩ :=
      runs first firstMember
    obtain ⟨oldSecond, inSecond, secondId, -, secondPk⟩ :=
      runs second secondMember
    have samePk : oldFirst.incidentPk = oldSecond.incidentPk :=
      (firstPk.trans same).trans secondPk.symm
    calc
      first.id = oldFirst.id := firstId.symm
      _ = oldSecond.id := sound.single oldFirst inFirst oldSecond inSecond samePk
      _ = second.id := secondId
  owned := by
    intro incident member
    rcases sound.owned incident (incidents incident member) with
      legacy | created
    · exact .inl legacy
    · exact .inr (grows.created created)
  authorised := by
    intro approval member
    rcases approvals approval member with inBefore | authorised
    · exact grows.authorised (sound.authorised approval inBefore)
    · exact authorised
  rejected := by
    intro pk rejected
    rcases statuses pk rejected with already | decided
    · obtain ⟨runId, decided⟩ := sound.rejected pk already
      exact ⟨runId, grows.decided decided⟩
    · exact decided
  submitted := by
    intro submission member
    rcases submissions submission member with already | justified
    · exact grows.justifies (sound.submitted submission already)
    · exact justified

/-- The runs a transaction leaves were there before, with their incidents. -/
theorem runsKept_withStore
    {world : ApiWorld}
    {runPk : String}
    {row : AgentRun}
    {store : Store}
    (found : world.database.runOf runPk = some row)
    (sameIncident : store.run.incidentPk = row.incidentPk) :
    RunsKept (world.withStore runPk store).database.runs
      world.database.runs := by
  intro run member
  rcases (Database.mem_withStore_runs found).mp member with
    rfl | ⟨inTable, other⟩
  · exact
      ⟨row, (Database.runOf_eq_some found).1, rfl, rfl,
        sameIncident.symm⟩
  · exact ⟨run, inTable, rfl, rfl, rfl⟩

/-- The workers keep the control plane sound. -/
theorem Sound.workersWrite
    {sha256 : String → String}
    {deployment : Deployment}
    {before after : ApiWorld}
    (sound : before.Sound settings)
    (writes : WorkersWrite sha256 deployment before after) :
    after.Sound settings := by
  have grows := writes.grows
  cases writes with
  | @transaction runPk row store transaction undecided found committed =>
      refine
        sound.grown grows (fun incident member => member)
          (runsKept_withStore found
            (Transaction.commitStore_incidentPk committed))
          ?_ (fun pk rejected => .inl rejected)
          (fun submission member => .inl member)
      intro approval member
      rcases Transaction.commitStore_approvals committed with
        same | ⟨loadedResult, request, updatedAt, decidedAt, rfl⟩
      · change approval ∈ store.approvals at member
        rw [same] at member
        exact .inl member
      · cases undecided
  | persist found persisted =>
      exact
        sound.grown grows (fun incident member => member) (.refl _)
          (fun approval member => .inl member)
          (fun pk rejected => .inl rejected)
          (fun submission member => .inl member)

end ApiWorld

/-- What a call may ask of the database in a world. -/
def ApiCall.MayAsk
    (settings : ApiSettings)
    (call : ApiCall)
    (world : ApiWorld) : ApiQuery → Prop
  | .createIncidentAndRun data =>
      ∃ principal body,
        call.SpeaksFor settings principal ∧
          (principal.role = .initiator ∨ principal.role = .admin) ∧
          call.request = .createIncident body ∧
          data = body.data principal
  | .decide run request =>
      ∃ principal runId body,
        call.SpeaksFor settings principal ∧
          (principal.role = .approver ∨ principal.role = .admin) ∧
          call.request = .submitApproval runId body ∧
          world.Opens principal run.id runId ∧
          request = body.decisionRequest principal
  | .updateIncident pk decision =>
      ∃ runId, world.Decided decision runId pk
  | .submit incidentPk runId =>
      world.Justifies settings (.run incidentPk runId)
  | .submitResume runId decision =>
      world.Justifies settings (.resume runId decision)
  | _ => True

/-- An admission adds an incident and its run, or nothing. -/
theorem createIncidentAndRun_cases
    (maxQueuedRuns queued : Nat)
    (data : IncidentData)
    (ids : AdmissionIds)
    (database : Database) :
    (∃ incidents runs,
        database.incidents.insert (data.incident ids) = some incidents ∧
          database.runs.insert ids.run = some runs ∧
          createIncidentAndRun maxQueuedRuns queued data ids database =
            (.accepted (data.incident ids) ids.run,
              { database with incidents := incidents, runs := runs })) ∨
      ∃ outcome,
        (∀ incident run, outcome ≠ .accepted incident run) ∧
          createIncidentAndRun maxQueuedRuns queued data ids database =
            (outcome, database) := by
  unfold createIncidentAndRun
  by_cases full : maxQueuedRuns ≤ queued
  · rw [if_pos full]
    refine .inr ⟨_, ?_, rfl⟩
    intro incident run same
    cases same
  · rw [if_neg full]
    have refused :
        ∀ incident run,
          AdmissionOutcome.integrityError ≠ .accepted incident run := by
      intro incident run same
      cases same
    cases incidentAdded : database.incidents.insert (data.incident ids) with
    | none =>
        exact .inr ⟨_, refused, rfl⟩
    | some incidents =>
        cases runAdded : database.runs.insert ids.run with
        | none =>
            exact .inr ⟨_, refused, rfl⟩
        | some runs =>
            exact .inl ⟨incidents, runs, rfl, rfl, rfl⟩

namespace ApiWorld

variable {settings : ApiSettings}

/-- An admission keeps the control plane sound. -/
theorem Sound.admits
    {world : ApiWorld}
    {maxQueuedRuns queued : Nat}
    {call : ApiCall}
    {data : IncidentData}
    {ids : AdmissionIds}
    (sound : world.Sound settings)
    (heard : call ∈ world.received)
    (mayAsk : call.MayAsk settings world (.createIncidentAndRun data)) :
    (world.admitted
      (createIncidentAndRun maxQueuedRuns queued data ids
        world.database)).Sound settings := by
  have grows := world.grows_admitted maxQueuedRuns queued data ids
  rcases
    createIncidentAndRun_cases maxQueuedRuns queued data ids
      world.database with
    ⟨incidents, runs, incidentAdded, runAdded, shape⟩ |
      ⟨outcome, refused, shape⟩
  · rw [shape] at grows ⊢
    have newIncident :
        data.incident ids ∈ incidents :=
      (UniqueTable.mem_insert incidentAdded _).mpr (.inr rfl)
    have fresh :
        ∀ run, run ∈ world.database.runs →
          run.incidentPk ≠ ids.incidentPk := by
      intro run member same
      obtain ⟨incident, inTable, named⟩ := sound.linked run member
      have apart := UniqueTable.insert_free incidentAdded inTable
      have clash : incident.id = (data.incident ids).id := named.trans same
      simp [Incident.conflicts, clash] at apart
    refine
      { linked := ?_
        single := ?_
        owned := ?_
        authorised := ?_
        rejected := ?_
        submitted := ?_ }
    · intro run member
      rcases (UniqueTable.mem_insert runAdded run).mp member with
        inTable | rfl
      · obtain ⟨incident, inIncidents, named⟩ := sound.linked run inTable
        exact ⟨incident, grows.incidents incident inIncidents, named⟩
      · exact ⟨data.incident ids, newIncident, rfl⟩
    · intro first firstMember second secondMember same
      rcases (UniqueTable.mem_insert runAdded first).mp firstMember with
        inFirst | rfl
      · rcases (UniqueTable.mem_insert runAdded second).mp secondMember with
          inSecond | rfl
        · exact sound.single first inFirst second inSecond same
        · exact absurd same (fresh first inFirst)
      · rcases (UniqueTable.mem_insert runAdded second).mp secondMember with
          inSecond | rfl
        · exact absurd same.symm (fresh second inSecond)
        · rfl
    · intro incident member
      rcases (UniqueTable.mem_insert incidentAdded incident).mp member with
        inTable | rfl
      · rcases sound.owned incident inTable with legacy | created
        · exact .inl legacy
        · exact .inr (grows.created created)
      · obtain ⟨principal, body, speaks, role, asked, rfl⟩ := mayAsk
        exact
          .inr
            ⟨call, principal, body, ids, heard, speaks, role, asked, rfl⟩
    · intro approval member
      exact grows.authorised (sound.authorised approval member)
    · intro pk rejected
      by_cases isNew : pk = (data.incident ids).id
      · subst isNew
        simp [admitted] at rejected
      · have already :
            world.incidentStatus pk = .needsHumanIntervention := by
          simpa [admitted, isNew] using rejected
        obtain ⟨runId, decided⟩ := sound.rejected pk already
        exact ⟨runId, grows.decided decided⟩
    · intro submission member
      exact grows.justifies (sound.submitted submission member)
  · rw [shape] at grows ⊢
    refine
      sound.grown grows (fun incident member => member) (.refl _)
        (fun approval member => .inl member) ?_
        (fun submission member => .inl member)
    intro pk rejected
    cases outcome with
    | accepted incident run =>
        exact absurd rfl (refused incident run)
    | queueFull message =>
        exact .inl rejected
    | integrityError =>
        exact .inl rejected

/-- A decision that was asked for keeps the control plane sound. -/
theorem Sound.decides
    {sha256 : String → String}
    {world : ApiWorld}
    {call : ApiCall}
    {loaded row : AgentRun}
    {request : DecisionRequest}
    {updatedAt decidedAt : Instant}
    {store : Store}
    (sound : world.Sound settings)
    (heard : call ∈ world.received)
    (mayAsk : call.MayAsk settings world (.decide loaded request))
    (found : world.database.runOf loaded.id = some row)
    (decides :
      ApprovalService.decide sha256 loaded.result request updatedAt
        decidedAt (world.database.storeOf row) = .ok store) :
    (world.withStore loaded.id store).Sound settings := by
  obtain ⟨storeGrows, sameIncident⟩ := ApprovalService.decide_grows decides
  have grows := grows_withStore found storeGrows sameIncident
  refine
    sound.grown grows (fun incident member => member)
      (runsKept_withStore found sameIncident) ?_
      (fun pk rejected => .inl rejected)
      (fun submission member => .inl member)
  intro approval member
  obtain ⟨artifact, approvals, chosen, waiting, inserted, rfl⟩ :=
    ApprovalService.decide_eq_ok.mp decides
  rcases (UniqueTable.mem_insert inserted approval).mp member with
    inBefore | rfl
  · exact .inl inBefore
  · obtain ⟨principal, runId, body, speaks, role, asked, isOpen, rfl⟩ :=
      mayAsk
    have named : row.id = loaded.id := (Database.runOf_eq_some found).2
    rw [← named] at isOpen
    exact
      .inr
        ⟨call, principal, runId, body, heard, speaks, role, asked,
          grows.opens isOpen, rfl, rfl, rfl⟩

/-- Serving what a call may ask keeps the control plane sound. -/
theorem Sound.serves
    {columns : ColumnValues}
    {sha256 : String → String}
    {maxQueuedRuns : Nat}
    {before after : ApiWorld}
    {call : ApiCall}
    {asked : ApiQuery}
    {answer : ApiAnswer asked}
    (sound : before.Sound settings)
    (heard : call ∈ before.received)
    (mayAsk : call.MayAsk settings before asked)
    (serves :
      ServesApi columns sha256 maxQueuedRuns before asked answer after) :
    after.Sound settings := by
  have grows := serves.grows
  cases serves with
  | createIncidentAndRun data queued ids stored =>
      exact sound.admits heard mayAsk
  | decided found decides inserted stored =>
      exact sound.decides heard mayAsk found decides
  | rejected pk =>
      refine
        sound.grown grows (fun incident member => member) (.refl _)
          (fun approval member => .inl member) ?_
          (fun submission member => .inl member)
      intro other rejected
      by_cases same : other = pk
      · subst same
        obtain ⟨runId, decided⟩ := mayAsk
        exact .inr ⟨runId, grows.decided decided⟩
      · exact .inl (by simpa [same] using rejected)
  | submit incidentPk runId =>
      refine
        sound.grown grows (fun incident member => member) (.refl _)
          (fun approval member => .inl member)
          (fun pk rejected => .inl rejected) ?_
      intro submission member
      rcases List.mem_cons.mp member with rfl | earlier
      · exact .inr (grows.justifies mayAsk)
      · exact .inl earlier
  | submitResume runId decision =>
      refine
        sound.grown grows (fun incident member => member) (.refl _)
          (fun approval member => .inl member)
          (fun pk rejected => .inl rejected) ?_
      intro submission member
      rcases List.mem_cons.mp member with rfl | earlier
      · exact .inr (grows.justifies mayAsk)
      · exact .inl earlier
  | _ =>
      exact sound

end ApiWorld

end IncidentPilot
