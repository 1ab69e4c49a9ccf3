import IncidentPilot.Library.Json
import IncidentPilot.StatusTransitions

/-!
# Admission to the queue

`create_incident_and_run` on PostgreSQL, any number of times at once, among all
other transactions on runs.  An admission takes the advisory lock, counts, and
inserts; each of these is a step of its own, and the lock is released with the
commit or the rollback.  Other transactions do not take that lock: they may
commit between the count and the insertion.
-/

namespace IncidentPilot

/-- A row of `incidents`. -/
structure Incident where
  id : String
  incidentId : String
  title : String
  service : String
  severity : String
  symptom : String
  startTime : Instant
  repository : String
  environment : String
  payload : Json
  ownerId : Option String

/-- The primary key and the unique index on `incidents.incident_id`. -/
def Incident.conflicts (first second : Incident) : Bool :=
  decide (first.id = second.id) ||
    decide (first.incidentId = second.incidentId)

/-- The primary key and the unique index on `agent_runs.run_id`. -/
def AgentRun.conflicts (first second : AgentRun) : Bool :=
  decide (first.id = second.id) || decide (first.runId = second.runId)

/-- The dictionary `incident_data`; `none` is a missing key. -/
structure IncidentData where
  incidentId : Option String := none
  title : String
  service : String
  severity : Option String := none
  symptom : String
  startTime : Option Instant := none
  repository : Option String := none
  environment : Option String := none
  payload : Option Json := none
  ownerId : Option String := none

/-- The identifiers and the clock reading that one admission makes. -/
structure AdmissionIds where
  incidentPk : String
  incidentId : String
  runPk : String
  runId : String
  utcnow : Instant

/-- The `Incident` that an admission adds. -/
def IncidentData.incident
    (data : IncidentData)
    (ids : AdmissionIds) : Incident where
  id := ids.incidentPk
  incidentId :=
    match data.incidentId with
    | none => ids.incidentId
    | some given => if given = "" then ids.incidentId else given
  title := data.title
  service := data.service
  severity := data.severity.getD "SEV3"
  symptom := data.symptom
  startTime := data.startTime.getD ids.utcnow
  repository := data.repository.getD ""
  environment := data.environment.getD "reference-production"
  payload :=
    match data.payload with
    | none => .object []
    | some given => if given.truthy = true then given else .object []
  ownerId := data.ownerId

/-- The `AgentRun` that an admission adds. -/
def AdmissionIds.run (ids : AdmissionIds) : AgentRun :=
  newRun ids.runPk ids.runId ids.incidentPk ids.utcnow

/-- What a transaction on one run writes to the row of that run. -/
def Store.rewrite (store : Store) (row : AgentRun) : AgentRun :=
  { store.run with id := row.id, runId := row.runId }

/-- Rewriting a row keeps its unique columns. -/
theorem Store.rewrite_keeps
    (store : Store)
    (first second : AgentRun) :
    (store.rewrite first).conflicts second = first.conflicts second ∧
      second.conflicts (store.rewrite first) = second.conflicts first :=
  ⟨rfl, rfl⟩

/-- The committed rows of the control plane. -/
structure Database where
  incidents : UniqueTable Incident Incident.conflicts
  runs : UniqueTable AgentRun AgentRun.conflicts
  approvals : UniqueTable Approval Approval.conflicts
  patchArtifacts : UniqueTable PatchArtifact PatchArtifact.conflicts
  testRuns : UniqueTable TestRun TestRun.conflicts
  sideEffects :
    UniqueTable ExternalSideEffect ExternalSideEffect.conflicts

namespace Database

/-- `SELECT count(*) ... WHERE status = 'PENDING'`. -/
def pendingRuns (database : Database) : Nat :=
  database.runs.rows.countP fun run => decide (run.status = .pending)

/-- What a transaction on one run sees. -/
def storeOf (database : Database) (run : AgentRun) : Store where
  run := run
  approvals := database.approvals
  patchArtifacts := database.patchArtifacts
  testRuns := database.testRuns
  sideEffects := database.sideEffects

/-- What a transaction on one run leaves. -/
def withStore
    (database : Database)
    (runPk : String)
    (store : Store) : Database where
  incidents := database.incidents
  runs :=
    database.runs.update (fun run => decide (run.id = runPk)) store.rewrite
      store.rewrite_keeps
  approvals := store.approvals
  patchArtifacts := store.patchArtifacts
  testRuns := store.testRuns
  sideEffects := store.sideEffects

end Database

/-- How a call of `create_incident_and_run` ends once it has counted. -/
inductive AdmissionOutcome where
  | accepted (incident : Incident) (run : AgentRun)
  | queueFull (message : String)
  | integrityError

/-- `create_incident_and_run` after its count. -/
def createIncidentAndRun
    (maxQueuedRuns queued : Nat)
    (data : IncidentData)
    (ids : AdmissionIds)
    (database : Database) : AdmissionOutcome × Database :=
  if maxQueuedRuns ≤ queued then
    (.queueFull "incident run queue is full", database)
  else
    match
      database.incidents.insert (data.incident ids),
      database.runs.insert ids.run with
    | some incidents, some runs =>
        (.accepted (data.incident ids) ids.run,
          { database with incidents := incidents, runs := runs })
    | _, _ => (.integrityError, database)

/-- How far a call of `create_incident_and_run` has come. -/
inductive AdmissionPhase where
  | begun
  | locked
  | counted (queued : Nat)
  deriving Repr, DecidableEq

/-- A call of `create_incident_and_run` in flight. -/
structure Admission where
  data : IncidentData
  ids : AdmissionIds
  phase : AdmissionPhase

/--
The database, the holder of the advisory lock, the admissions in flight, and how
many runs have been put back into the queue so far.
-/
structure AdmissionQueue where
  database : Database
  holder : Option Nat
  inFlight : Nat → Option Admission
  requeues : Nat

/-- What may happen to the queue. -/
inductive AdmissionAction where
  | begin (who : Nat) (data : IncidentData) (ids : AdmissionIds)
  | lock (who : Nat)
  | count (who : Nat)
  | finish (who : Nat)
  | abort (who : Nat)
  | write (runPk : String) (transaction : Transaction)

/-- The transactions that put a run back into the queue. -/
def Transaction.requeues (after : AgentRun) : Transaction → Bool
  | .retryClaim .. => after.status = .pending
  | .decide _ request _ _ => request.decision = .approve
  | _ => false

/-- A status mark `PENDING`, which no caller of `mark_status` asks for. -/
def Transaction.marksPending : Transaction → Bool
  | .fenced _ _ (.markStatus _ change) => change.status = .pending
  | _ => false

namespace AdmissionQueue

/-- An admission in flight goes on to another phase. -/
def proceed
    (queue : AdmissionQueue)
    (who : Nat)
    (admission : Admission)
    (phase : AdmissionPhase) : AdmissionQueue :=
  { queue with
    inFlight :=
      Function.update queue.inFlight who
        (some { admission with phase := phase }) }

/-- One step of the queue, if it may be taken. -/
def act
    (sha256 : String → String)
    (deployment : Deployment)
    (maxQueuedRuns : Nat)
    (queue : AdmissionQueue) : AdmissionAction → Option AdmissionQueue
  | .begin who data ids =>
      match queue.inFlight who with
      | some _ => none
      | none => some (queue.proceed who ⟨data, ids, .begun⟩ .begun)
  | .lock who =>
      match queue.inFlight who, queue.holder with
      | some admission, none =>
          if admission.phase = .begun then
            some { queue.proceed who admission .locked with
              holder := some who }
          else
            none
      | _, _ => none
  | .count who =>
      match queue.inFlight who with
      | none => none
      | some admission =>
          if admission.phase = .locked then
            some
              (queue.proceed who admission
                (.counted queue.database.pendingRuns))
          else
            none
  | .finish who =>
      match queue.inFlight who with
      | none => none
      | some admission =>
          match admission.phase with
          | .counted queued =>
              some
                { queue with
                  database :=
                    (createIncidentAndRun maxQueuedRuns queued
                      admission.data admission.ids queue.database).2
                  holder := none
                  inFlight := Function.update queue.inFlight who none }
          | _ => none
  | .abort who =>
      some
        { queue with
          holder := if queue.holder = some who then none else queue.holder
          inFlight := Function.update queue.inFlight who none }
  -- One transaction for each row that `expire_exhausted_runs` rewrites.
  | .write runPk transaction =>
      if transaction.marksPending = true then
        none
      else
        match queue.database.runs.find fun run => decide (run.id = runPk) with
        | none => none
        | some run =>
            match
              transaction.commitStore sha256 deployment
                (queue.database.storeOf run) with
            | none => none
            | some store =>
                some
                  { queue with
                    database := queue.database.withStore runPk store
                    requeues :=
                      queue.requeues +
                        if transaction.requeues store.run = true then 1
                        else 0 }

end AdmissionQueue

/-- The queue of a deployment that admits up to a number of pending runs. -/
def admissions
    (sha256 : String → String)
    (deployment : Deployment)
    (maxQueuedRuns : Nat) :
    Machine AdmissionQueue AdmissionAction :=
  Machine.computed
    (fun queue =>
      queue.database.pendingRuns ≤ maxQueuedRuns ∧
        queue.holder = none ∧
        (∀ who, queue.inFlight who = none) ∧
        queue.requeues = 0)
    (AdmissionQueue.act sha256 deployment maxQueuedRuns)

/-- Of the fenced writes only a status mark makes a run pending. -/
theorem FencedWrite.apply_pending
    {write : FencedWrite}
    {store after : Store}
    (applied : write.apply store = .ok after)
    (pending : after.run.status = .pending) :
    store.run.status = .pending ∨
      ∃ previousStatus change,
        write = .markStatus previousStatus change ∧
          change.status = .pending := by
  cases applies_of_apply applied with
  | markRunning active =>
      cases pending
  | @markStatus previousStatus change allowed same =>
      rw [Store.withRun_run, StatusChange.apply_status] at pending
      exact .inr ⟨previousStatus, change, rfl, pending⟩
  | _ =>
      exact .inl pending

/-- A transaction leaves a run pending that was, or puts it back. -/
theorem Transaction.pending_or_requeues
    {sha256 : String → String}
    {deployment : Deployment}
    {store after : Store}
    {transaction : Transaction}
    (committed :
      transaction.commitStore sha256 deployment store = some after)
    (unmarked : transaction.marksPending = false)
    (pending : after.run.status = .pending) :
    store.run.status = .pending ∨
      transaction.requeues after.run = true := by
  cases commits_of_commitStore committed with
  | claimNextRun claimable =>
      cases pending
  | renewLease sameRun running owner held attempt =>
      exact .inl pending
  | retryClaim sameRun running owner held attempt =>
      rw [Store.withRun_run] at pending
      exact .inr (by simp [requeues, pending])
  | releaseClaim sameRun owner attempt =>
      exact .inl pending
  | expireExhaustedRuns exhausted =>
      cases pending
  | @decide loadedResult request updatedAt decidedAt artifact approvals
      chosen waiting inserted =>
      cases decision : request.decision with
      | approve => exact .inr (by simp [requeues, decision])
      | reject => simp [AgentRun.decided, decision] at pending
  | fenced underClaim passed applied =>
      rcases FencedWrite.apply_pending applied pending with
        kept | ⟨previousStatus, change, rfl, marks⟩
      · exact .inl kept
      · simp [marksPending, marks] at unmarked

/-- How many of the runs one run is. -/
def pendingShare (run : AgentRun) : Nat :=
  if run.status = .pending then 1 else 0

/-- A transaction on one run changes the number of pending runs by that run. -/
theorem Database.pendingRuns_withStore
    {database : Database}
    {runPk : String}
    {run : AgentRun}
    (found :
      (database.runs.find fun run => decide (run.id = runPk)) = some run)
    (store : Store) :
    (database.withStore runPk store).pendingRuns + pendingShare run =
      database.pendingRuns + pendingShare store.run := by
  have exclusive :
      ∀ {first second : AgentRun},
        decide (first.id = runPk) = true →
        decide (second.id = runPk) = true →
        first.conflicts second = true := by
    intro first second firstNamed secondNamed
    simp only [decide_eq_true_eq] at firstNamed secondNamed
    simp [AgentRun.conflicts, firstNamed, secondNamed]
  have counted :
      (database.withStore runPk store).pendingRuns +
          (if decide (run.status = .pending) = true then 1 else 0) =
        database.pendingRuns +
          if decide ((store.rewrite run).status = .pending) = true then 1
          else 0 :=
    UniqueTable.countP_update store.rewrite_keeps exclusive found
      (fun run => decide (run.status = .pending))
  simp only [decide_eq_true_eq] at counted
  exact counted

/-- What a transaction adds to the pending runs it also counts as put back. -/
theorem Database.pendingRuns_write
    {sha256 : String → String}
    {deployment : Deployment}
    {database : Database}
    {runPk : String}
    {run : AgentRun}
    {transaction : Transaction}
    {store : Store}
    (unmarked : transaction.marksPending = false)
    (found :
      (database.runs.find fun run => decide (run.id = runPk)) = some run)
    (committed :
      transaction.commitStore sha256 deployment (database.storeOf run) =
        some store) :
    (database.withStore runPk store).pendingRuns ≤
      database.pendingRuns +
        if transaction.requeues store.run = true then 1 else 0 := by
  have counted := pendingRuns_withStore found store
  by_cases pending : store.run.status = .pending
  · rcases Transaction.pending_or_requeues committed unmarked pending with
      kept | requeued
    · have before : run.status = .pending := kept
      simp only [pendingShare, pending, before, if_true] at counted
      omega
    · simp only [pendingShare, pending, if_true] at counted
      simp only [requeued, if_true]
      omega
  · simp only [pendingShare, if_neg pending] at counted
    omega

/--
What an outcome promises about the database: an accepted admission added one
incident and one pending run and nothing else, any other changed nothing.
-/
def AdmissionOutcome.Leaves
    (before after : Database) : AdmissionOutcome → Prop
  | .accepted incident run =>
      run.status = .pending ∧
        run.incidentPk = incident.id ∧
        after.incidents.rows = before.incidents.rows ++ [incident] ∧
        after.runs.rows = before.runs.rows ++ [run] ∧
        after.approvals = before.approvals ∧
        after.patchArtifacts = before.patchArtifacts ∧
        after.testRuns = before.testRuns ∧
        after.sideEffects = before.sideEffects
  | .queueFull _ => after = before
  | .integrityError => after = before

/-- An accepted admission makes one more run pending. -/
theorem AdmissionOutcome.Leaves.pendingRuns
    {before after : Database}
    {outcome : AdmissionOutcome}
    (leaves : outcome.Leaves before after) :
    after.pendingRuns =
      before.pendingRuns +
        match outcome with
        | .accepted .. => 1
        | _ => 0 := by
  cases outcome with
  | accepted incident run =>
      obtain ⟨pending, -, -, added, -⟩ := leaves
      simp [Database.pendingRuns, added, pending]
  | queueFull message =>
      cases leaves
      rfl
  | integrityError =>
      cases leaves
      rfl

/-- Every admission does what its outcome promises. -/
theorem createIncidentAndRun_leaves
    (maxQueuedRuns queued : Nat)
    (data : IncidentData)
    (ids : AdmissionIds)
    (database : Database) :
    (createIncidentAndRun maxQueuedRuns queued data ids database).1.Leaves
      database
      (createIncidentAndRun maxQueuedRuns queued data ids database).2 := by
  unfold createIncidentAndRun
  split
  · rfl
  · split
    · rename_i incidents runs incidentAdded runAdded
      exact
        ⟨rfl, rfl, UniqueTable.insert_rows incidentAdded,
          UniqueTable.insert_rows runAdded, rfl, rfl, rfl, rfl⟩
    · rfl

/-- An admission that counted a full queue leaves the database alone. -/
theorem createIncidentAndRun_full
    {maxQueuedRuns queued : Nat}
    (full : maxQueuedRuns ≤ queued)
    (data : IncidentData)
    (ids : AdmissionIds)
    (database : Database) :
    createIncidentAndRun maxQueuedRuns queued data ids database =
      (.queueFull "incident run queue is full", database) :=
  if_pos full

/--
What an admission in flight may rely on: past the lock it holds it, and if it
counted room there still is room, up to runs put back since.
-/
def AdmissionPhase.Relies
    (maxQueuedRuns : Nat)
    (queue : AdmissionQueue)
    (who : Nat) : AdmissionPhase → Prop
  | .begun => True
  | .locked => queue.holder = some who
  | .counted queued =>
      queue.holder = some who ∧
        (queued < maxQueuedRuns →
          queue.database.pendingRuns + 1 ≤ maxQueuedRuns + queue.requeues)

namespace AdmissionPhase.Relies

variable {maxQueuedRuns : Nat} {who : Nat} {phase : AdmissionPhase}

/-- An admission that does not hold the lock has not taken it. -/
theorem begun
    {queue : AdmissionQueue}
    (relies : phase.Relies maxQueuedRuns queue who)
    (free : queue.holder ≠ some who) :
    phase = .begun := by
  cases phase with
  | begun => rfl
  | locked => exact absurd relies free
  | counted queued => exact absurd relies.1 free

/-- What it relies on outlasts pending runs that count as put back. -/
theorem outlasts
    {before after : AdmissionQueue}
    {added : Nat}
    (relies : phase.Relies maxQueuedRuns before who)
    (held : after.holder = before.holder)
    (grown :
      after.database.pendingRuns ≤ before.database.pendingRuns + added)
    (requeued : after.requeues = before.requeues + added) :
    phase.Relies maxQueuedRuns after who := by
  cases phase with
  | begun => trivial
  | locked => exact held.trans relies
  | counted queued =>
      refine ⟨held.trans relies.1, ?_⟩
      intro room
      have earlier := relies.2 room
      omega

end AdmissionPhase.Relies

namespace AdmissionQueue

@[simp] theorem proceed_database
    (queue : AdmissionQueue)
    (who : Nat)
    (admission : Admission)
    (phase : AdmissionPhase) :
    (queue.proceed who admission phase).database = queue.database :=
  rfl

@[simp] theorem proceed_requeues
    (queue : AdmissionQueue)
    (who : Nat)
    (admission : Admission)
    (phase : AdmissionPhase) :
    (queue.proceed who admission phase).requeues = queue.requeues :=
  rfl

/-- The admissions in flight after one of them went on. -/
theorem inFlight_proceed
    {queue : AdmissionQueue}
    {who other : Nat}
    {admission found : Admission}
    {phase : AdmissionPhase}
    (flying :
      (queue.proceed who admission phase).inFlight other = some found) :
    (other = who ∧ found = { admission with phase := phase }) ∨
      (other ≠ who ∧ queue.inFlight other = some found) := by
  by_cases same : other = who
  · subst same
    simp only [proceed, Function.update_self, Option.some.injEq] at flying
    exact .inl ⟨rfl, flying.symm⟩
  · simp only [proceed, Function.update_of_ne same] at flying
    exact .inr ⟨same, flying⟩

/-- The admissions in flight after one of them ended. -/
theorem inFlight_leave
    {queue : AdmissionQueue}
    {who other : Nat}
    {found : Admission}
    (flying :
      Function.update queue.inFlight who none other = some found) :
    other ≠ who ∧ queue.inFlight other = some found := by
  by_cases same : other = who
  · subst same
    simp at flying
  · rw [Function.update_of_ne same] at flying
    exact ⟨same, flying⟩

/-- What every step of the queue keeps. -/
structure Admitting (maxQueuedRuns : Nat) (queue : AdmissionQueue) :
    Prop where
  bounded :
    queue.database.pendingRuns ≤ maxQueuedRuns + queue.requeues
  relies :
    ∀ {who admission},
      queue.inFlight who = some admission →
      admission.phase.Relies maxQueuedRuns queue who

variable {sha256 : String → String} {deployment : Deployment}
variable {maxQueuedRuns : Nat} {before after : AdmissionQueue}

/-- A call that begins is admitting. -/
theorem act_begin
    {who : Nat}
    {data : IncidentData}
    {ids : AdmissionIds}
    (admitting : before.Admitting maxQueuedRuns)
    (acted :
      before.act sha256 deployment maxQueuedRuns (.begin who data ids) =
        some after) :
    after.Admitting maxQueuedRuns := by
  cases occupied : before.inFlight who with
  | some admission => simp [act, occupied] at acted
  | none =>
      simp only [act, occupied, Option.some.injEq] at acted
      subst acted
      refine ⟨admitting.bounded, ?_⟩
      intro other found flying
      rcases inFlight_proceed flying with ⟨rfl, rfl⟩ | ⟨-, earlier⟩
      · trivial
      · exact (admitting.relies earlier).outlasts rfl (Nat.le_add_right _ 0) rfl

/-- Taking the lock is admitting: no other admission is past it. -/
theorem act_lock
    {who : Nat}
    (admitting : before.Admitting maxQueuedRuns)
    (acted :
      before.act sha256 deployment maxQueuedRuns (.lock who) =
        some after) :
    after.Admitting maxQueuedRuns := by
  simp only [act] at acted
  split at acted
  · rename_i admission flies free
    split at acted
    · cases acted
      refine ⟨admitting.bounded, ?_⟩
      intro other found flying
      rcases inFlight_proceed flying with ⟨rfl, rfl⟩ | ⟨-, earlier⟩
      · exact rfl
      · have begun := (admitting.relies earlier).begun (by simp [free])
        rw [begun]
        trivial
    · cases acted
  · cases acted

/-- A count is admitting: the room it finds is there. -/
theorem act_count
    {who : Nat}
    (admitting : before.Admitting maxQueuedRuns)
    (acted :
      before.act sha256 deployment maxQueuedRuns (.count who) =
        some after) :
    after.Admitting maxQueuedRuns := by
  cases flies : before.inFlight who with
  | none => simp [act, flies] at acted
  | some admission =>
      simp only [act, flies] at acted
      split at acted
      · rename_i locked
        cases acted
        have held : before.holder = some who := by
          simpa [locked, AdmissionPhase.Relies] using admitting.relies flies
        refine ⟨admitting.bounded, ?_⟩
        intro other found flying
        rcases inFlight_proceed flying with ⟨rfl, rfl⟩ | ⟨-, earlier⟩
        · refine ⟨held, ?_⟩
          intro room
          rw [proceed_database, proceed_requeues]
          omega
        · exact (admitting.relies earlier).outlasts rfl (Nat.le_add_right _ 0) rfl
      · cases acted

/-- The admission that commits or is refused, and what it leaves. -/
theorem act_finish_eq_some
    {who : Nat}
    (acted :
      before.act sha256 deployment maxQueuedRuns (.finish who) =
        some after) :
    ∃ admission queued,
      before.inFlight who = some admission ∧
        admission.phase = .counted queued ∧
        after =
          { before with
            database :=
              (createIncidentAndRun maxQueuedRuns queued admission.data
                admission.ids before.database).2
            holder := none
            inFlight := Function.update before.inFlight who none } := by
  cases flies : before.inFlight who with
  | none => simp [act, flies] at acted
  | some admission =>
      simp only [act, flies] at acted
      split at acted
      · rename_i queued counted
        cases acted
        exact ⟨admission, queued, rfl, counted, rfl⟩
      · cases acted

/-- A commit is admitting: it adds a run only where it found room. -/
theorem act_finish
    {who : Nat}
    (admitting : before.Admitting maxQueuedRuns)
    (acted :
      before.act sha256 deployment maxQueuedRuns (.finish who) =
        some after) :
    after.Admitting maxQueuedRuns := by
  obtain ⟨admission, queued, flies, counted, rfl⟩ :=
    act_finish_eq_some acted
  have relied := admitting.relies flies
  rw [counted] at relied
  obtain ⟨held, room⟩ := relied
  constructor
  · have bounded := admitting.bounded
    have effect :=
      createIncidentAndRun_leaves maxQueuedRuns queued admission.data
        admission.ids before.database
    by_cases full : maxQueuedRuns ≤ queued
    · simpa [createIncidentAndRun_full full] using bounded
    · have left := room (by omega)
      have share := effect.pendingRuns
      split at share
      · exact share ▸ left
      · exact share ▸ bounded
  · intro other found flying
    obtain ⟨apart, earlier⟩ := inFlight_leave flying
    have begun :=
      (admitting.relies earlier).begun
        (by simp [held, Ne.symm apart])
    rw [begun]
    trivial

/-- An admission that fails leaves the others what they rely on. -/
theorem act_abort
    {who : Nat}
    (admitting : before.Admitting maxQueuedRuns)
    (acted :
      before.act sha256 deployment maxQueuedRuns (.abort who) =
        some after) :
    after.Admitting maxQueuedRuns := by
  cases acted
  refine ⟨admitting.bounded, ?_⟩
  intro other found flying
  obtain ⟨apart, earlier⟩ := inFlight_leave flying
  by_cases held : before.holder = some who
  · have begun :=
      (admitting.relies earlier).begun (by simp [held, Ne.symm apart])
    rw [begun]
    trivial
  · exact
      (admitting.relies earlier).outlasts (if_neg held) (Nat.le_add_right _ 0) rfl

/-- A transaction on a run is admitting: what it adds it puts back. -/
theorem act_write
    {runPk : String}
    {transaction : Transaction}
    (admitting : before.Admitting maxQueuedRuns)
    (acted :
      before.act sha256 deployment maxQueuedRuns
          (.write runPk transaction) =
        some after) :
    after.Admitting maxQueuedRuns := by
  simp only [act] at acted
  split at acted
  · cases acted
  · rename_i unmarked
    split at acted
    · cases acted
    · rename_i run found
      split at acted
      · cases acted
      · rename_i store committed
        cases acted
        have grown :=
          Database.pendingRuns_write (Bool.eq_false_iff.mpr unmarked) found
            committed
        constructor
        · have bounded := admitting.bounded
          change
            (before.database.withStore runPk store).pendingRuns ≤
              maxQueuedRuns +
                (before.requeues +
                  if transaction.requeues store.run = true then 1 else 0)
          omega
        · intro other found flying
          exact (admitting.relies flying).outlasts rfl grown rfl

/-- Every reachable queue is admitting. -/
theorem admitting_of_reachable
    {queue : AdmissionQueue}
    (reached :
      (admissions sha256 deployment maxQueuedRuns).Reachable queue) :
    queue.Admitting maxQueuedRuns := by
  refine reached.invariant ?_ ?_
  · rintro state ⟨bounded, -, idle, none⟩
    refine ⟨by omega, ?_⟩
    intro who admission flies
    rw [idle who] at flies
    cases flies
  · intro before action after admitting acted
    cases action with
    | begin who data ids => exact act_begin admitting acted
    | lock who => exact act_lock admitting acted
    | count who => exact act_count admitting acted
    | finish who => exact act_finish admitting acted
    | abort who => exact act_abort admitting acted
    | write runPk transaction => exact act_write admitting acted

/-- Only commits change the database. -/
theorem act_database
    {action : AdmissionAction}
    (acted :
      before.act sha256 deployment maxQueuedRuns action = some after)
    (unfinished : ∀ who, action ≠ .finish who)
    (unwritten : ∀ runPk transaction, action ≠ .write runPk transaction) :
    after.database = before.database := by
  cases action with
  | begin who data ids =>
      simp only [act] at acted
      split at acted <;> cases acted
      rfl
  | lock who =>
      simp only [act] at acted
      split at acted
      · split at acted <;> cases acted
        rfl
      · cases acted
  | count who =>
      simp only [act] at acted
      split at acted
      · cases acted
      · split at acted <;> cases acted
        rfl
  | finish who => exact absurd rfl (unfinished who)
  | abort who =>
      cases acted
      rfl
  | write runPk transaction =>
      exact absurd rfl (unwritten runPk transaction)

end AdmissionQueue

/--
However admissions interleave with each other and with all other transactions
on runs, no more runs are pending than the limit and the runs put back allow.
An accepted admission adds one incident and one pending run, one that finds the
queue full changes nothing, and nothing is visible before an admission ends.
-/
theorem bounded_queue_admission
    {sha256 : String → String}
    {deployment : Deployment}
    {maxQueuedRuns : Nat}
    {queue : AdmissionQueue}
    (reached :
      (admissions sha256 deployment maxQueuedRuns).Reachable queue) :
    queue.database.pendingRuns ≤ maxQueuedRuns + queue.requeues ∧
      (queue.requeues = 0 → queue.database.pendingRuns ≤ maxQueuedRuns) ∧
      (∀ {who after},
        (admissions sha256 deployment maxQueuedRuns).step queue
            (.finish who) after →
          ∃ admission queued outcome,
            queue.inFlight who = some admission ∧
              admission.phase = .counted queued ∧
              createIncidentAndRun maxQueuedRuns queued admission.data
                  admission.ids queue.database =
                (outcome, after.database) ∧
              outcome.Leaves queue.database after.database) ∧
      ∀ {action after},
        (admissions sha256 deployment maxQueuedRuns).step queue action
            after →
          (∀ who, action ≠ .finish who) →
          (∀ runPk transaction, action ≠ .write runPk transaction) →
          after.database = queue.database := by
  have admitting := AdmissionQueue.admitting_of_reachable reached
  refine ⟨admitting.bounded, ?_, ?_, AdmissionQueue.act_database⟩
  · intro none
    have bounded := admitting.bounded
    omega
  · intro who after acted
    obtain ⟨admission, queued, flies, counted, rfl⟩ :=
      AdmissionQueue.act_finish_eq_some acted
    exact
      ⟨admission, queued, _, flies, counted, rfl,
        createIncidentAndRun_leaves maxQueuedRuns queued admission.data
          admission.ids queue.database⟩

/-- A queue before its first admission. -/
def AdmissionQueue.idle : AdmissionQueue :=
  ⟨⟨.empty, .empty, .empty, .empty, .empty, .empty⟩, none, fun _ => none, 0⟩

/-- Two calls that race for one place. -/
def admissionRace : List AdmissionAction :=
  let data : IncidentData :=
    { title := "title", service := "api", symptom := "symptom" }
  [.begin 1 data ⟨"incident-1", "INC-1", "run-1", "RUN-1", 0⟩,
    .begin 2 data ⟨"incident-2", "INC-2", "run-2", "RUN-2", 0⟩,
    .lock 2, .count 2, .finish 2, .lock 1, .count 1, .finish 1]

/-- In this race the first call counts after the second and is refused. -/
theorem bounded_queue_admission_race :
    ∃ queue,
      (admissions id (.durable 1 60) 1).Reachable queue ∧
        queue.database.runs.rows.map AgentRun.runId = ["RUN-2"] ∧
        queue.database.pendingRuns ≤ 1 := by
  have begins : (admissions id (.durable 1 60) 1).initial .idle :=
    ⟨Nat.zero_le 1, rfl, fun _ => rfl, rfl⟩
  have raced :
      (admissionRace.foldlM (AdmissionQueue.act id (.durable 1 60) 1)
        .idle).any
        (fun queue =>
          decide
              (queue.database.runs.rows.map AgentRun.runId = ["RUN-2"]) &&
            decide (queue.requeues = 0)) = true := by
    decide +kernel
  obtain ⟨queue, acted, checked⟩ := (Option.any_eq_true _ _).mp raced
  obtain ⟨accepted, none⟩ := Bool.and_eq_true_iff.mp checked
  have path :
      (admissions id (.durable 1 60) 1).Leads .idle queue :=
    Machine.computed_leads acted
  have reached := (Machine.Reachable.initial begins).leads path
  exact
    ⟨queue, reached, of_decide_eq_true accepted,
      (bounded_queue_admission reached).2.1 (of_decide_eq_true none)⟩

end IncidentPilot
