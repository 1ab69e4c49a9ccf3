import IncidentPilot.WorkflowExecution
import IncidentPilot.WorkflowRequests

/-!
# Invariants of workflow executions

The one induction over the runs of `workflow`.  A `WorkflowInvariant` says what
holds of the database, of a checkpoint, of what a process keeps besides its
checkpoint, and of a final state that has been persisted.  When every node keeps
it and the transactions around the graph keep it, it holds in every reachable
state, whatever other executions do in between.
-/

namespace IncidentPilot

variable {setup : WorkflowSetup}

/-- What a commit checked and wrote. -/
theorem WorkflowWorld.commit_eq_some
    {world after : WorkflowWorld}
    {transaction : Transaction} :
    world.commit setup transaction = some after ↔
      ∃ plane,
        world.plane.commit setup.tools.json.sha256 setup.deployment
            transaction = some plane ∧
          after = { world with plane := plane } := by
  unfold WorkflowWorld.commit
  rw [Option.map_eq_some_iff]
  exact exists_congr fun _ => and_congr_right fun _ => eq_comm

/-- What a commit writes, the transaction writes. -/
theorem WorkflowWorld.commitStore_of_commit
    {world after : WorkflowWorld}
    {transaction : Transaction}
    (committed : world.commit setup transaction = some after) :
    transaction.commitStore setup.tools.json.sha256 setup.deployment
        world.store = some after.store := by
  obtain ⟨plane, planeCommitted, rfl⟩ := commit_eq_some.mp committed
  exact (ControlPlane.commit_eq_some.mp planeCommitted).2.1

/-- No transaction changes the id by which the run is known. -/
theorem Transaction.commitStore_runId
    {sha256 : String → String}
    {deployment : Deployment}
    {store after : Store}
    {transaction : Transaction}
    (committed :
      transaction.commitStore sha256 deployment store = some after) :
    after.run.runId = store.run.runId := by
  cases transaction with
  | claimNextRun workerId current =>
      obtain ⟨-, rfl⟩ := commitStore_eq_some.mp committed
      rfl
  | _ =>
      exact (commitStore_sameAttempt rfl committed).runId

/-- A commit is growth. -/
theorem WorkflowWorld.grows_of_commit
    {world after : WorkflowWorld}
    {transaction : Transaction}
    (committed : world.commit setup transaction = some after) :
    world.Grows after := by
  have wrote := commitStore_of_commit committed
  obtain ⟨plane, -, rfl⟩ := commit_eq_some.mp committed
  exact
    ⟨Transaction.commitStore_grows wrote,
      Transaction.commitStore_runId wrote, Nat.le_refl _, fun _ => id,
      fun _ => id⟩

/-- A computation has a result when it succeeds with it. -/
theorem Except.toOption_eq_some
    {Raised : Type u}
    {Value : Type v}
    {computed : Except Raised Value}
    {value : Value} :
    computed.toOption = some value ↔ computed = .ok value := by
  cases computed <;> simp [Except.toOption]

/-- An artifact is persisted by a commit. -/
theorem WorkflowWorld.persistArtifact_eq_some
    {world after : WorkflowWorld}
    {claim : Option ClaimedRun}
    {current : Instant}
    {artifact : PatchArtifactData}
    {id : Uuid} :
    world.persistArtifact setup claim current artifact =
        some (id, after) ↔
      world.commit setup
          (.fenced claim current
            (.patchArtifact (artifact.row world.store.run.id))) =
        some after ∧
      ∃ store,
        persistPatchArtifactOnce (artifact.row world.store.run.id)
          world.store = .ok (store, id) := by
  simp only [persistArtifact, Option.bind_eq_bind,
    Option.bind_eq_some_iff, Option.some.injEq, Prod.mk.injEq]
  constructor
  · rintro ⟨middle, committed, ⟨store, persistedId⟩, persisted, rfl, rfl⟩
    exact ⟨committed, store, Except.toOption_eq_some.mp persisted⟩
  · rintro ⟨committed, store, persisted⟩
    exact
      ⟨after, committed, (store, id),
        Except.toOption_eq_some.mpr persisted, rfl, rfl⟩

/-- Serving a request is growth. -/
theorem WorkflowSetup.Serves.grows
    {claim : Option ClaimedRun}
    {world after : WorkflowWorld}
    {request : WorkflowRequest}
    {answer : WorkflowAnswer request}
    (served : setup.Serves claim world request answer after) :
    world.Grows after := by
  cases request with
  | transact write =>
      rcases served with ⟨_, -, rfl⟩ | ⟨-, current, committed⟩
      · exact .refl _
      · exact WorkflowWorld.grows_of_commit committed
  | persistArtifact artifact =>
      rcases served with ⟨_, -, rfl⟩ | ⟨current, id, -, persisted⟩
      · exact .refl _
      · exact
          WorkflowWorld.grows_of_commit
            (WorkflowWorld.persistArtifact_eq_some.mp persisted).1
  | freshId =>
      obtain ⟨-, rfl⟩ := served
      exact ⟨.refl _, rfl, Nat.le_succ _, fun _ => id, fun _ => id⟩
  | readSource =>
      obtain ⟨rfl, -⟩ := served
      exact .refl _
  | runTests workspace attempt =>
      rcases served with ⟨_, -, rfl⟩ | ⟨exitCode, -, rfl⟩
      · exact .refl _
      · exact
          ⟨.refl _, rfl, Nat.le_succ _, fun _ => id,
            fun _ => List.mem_cons_of_mem _⟩
  | _ =>
      cases served
      exact .refl _

/-- A step of an execution is growth. -/
theorem WorkflowSetup.Advances.grows
    {world after : WorkflowWorld}
    {point next : ExecutionPoint}
    (advances : setup.Advances world point after next) :
    world.Grows after := by
  cases advances with
  | mark committed => exact WorkflowWorld.grows_of_commit committed
  | begin fresh => exact .push _ _
  | recover recovers newest => exact .refl _
  | recoverEnd recovers newest => exact .refl _
  | enter attempt node session => exact .refl _
  | serve served => exact served.grows
  | complete follows => exact .push _ _
  | last ends noInterrupt => exact .push _ _
  | interrupt attempt session => exact .refl _
  | fail keepsLease => exact .refl _
  | overrun error => exact .refl _
  | persist committed => exact WorkflowWorld.grows_of_commit committed
  | finish committed => exact WorkflowWorld.grows_of_commit committed

/-- The passing of time is growth. -/
theorem WorkflowWorld.Grows.tick
    (world : WorkflowWorld)
    (seconds : Nat) :
    world.Grows { world with plane := world.plane.tick seconds } :=
  ⟨.refl _, rfl, Nat.le_refl _, fun _ => id, fun _ => id⟩

/-- A step of the machine is growth. -/
theorem WorkflowStep.grows
    {before after : WorkflowRuns}
    {action : WorkflowAction}
    (step : WorkflowStep setup before action after) :
    before.world.Grows after.world := by
  cases step with
  | committed commits foreign =>
      exact WorkflowWorld.grows_of_commit commits
  | drifted seconds => exact .tick _ seconds
  | resumed pullRequest parked decided resumes => exact .push _ _
  | start idle starts => exact .refl _
  | advance advances => exact advances.grows
  | stop execution => exact .refl _

/-- Where a state of the machine leads, the world has only grown. -/
theorem WorkflowRuns.grows_of_leads
    {earlier later : WorkflowRuns}
    (leads : (workflow setup).Leads earlier later) :
    earlier.world.Grows later.world :=
  leads.induct (fun first second => first.world.Grows second.world)
    (fun _ => .refl _) fun grown step =>
      grown.trans (WorkflowStep.grows step)

/-- A state of the run: one that is saved, or one an execution has in hand. -/
inductive WorkflowRuns.Holds (runs : WorkflowRuns) : AgentState → Prop where
  | saved
      {checkpoint : Checkpoint}
      (member : checkpoint ∈ runs.world.thread) :
      Holds runs checkpoint.state
  | between
      {execution : Nat}
      {attempt : WorkflowAttempt}
      {node : WorkflowNode}
      {session : Session}
      (stands :
        runs.executions execution = .between attempt node session) :
      Holds runs session.state
  | returned
      {execution : Nat}
      {attempt : WorkflowAttempt}
      {node : WorkflowNode}
      {session : Session}
      (stands :
        runs.executions execution =
          .running attempt node (.done session)) :
      Holds runs session.state
  | persisting
      {execution : Nat}
      {attempt : WorkflowAttempt}
      {final : AgentState}
      (stands : runs.executions execution = .persisting attempt final) :
      Holds runs final
  | finishing
      {execution : Nat}
      {attempt : WorkflowAttempt}
      {final : AgentState}
      (stands : runs.executions execution = .finishing attempt final) :
      Holds runs final

/-- What is to hold of the parts of a state of the machine. -/
structure WorkflowInvariant where
  tables : WorkflowWorld → Prop
  checkpoint : WorkflowWorld → Checkpoint → Prop
  process : WorkflowWorld → WorkflowNode → Session → Prop
  persisted : WorkflowWorld → AgentState → Prop

namespace WorkflowInvariant

variable (setup)
variable (invariant : WorkflowInvariant)

/-- The database and every checkpoint of the thread are as they should be. -/
structure Holds (world : WorkflowWorld) : Prop where
  tables : invariant.tables world
  thread :
    ∀ checkpoint ∈ world.thread, invariant.checkpoint world checkpoint

/-- The checkpoint a node leads to is as it should be. -/
structure Completed
    (world : WorkflowWorld)
    (node : WorkflowNode)
    (session : Session) : Prop where
  checkpoint :
    invariant.checkpoint world
      ⟨node.next setup.settings session, session.state⟩
  process :
    ∀ following,
      node.next setup.settings session = some following →
      invariant.process world following session

/-- What a program of the graph may rely on between its requests. -/
def surroundings
    (claim : Option ClaimedRun) :
    Program.Surroundings WorkflowWorld WorkflowRequest
      WorkflowAnswer where
  serves := setup.Serves claim
  interferes before after := before.Grows after ∧ invariant.Holds after

/-- What a program of the graph may ask: nothing that spoils the database. -/
def permits
    (claim : Option ClaimedRun)
    (world : WorkflowWorld)
    (request : WorkflowRequest) : Prop :=
  invariant.Holds world →
    ∀ answer after,
      setup.Serves claim world request answer after →
      invariant.tables after

/-- A program of the graph leads to where a node should lead. -/
abbrev Leads
    (claim : Option ClaimedRun)
    (node : WorkflowNode)
    (program : WorkflowProgram Session)
    (world : WorkflowWorld) : Prop :=
  program.Keeps (invariant.surroundings setup claim)
    (invariant.permits setup claim) world
    (fun session final => invariant.Completed setup final node session)
    (fun _ _ => True)

/-- What holds of an execution where it stands. -/
def PointHolds (world : WorkflowWorld) : ExecutionPoint → Prop
  | .between _ node session =>
      ⟨some node, session.state⟩ ∈ world.thread ∧
        invariant.process world node session
  | .running attempt node rest =>
      invariant.Leads setup attempt.claim node rest world
  | .persisting _ final =>
      ∃ next, invariant.checkpoint world ⟨next, final⟩
  | .finishing _ final => invariant.persisted world final
  | _ => True

/-- The steps that keep the invariant, one for each thing that can happen. -/
structure Inductive : Prop where
  initial :
    ∀ world : WorkflowWorld,
      world.Initial →
      invariant.tables world
  pushed :
    ∀ (world : WorkflowWorld) checkpoint,
      invariant.tables world →
      invariant.tables (world.push checkpoint)
  stableCheckpoint :
    ∀ {world later : WorkflowWorld} {checkpoint},
      world.Grows later →
      invariant.checkpoint world checkpoint →
      invariant.checkpoint later checkpoint
  stableProcess :
    ∀ {world later : WorkflowWorld} {node session},
      world.Grows later →
      invariant.process world node session →
      invariant.process later node session
  stablePersisted :
    ∀ {world later : WorkflowWorld} {final},
      world.Grows later →
      invariant.persisted world final →
      invariant.persisted later final
  foreign :
    ∀ {world after : WorkflowWorld} {transaction},
      invariant.Holds world →
      transaction.Foreign world.store →
      world.commit setup transaction = some after →
      invariant.tables after
  drifted :
    ∀ (world : WorkflowWorld) seconds,
      invariant.tables world →
      invariant.tables { world with plane := world.plane.tick seconds }
  resumed :
    ∀ {world : WorkflowWorld} {state status} pullRequest,
      invariant.checkpoint world ⟨some .waitForApproval, state⟩ →
      status ≠ .waitingApproval →
      invariant.checkpoint world
        ⟨none, state.resumed status pullRequest⟩
  begins :
    ∀ (world : WorkflowWorld),
      let state := initialState world.store.run.runId setup.incident
      invariant.checkpoint world ⟨some .plan, state⟩ ∧
        invariant.process world .plan (setup.settings.enter state)
  recovers :
    ∀ {world : WorkflowWorld} {node state},
      invariant.checkpoint world ⟨some node, state⟩ →
      invariant.process world node (setup.settings.enter state)
  node :
    ∀ {world : WorkflowWorld} {node session} claim,
      invariant.Holds world →
      ⟨some node, session.state⟩ ∈ world.thread →
      invariant.process world node session →
      invariant.Leads setup claim node
        (node.program setup.tools setup.settings session) world
  failed :
    ∀ (world : WorkflowWorld) error,
      invariant.checkpoint world
        ⟨none, failedState world.store.run.runId setup.incident error⟩
  persists :
    ∀ {world after : WorkflowWorld} {next final} claim current loaded,
      invariant.Holds world →
      invariant.checkpoint world ⟨next, final⟩ →
      world.commit setup
          (.fenced claim current
            (investigationWrite setup.tools.json.sha256 loaded
              world.store.run.id final)) =
        some after →
      invariant.tables after ∧ invariant.persisted after final
  finishes :
    ∀ {world after : WorkflowWorld} {final} claim current utcnow,
      invariant.Holds world →
      invariant.persisted world final →
      world.commit setup
          (.fenced claim current
            (.markStatus .running (finalChange final utcnow))) =
        some after →
      invariant.tables after

variable {setup} {invariant}

/-- While a program runs, the world grows. -/
theorem keeps_framed
    {Value : Type}
    {claim : Option ClaimedRun}
    {program : WorkflowProgram Value}
    {world : WorkflowWorld}
    {permits : WorkflowWorld → WorkflowRequest → Prop}
    {returns : Value → WorkflowWorld → Prop}
    (kept :
      program.Keeps (invariant.surroundings setup claim) permits world
        returns (fun _ _ => True)) :
    program.Keeps (invariant.surroundings setup claim) permits world
      (fun value later => returns value later ∧ world.Grows later)
      (fun _ _ => True) := by
  have framed :
      program.Keeps (invariant.surroundings setup claim) permits world
        (fun value later => returns value later ∧ world.Grows later)
        (fun _ later => True ∧ world.Grows later) :=
    kept.frame
      (fun _ _ before interfered => before.trans interfered.1)
      (fun _ _ _ _ before _ served => before.trans served.grows)
      (.refl world)
  exact framed.mono (fun _ _ => id) (fun _ _ => id) (fun _ _ _ => trivial)

/-- What a program that may ask its requests returns, and that the world grows. -/
theorem keeps_grown
    {Value : Type}
    {claim : Option ClaimedRun}
    {program : WorkflowProgram Value}
    {world : WorkflowWorld}
    {kind : WorkflowRequest → Prop}
    {good : Value → Prop}
    (kept :
      program.Keeps (invariant.surroundings setup claim) (fun _ => kind)
        world (fun value _ => good value) (fun _ _ => True))
    (permitted :
      ∀ later request,
        kind request → invariant.permits setup claim later request) :
    program.Keeps (invariant.surroundings setup claim)
      (invariant.permits setup claim) world
      (fun value later => good value ∧ world.Grows later)
      (fun _ _ => True) :=
  (keeps_framed kept).mono permitted (fun _ _ => id) (fun _ _ => id)

/-- A program leads where it should when what it returns is good. -/
theorem leads_of_keeps
    {claim : Option ClaimedRun}
    {node : WorkflowNode}
    {program : WorkflowProgram Session}
    {world : WorkflowWorld}
    {kind : WorkflowRequest → Prop}
    {good : Session → Prop}
    (kept :
      program.Keeps (invariant.surroundings setup claim) (fun _ => kind)
        world (fun session _ => good session) (fun _ _ => True))
    (permitted :
      ∀ later request,
        kind request → invariant.permits setup claim later request)
    (completed :
      ∀ session later,
        world.Grows later →
        good session →
        invariant.Completed setup later node session) :
    invariant.Leads setup claim node program world :=
  (keeps_grown kept permitted).mono (fun _ _ => id)
    (fun session later ends => completed session later ends.2 ends.1)
    (fun _ _ _ => trivial)

/-- A program leads where it should when all it can return is good. -/
theorem leads_of_always
    {claim : Option ClaimedRun}
    {node : WorkflowNode}
    {program : WorkflowProgram Session}
    {world : WorkflowWorld}
    {good : Session → Prop}
    (always : program.Always good)
    (permitted :
      ∀ later request, invariant.permits setup claim later request)
    (completed :
      ∀ session later,
        world.Grows later →
        good session →
        invariant.Completed setup later node session) :
    invariant.Leads setup claim node program world :=
  leads_of_keeps (always.keeps world)
    (fun later request _ => permitted later request) completed

/-- A transaction that may be made is made, and the program goes on. -/
theorem transact_keeps
    {claim : Option ClaimedRun}
    {write : FencedWrite}
    {world : WorkflowWorld}
    {returns : WorkflowWorld → Prop}
    (permitted :
      ∀ later,
        world.Grows later →
        invariant.permits setup claim later (.transact write))
    (goesOn : ∀ later, world.Grows later → returns later) :
    (transact write).Keeps (invariant.surroundings setup claim)
      (invariant.permits setup claim) world (fun _ => returns)
      (fun _ _ => True) := by
  refine .ask fun disturbed interfered => ?_
  refine ⟨permitted disturbed interfered.1, ?_⟩
  intro answer served serving
  have serves :
      setup.Serves claim disturbed (.transact write) answer served :=
    serving
  have grows := interfered.1.trans serves.grows
  cases answer with
  | error error => exact .raise trivial
  | ok => exact .done (goesOn served grows)

/-- A guarded node leads where it should when what it runs does. -/
theorem leads_of_guarded
    {claim : Option ClaimedRun}
    {node : WorkflowNode}
    {body : Session → WorkflowProgram Session}
    {session : Session}
    {world : WorkflowWorld}
    (stable :
      ∀ {earlier later : WorkflowWorld} {outcome},
        earlier.Grows later →
        invariant.Completed setup earlier node outcome →
        invariant.Completed setup later node outcome)
    (reports :
      ∀ later write,
        write.reports = true →
        invariant.permits setup claim later (.transact write))
    (skipped :
      session.state.status ≠ .running →
      invariant.Completed setup world node session)
    (runs :
      session.state.status = .running →
      ∀ later,
        world.Grows later →
        invariant.Leads setup claim node (body session.syncBudget)
          later) :
    invariant.Leads setup claim node (guarded body session) world := by
  unfold guarded
  split
  · rename_i stopped
    exact .done (skipped stopped)
  · rename_i running
    refine
      .bind
        (transact_keeps (fun later _ => reports later _ rfl)
          fun later grows => ?_)
    refine
      .bind
        ((runs (not_not.mp running) later grows).mono (fun _ _ => id) ?_
          (fun _ _ => id))
    intro outcome final completed
    exact
      .bind
        (transact_keeps (fun later _ => reports later _ rfl)
          fun last grown => .done (stable grown completed))

/-- What holds of every execution holds after one of them has moved. -/
theorem pointHolds_updated
    {world : WorkflowWorld}
    {executions : Nat → ExecutionPoint}
    {execution : Nat}
    {point : ExecutionPoint}
    (stand :
      ∀ other, invariant.PointHolds setup world (executions other))
    (stands : invariant.PointHolds setup world point)
    (other : Nat) :
    invariant.PointHolds setup world
      (Function.update executions execution point other) := by
  rw [Function.update_apply]
  split
  · exact stands
  · exact stand other

namespace Inductive

variable (kept : invariant.Inductive setup)

include kept

/-- What has grown keeps its checkpoints when the database is kept. -/
theorem holds_grown
    {world later : WorkflowWorld}
    (holds : invariant.Holds world)
    (grows : world.Grows later)
    (sameThread : later.thread = world.thread)
    (tables : invariant.tables later) :
    invariant.Holds later := by
  refine ⟨tables, ?_⟩
  intro checkpoint member
  rw [sameThread] at member
  exact kept.stableCheckpoint grows (holds.thread checkpoint member)

/-- A commit that keeps the database keeps the rest. -/
theorem holds_committed
    {world after : WorkflowWorld}
    {transaction : Transaction}
    (holds : invariant.Holds world)
    (committed : world.commit setup transaction = some after)
    (tables : invariant.tables after) :
    invariant.Holds after := by
  refine
    kept.holds_grown holds (WorkflowWorld.grows_of_commit committed) ?_
      tables
  obtain ⟨plane, -, rfl⟩ := WorkflowWorld.commit_eq_some.mp committed
  rfl

/-- A checkpoint that is as it should be may be saved. -/
theorem holds_pushed
    {world : WorkflowWorld}
    {checkpoint : Checkpoint}
    (holds : invariant.Holds world)
    (good : invariant.checkpoint world checkpoint) :
    invariant.Holds (world.push checkpoint) := by
  refine ⟨kept.pushed world checkpoint holds.tables, ?_⟩
  intro saved member
  have grows := WorkflowWorld.Grows.push world checkpoint
  rcases List.mem_cons.mp member with rfl | before
  · exact kept.stableCheckpoint grows good
  · exact kept.stableCheckpoint grows (holds.thread saved before)

/-- Where a node leads is where it leads after others have moved. -/
theorem completed_grown
    {world later : WorkflowWorld}
    {node : WorkflowNode}
    {session : Session}
    (grows : world.Grows later)
    (completed : invariant.Completed setup world node session) :
    invariant.Completed setup later node session where
  checkpoint := kept.stableCheckpoint grows completed.checkpoint
  process following follows :=
    kept.stableProcess grows (completed.process following follows)

/-- What holds of an execution holds after others have moved. -/
theorem pointHolds_grown
    {world later : WorkflowWorld}
    {point : ExecutionPoint}
    (grows : world.Grows later)
    (holds : invariant.PointHolds setup world point) :
    invariant.PointHolds setup later point := by
  cases point with
  | between attempt node session =>
      exact
        ⟨grows.thread _ holds.1, kept.stableProcess grows holds.2⟩
  | running attempt node rest =>
      exact
        Program.Keeps.disturbed holds
          (fun further interfered =>
            ⟨grows.trans interfered.1, interfered.2⟩)
          (fun session completed =>
            kept.completed_grown grows completed)
          (fun _ _ => trivial)
  | persisting attempt final =>
      obtain ⟨next, good⟩ := holds
      exact ⟨next, kept.stableCheckpoint grows good⟩
  | finishing attempt final =>
      exact kept.stablePersisted grows holds
  | _ =>
      trivial

/-- Serving a request that was to be expected keeps the invariant. -/
theorem holds_served
    {claim : Option ClaimedRun}
    {world after : WorkflowWorld}
    {request : WorkflowRequest}
    {answer : WorkflowAnswer request}
    (holds : invariant.Holds world)
    (permitted : invariant.permits setup claim world request)
    (served : setup.Serves claim world request answer after) :
    invariant.Holds after := by
  refine
    kept.holds_grown holds served.grows ?_
      (permitted holds answer after served)
  cases request with
  | transact write =>
      rcases served with ⟨_, -, rfl⟩ | ⟨-, current, committed⟩
      · rfl
      · obtain ⟨plane, -, rfl⟩ :=
          WorkflowWorld.commit_eq_some.mp committed
        rfl
  | persistArtifact artifact =>
      rcases served with ⟨_, -, rfl⟩ | ⟨current, id, -, persisted⟩
      · rfl
      · obtain ⟨plane, -, rfl⟩ :=
          WorkflowWorld.commit_eq_some.mp
            (WorkflowWorld.persistArtifact_eq_some.mp persisted).1
        rfl
  | freshId =>
      obtain ⟨-, rfl⟩ := served
      rfl
  | readSource =>
      obtain ⟨rfl, -⟩ := served
      rfl
  | runTests workspace attempt =>
      rcases served with ⟨_, -, rfl⟩ | ⟨exitCode, -, rfl⟩ <;> rfl
  | _ =>
      cases served
      rfl

/-- A step of an execution keeps the invariant, of the world and of itself. -/
theorem advances
    {world after : WorkflowWorld}
    {point next : ExecutionPoint}
    (holds : invariant.Holds world)
    (stands : invariant.PointHolds setup world point)
    (advances : setup.Advances world point after next) :
    invariant.Holds after ∧ invariant.PointHolds setup after next := by
  have grows := advances.grows
  cases advances with
  | @mark _ attempt current committed =>
      exact
        ⟨kept.holds_committed holds committed
            (kept.foreign holds
              (show
                Transaction.Foreign world.store
                  (.fenced attempt.claim current .markRunning) from
                trivial)
              committed),
          trivial⟩
  | begin fresh =>
      obtain ⟨good, process⟩ := kept.begins world
      exact
        ⟨kept.holds_pushed holds good, List.mem_cons_self,
          kept.stableProcess grows process⟩
  | recover recovers newest =>
      have member := List.mem_of_head? newest
      exact ⟨holds, member, kept.recovers (holds.thread _ member)⟩
  | recoverEnd recovers newest =>
      exact ⟨holds, _, holds.thread _ (List.mem_of_head? newest)⟩
  | enter attempt node session =>
      exact
        ⟨holds, kept.node attempt.claim holds stands.1 stands.2⟩
  | serve served =>
      obtain ⟨permitted, continues⟩ :=
        Program.Keeps.served stands ⟨.refl _, holds⟩ served
      exact ⟨kept.holds_served holds permitted served, continues⟩
  | @complete attempt node following session follows =>
      have completed := stands.returned
      have good := completed.checkpoint
      rw [follows] at good
      exact
        ⟨kept.holds_pushed holds good, List.mem_cons_self,
          kept.stableProcess grows
            (completed.process following follows)⟩
  | @last attempt node session ends noInterrupt =>
      have good := stands.returned.checkpoint
      rw [ends] at good
      exact
        ⟨kept.holds_pushed holds good, none,
          kept.stableCheckpoint grows good⟩
  | interrupt attempt session =>
      exact ⟨holds, _, stands.returned.checkpoint⟩
  | fail keepsLease =>
      exact ⟨holds, none, kept.failed world _⟩
  | overrun error =>
      exact ⟨holds, none, kept.failed world _⟩
  | persist committed =>
      obtain ⟨next, good⟩ := stands
      obtain ⟨tables, persisted⟩ :=
        kept.persists _ _ _ holds good committed
      exact
        ⟨kept.holds_committed holds committed tables, persisted⟩
  | finish committed =>
      exact
        ⟨kept.holds_committed holds committed
            (kept.finishes _ _ _ holds stands committed),
          trivial⟩

/-- A step keeps the invariant, of the world and of every execution. -/
theorem step
    {before after : WorkflowRuns}
    {action : WorkflowAction}
    (holds : invariant.Holds before.world)
    (stand :
      ∀ execution,
        invariant.PointHolds setup before.world
          (before.executions execution))
    (step : WorkflowStep setup before action after) :
    invariant.Holds after.world ∧
      ∀ execution,
        invariant.PointHolds setup after.world
          (after.executions execution) := by
  cases step with
  | committed commits foreign =>
      exact
        ⟨kept.holds_committed holds commits
            (kept.foreign holds foreign commits),
          fun execution =>
            kept.pointHolds_grown (WorkflowWorld.grows_of_commit commits)
              (stand execution)⟩
  | drifted seconds =>
      have grows := WorkflowWorld.Grows.tick before.world seconds
      exact
        ⟨kept.holds_grown holds grows rfl
            (kept.drifted _ seconds holds.tables),
          fun execution => kept.pointHolds_grown grows (stand execution)⟩
  | resumed pullRequest parked decided resumes =>
      have good :=
        kept.resumed pullRequest
          (holds.thread _ (List.mem_of_head? parked)) resumes
      exact
        ⟨kept.holds_pushed holds good,
          fun execution =>
            kept.pointHolds_grown (.push _ _) (stand execution)⟩
  | start idle starts =>
      exact ⟨holds, pointHolds_updated stand trivial⟩
  | advance advances =>
      obtain ⟨holdsAfter, stands⟩ :=
        kept.advances holds (stand _) advances
      exact
        ⟨holdsAfter,
          pointHolds_updated
            (fun other =>
              kept.pointHolds_grown advances.grows (stand other))
            stands⟩
  | stop execution =>
      exact ⟨holds, pointHolds_updated stand trivial⟩

/-- The invariant holds in every reachable state. -/
theorem reachable
    {runs : WorkflowRuns}
    (reached : (workflow setup).Reachable runs) :
    invariant.Holds runs.world ∧
      ∀ execution,
        invariant.PointHolds setup runs.world
          (runs.executions execution) := by
  induction reached with
  | initial begins =>
      obtain ⟨initial, idle⟩ := begins
      refine ⟨⟨kept.initial _ initial, ?_⟩, ?_⟩
      · rw [initial.noCheckpoint]
        exact fun _ member => absurd member List.not_mem_nil
      · intro execution
        rw [idle execution]
        trivial
  | step earlier last inductionHypothesis =>
      exact
        kept.step inductionHypothesis.1 inductionHypothesis.2 last

/-- What holds of every checkpoint holds of every state of the run. -/
theorem held
    {runs : WorkflowRuns}
    {state : AgentState}
    (persisted :
      ∀ world final,
        invariant.persisted world final →
        ∃ next, invariant.checkpoint world ⟨next, final⟩)
    (reached : (workflow setup).Reachable runs)
    (held : runs.Holds state) :
    ∃ next, invariant.checkpoint runs.world ⟨next, state⟩ := by
  obtain ⟨holds, stand⟩ := kept.reachable reached
  cases held with
  | @saved checkpoint member =>
      exact ⟨checkpoint.next, holds.thread checkpoint member⟩
  | @between execution attempt node session stands =>
      have point := stand execution
      rw [stands] at point
      exact ⟨some node, holds.thread _ point.1⟩
  | @returned execution attempt node session stands =>
      have point := stand execution
      rw [stands] at point
      exact ⟨_, (Program.Keeps.returned point).checkpoint⟩
  | @persisting execution attempt final stands =>
      have point := stand execution
      rw [stands] at point
      exact point
  | @finishing execution attempt final stands =>
      have point := stand execution
      rw [stands] at point
      exact persisted _ _ point

end Inductive

end WorkflowInvariant

end IncidentPilot
