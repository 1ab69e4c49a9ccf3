import IncidentPilot.RunLifecycle
import IncidentPilot.WorkflowGraph
import Mathlib.Logic.Function.Basic

/-!
# Executions of the workflow graph

`run_agent_workflow` with LangGraph's checkpoints, as a machine over the life of
the run.  An execution marks the run, enters the graph at its first node or at
the last checkpoint, runs one node after the other and checkpoints the state
after each, and at last persists what it has found and sets the status.  It may
die at every point, other executions may run at the same time, and everything
else that can happen to the run happens in between.  The advisory lock that
keeps two executions from the graph at once is left out: nothing below needs it.
-/

namespace IncidentPilot

/-- A checkpoint: the state, and the node that is to run next. -/
structure Checkpoint where
  next : Option WorkflowNode
  state : AgentState

/--
A finished test execution: the workspace it ran on, and the attempt it ran for.
-/
structure TestExecution where
  testRunId : Uuid
  workspace : Workspace
  attempt : Option PatchAttempt
  exitCode : Int

/--
What executions share: the database, the source of identifiers, the checkpoints
of the thread with the newest first, and a history of the test executions.
-/
structure WorkflowWorld where
  plane : ControlPlane
  nextId : Uuid
  thread : List Checkpoint
  testExecutions : List TestExecution

/-- What one deployment of the workflow is made of. -/
structure WorkflowSetup where
  tools : WorkflowTools
  settings : WorkflowSettings
  deployment : Deployment
  incident : IncidentFields
  contentAt : String → Files

/-- The store of the database. -/
abbrev WorkflowWorld.store (world : WorkflowWorld) : Store :=
  world.plane.store

/-- A checkpoint is saved. -/
def WorkflowWorld.push
    (world : WorkflowWorld)
    (checkpoint : Checkpoint) : WorkflowWorld :=
  { world with thread := checkpoint :: world.thread }

/-- What only grows while executions run. -/
structure WorkflowWorld.Grows (earlier later : WorkflowWorld) : Prop where
  store : earlier.store.Grows later.store
  runId : later.store.run.runId = earlier.store.run.runId
  nextId : earlier.nextId ≤ later.nextId
  thread : ∀ checkpoint ∈ earlier.thread, checkpoint ∈ later.thread
  testExecutions :
    ∀ execution ∈ earlier.testExecutions,
      execution ∈ later.testExecutions

namespace WorkflowWorld.Grows

/-- A world has grown from itself. -/
theorem refl (world : WorkflowWorld) :
    world.Grows world :=
  ⟨.refl _, rfl, Nat.le_refl _, fun _ => id, fun _ => id⟩

/-- Growth composes. -/
theorem trans
    {first second third : WorkflowWorld}
    (left : first.Grows second)
    (right : second.Grows third) :
    first.Grows third where
  store := left.store.trans right.store
  runId := right.runId.trans left.runId
  nextId := Nat.le_trans left.nextId right.nextId
  thread checkpoint member :=
    right.thread checkpoint (left.thread checkpoint member)
  testExecutions execution member :=
    right.testExecutions execution (left.testExecutions execution member)

/-- Saving a checkpoint is growth. -/
theorem push
    (world : WorkflowWorld)
    (checkpoint : Checkpoint) :
    world.Grows (world.push checkpoint) :=
  ⟨.refl _, rfl, Nat.le_refl _,
    fun _ => List.mem_cons_of_mem _, fun _ => id⟩

end WorkflowWorld.Grows

section

variable (setup : WorkflowSetup)

/-- A transaction commits. -/
def WorkflowWorld.commit
    (world : WorkflowWorld)
    (transaction : Transaction) : Option WorkflowWorld :=
  (world.plane.commit setup.tools.json.sha256 setup.deployment
    transaction).map fun plane => { world with plane := plane }

/-- The row that `_persist_patch_artifact_once` would insert. -/
def PatchArtifactData.row
    (artifact : PatchArtifactData)
    (runPk : String) : PatchArtifact where
  patchArtifactId := artifact.patchArtifactId
  runPk := runPk
  baseCommitSha := artifact.baseCommitSha
  patchDiff := artifact.patchDiff
  patchHash := artifact.patchHash
  testRunId := artifact.testRunId
  immutable := artifact.immutable

/-- The artifact is persisted, and its id is returned. -/
def WorkflowWorld.persistArtifact
    (world : WorkflowWorld)
    (claim : Option ClaimedRun)
    (current : Instant)
    (artifact : PatchArtifactData) : Option (Uuid × WorkflowWorld) := do
  let row := artifact.row world.store.run.id
  let after ←
    world.commit setup (.fenced claim current (.patchArtifact row))
  let persisted ← (persistPatchArtifactOnce row world.store).toOption
  some (persisted.2, after)

/--
How requests are served under a claim.  Transactions commit or raise, new
identifiers are new, a clean checkout has the content of its commit, a finished
test execution is remembered, and everyone else answers as they like.
-/
def WorkflowSetup.Serves
    (claim : Option ClaimedRun)
    (world : WorkflowWorld) :
    (request : WorkflowRequest) →
      WorkflowAnswer request → WorkflowWorld → Prop
  | .transact write => fun answer after =>
      (∃ error, answer = .error error ∧ after = world) ∨
        (answer = .ok () ∧
          ∃ current,
            world.commit setup (.fenced claim current write) = some after)
  | .persistArtifact artifact => fun answer after =>
      (∃ error, answer = .error error ∧ after = world) ∨
        ∃ current id,
          answer = .ok id ∧
            world.persistArtifact setup claim current artifact =
              some (id, after)
  | .freshId => fun answer after =>
      answer = world.nextId ∧
        after = { world with nextId := world.nextId + 1 }
  | .readSource => fun answer after =>
      after = world ∧
        ∀ checkout sha,
          answer = .ok checkout →
          checkout.head = some sha →
          checkout.dirty = false →
          checkout.files = setup.contentAt sha
  | .runTests workspace attempt => fun answer after =>
      (∃ message, answer = .error message ∧ after = world) ∨
        ∃ exitCode,
          answer = .ok ⟨exitCode, world.nextId⟩ ∧
            after =
              { world with
                nextId := world.nextId + 1
                testExecutions :=
                  ⟨world.nextId, workspace, attempt, exitCode⟩ ::
                    world.testExecutions }
  | _ => fun _ after => after = world

/-- The claim an execution runs under, and whether it recovers a checkpoint. -/
structure WorkflowAttempt where
  claim : Option ClaimedRun
  recover : Bool
  deriving DecidableEq

/-- Where an execution stands. -/
inductive ExecutionPoint where
  | idle
  | marking (attempt : WorkflowAttempt)
  | entering (attempt : WorkflowAttempt)
  | between
      (attempt : WorkflowAttempt)
      (node : WorkflowNode)
      (session : Session)
  | running
      (attempt : WorkflowAttempt)
      (node : WorkflowNode)
      (rest : WorkflowProgram Session)
  | persisting (attempt : WorkflowAttempt) (final : AgentState)
  | finishing (attempt : WorkflowAttempt) (final : AgentState)
  | ended

/-- The test rows that `run_agent_workflow` inserts for a final state. -/
def testRows
    (sha256 : String → String)
    (runPk : String)
    (final : AgentState) : List TestRun :=
  final.patchAttempts.filterMap fun attempt =>
    attempt.testRunId.map fun testRunId =>
      { testRunId := testRunId
        runPk := runPk
        status := if attempt.testOk = some true then .passed else .failed
        exitCode := attempt.testExitCode
        patchHash := hashPatch sha256 (attempt.patchDiff.getD "")
        baseCommitSha := attempt.baseCommitSha.getD "" }

/-- The columns of the run as `mark_running` has refreshed them. -/
structure RefreshedRun where
  plan : List String
  toolCallCount : Nat
  patchAttemptCount : Nat
  deriving DecidableEq

/-- What is loaded of a row. -/
def AgentRun.refreshed (run : AgentRun) : RefreshedRun where
  plan := run.plan
  toolCallCount := run.toolCallCount
  patchAttemptCount := run.patchAttemptCount

/-- The mapper sends a value only where it is not the loaded one. -/
def unlessLoaded
    {Column : Type}
    [DecidableEq Column]
    (loaded value : Column) : Option Column :=
  if value = loaded then none else some value

/-- What `run_agent_workflow` persists before it sets the status. -/
def investigationWrite
    (sha256 : String → String)
    (loaded : RefreshedRun)
    (runPk : String)
    (final : AgentState) : FencedWrite :=
  .investigation (testRows sha256 runPk final)
    (unlessLoaded loaded.plan final.plan)
    (unlessLoaded loaded.toolCallCount final.toolCalls.length)
    (unlessLoaded loaded.patchAttemptCount final.patchAttempts.length)

/-- The status change at the end of `run_agent_workflow`. -/
def finalChange (final : AgentState) (utcnow : Instant) : StatusChange where
  status := final.status
  workflowState := some final.workflowState
  error := final.error
  result := some final.result
  rootCause := final.rootCause
  finished :=
    decide
      (final.status ∈
        [.investigationComplete, .resolved, .insufficientEvidence,
          .needsHumanIntervention, .failed])
  utcnow := utcnow

/-- One step of an execution, with the world it changes. -/
inductive WorkflowSetup.Advances :
    WorkflowWorld → ExecutionPoint →
      WorkflowWorld → ExecutionPoint → Prop where
  | mark
      {world after : WorkflowWorld}
      {attempt : WorkflowAttempt}
      {current : Instant}
      (committed :
        world.commit setup
            (.fenced attempt.claim current .markRunning) =
          some after) :
      Advances world (.marking attempt) after (.entering attempt)
  | begin
      {world : WorkflowWorld}
      {attempt : WorkflowAttempt}
      (fresh : attempt.recover = false ∨ world.thread = []) :
      Advances world (.entering attempt)
        (world.push
          ⟨some .plan,
            initialState world.store.run.runId setup.incident⟩)
        (.between attempt .plan
          (setup.settings.enter
            (initialState world.store.run.runId setup.incident)))
  | recover
      {world : WorkflowWorld}
      {attempt : WorkflowAttempt}
      {node : WorkflowNode}
      {state : AgentState}
      (recovers : attempt.recover = true)
      (newest : world.thread.head? = some ⟨some node, state⟩) :
      Advances world (.entering attempt) world
        (.between attempt node (setup.settings.enter state))
  | recoverEnd
      {world : WorkflowWorld}
      {attempt : WorkflowAttempt}
      {state : AgentState}
      (recovers : attempt.recover = true)
      (newest : world.thread.head? = some ⟨none, state⟩) :
      Advances world (.entering attempt) world
        (.persisting attempt state)
  | enter
      (world : WorkflowWorld)
      (attempt : WorkflowAttempt)
      (node : WorkflowNode)
      (session : Session) :
      Advances world (.between attempt node session) world
        (.running attempt node
          (node.program setup.tools setup.settings session))
  | serve
      {world after : WorkflowWorld}
      {attempt : WorkflowAttempt}
      {node : WorkflowNode}
      {request : WorkflowRequest}
      {resume : WorkflowAnswer request → WorkflowProgram Session}
      {answer : WorkflowAnswer request}
      (served :
        setup.Serves attempt.claim world request answer after) :
      Advances world (.running attempt node (.ask request resume))
        after (.running attempt node (resume answer))
  | complete
      {world : WorkflowWorld}
      {attempt : WorkflowAttempt}
      {node following : WorkflowNode}
      {session : Session}
      (follows : node.next setup.settings session = some following) :
      Advances world (.running attempt node (.done session))
        (world.push ⟨some following, session.state⟩)
        (.between attempt following session)
  | last
      {world : WorkflowWorld}
      {attempt : WorkflowAttempt}
      {node : WorkflowNode}
      {session : Session}
      (ends : node.next setup.settings session = none)
      (noInterrupt : node ≠ .waitForApproval) :
      Advances world (.running attempt node (.done session))
        (world.push ⟨none, session.state⟩)
        (.persisting attempt session.state)
  | interrupt
      (world : WorkflowWorld)
      (attempt : WorkflowAttempt)
      (session : Session) :
      Advances world (.running attempt .waitForApproval (.done session))
        world (.persisting attempt session.state)
  | fail
      {world : WorkflowWorld}
      {attempt : WorkflowAttempt}
      {node : WorkflowNode}
      {error : GraphError}
      (keepsLease : ∀ message, error ≠ .run (.lostLease message)) :
      Advances world (.running attempt node (.raise error)) world
        (.persisting attempt
          (failedState world.store.run.runId setup.incident error))
  | overrun
      {world : WorkflowWorld}
      {attempt : WorkflowAttempt}
      {node : WorkflowNode}
      {session : Session}
      (error : GraphError) :
      Advances world (.between attempt node session) world
        (.persisting attempt
          (failedState world.store.run.runId setup.incident error))
  | persist
      {world after : WorkflowWorld}
      {attempt : WorkflowAttempt}
      {final : AgentState}
      {loaded : RefreshedRun}
      {current : Instant}
      (committed :
        world.commit setup
            (.fenced attempt.claim current
              (investigationWrite setup.tools.json.sha256 loaded
                world.store.run.id final)) =
          some after) :
      Advances world (.persisting attempt final) after
        (.finishing attempt final)
  | finish
      {world after : WorkflowWorld}
      {attempt : WorkflowAttempt}
      {final : AgentState}
      {current utcnow : Instant}
      (committed :
        world.commit setup
            (.fenced attempt.claim current
              (.markStatus .running (finalChange final utcnow))) =
          some after) :
      Advances world (.finishing attempt final) after .ended

/-- The run has a decision. -/
def Store.Decided (store : Store) : Prop :=
  ∃ approval, approval ∈ store.approvals ∧ approval.runPk = store.run.id

/--
What others may do to the run: everything but the writes of a workflow
execution.  Statuses are set by the worker and the executor, which halt a run,
and by `resume_after_approval`, which needs a decision.
-/
def Transaction.Foreign (store : Store) : Transaction → Prop
  | .fenced _ _ (.markStatus _ change) =>
      (change.result = none ∧
          (change.status = .failed ∨
            change.status = .needsHumanIntervention)) ∨
        (store.Decided ∧ change.status ≠ .waitingApproval)
  | .fenced _ _ (.investigation ..) => False
  | .fenced _ _ (.patchArtifact _) => False
  | _ => True

/-- The state that a resumed thread ends with. -/
def AgentState.resumed
    (state : AgentState)
    (status : AgentRunStatus)
    (pullRequest : Option PullRequest) : AgentState :=
  { state with
    status := status
    workflowState :=
      if status = .resolved then .resolved else .needsHumanIntervention
    result :=
      { state.result with
        pullRequest := pullRequest.or state.result.pullRequest } }

/-- The world, and where each execution stands. -/
structure WorkflowRuns where
  world : WorkflowWorld
  executions : Nat → ExecutionPoint

/-- The labels of the machine. -/
inductive WorkflowAction where
  | outside (action : RowLock.Action Transaction Nat)
  | resumed
  | start (execution : Nat) (attempt : WorkflowAttempt)
  | advance (execution : Nat)
  | stop (execution : Nat)

/--
An attempt may start: under a claim that was granted, or under none where the
process of the API executes runs itself.
-/
def WorkflowSetup.Starts
    (world : WorkflowWorld)
    (attempt : WorkflowAttempt) : Prop :=
  match attempt.claim with
  | some claim =>
      claim ∈ world.plane.granted ∧ attempt.recover = claim.recover
  | none => setup.deployment.embeddedWorkerEnabled = true

/-- The steps of the machine. -/
inductive WorkflowStep :
    WorkflowRuns → WorkflowAction → WorkflowRuns → Prop where
  | committed
      {runs : WorkflowRuns}
      {transaction : Transaction}
      {after : WorkflowWorld}
      (commits : runs.world.commit setup transaction = some after)
      (foreign : transaction.Foreign runs.world.store) :
      WorkflowStep runs (.outside (.commit transaction))
        { runs with world := after }
  | drifted (runs : WorkflowRuns) (seconds : Nat) :
      WorkflowStep runs (.outside (.drift seconds))
        { runs with
          world :=
            { runs.world with plane := runs.world.plane.tick seconds } }
  | resumed
      {runs : WorkflowRuns}
      {state : AgentState}
      {status : AgentRunStatus}
      (pullRequest : Option PullRequest)
      (parked :
        runs.world.thread.head? = some ⟨some .waitForApproval, state⟩)
      (decided : runs.world.store.Decided)
      (resumes : status ≠ .waitingApproval) :
      WorkflowStep runs .resumed
        { runs with
          world :=
            runs.world.push ⟨none, state.resumed status pullRequest⟩ }
  | start
      {runs : WorkflowRuns}
      {execution : Nat}
      {attempt : WorkflowAttempt}
      (idle : runs.executions execution = .idle)
      (starts : setup.Starts runs.world attempt) :
      WorkflowStep runs (.start execution attempt)
        { runs with
          executions :=
            Function.update runs.executions execution
              (.marking attempt) }
  | advance
      {runs : WorkflowRuns}
      {execution : Nat}
      {after : WorkflowWorld}
      {point : ExecutionPoint}
      (advances :
        setup.Advances runs.world (runs.executions execution) after
          point) :
      WorkflowStep runs (.advance execution)
        { world := after
          executions :=
            Function.update runs.executions execution point }
  | stop (runs : WorkflowRuns) (execution : Nat) :
      WorkflowStep runs (.stop execution)
        { runs with
          executions :=
            Function.update runs.executions execution .ended }

/-- A run just admitted, before any execution. -/
structure WorkflowWorld.Initial (world : WorkflowWorld) : Prop where
  plane : world.plane.Initial
  noCheckpoint : world.thread = []
  untested : world.testExecutions = []

/-- Executions of the workflow over the life of one run. -/
def workflow : Machine WorkflowRuns WorkflowAction where
  initial runs :=
    runs.world.Initial ∧ ∀ execution, runs.executions execution = .idle
  step := WorkflowStep setup

end

end IncidentPilot
