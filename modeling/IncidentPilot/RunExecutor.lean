import IncidentPilot.StatusTransitions
import IncidentPilot.StructuredOutput
import IncidentPilot.TerminalRuns
import IncidentPilot.WorkflowRequests
import IncidentPilot.WorkflowReplay

/-!
# The executor around the workflow

`RunExecutor.execute` runs `run_agent_workflow` under a timeout and hands the run
to a human when the timeout strikes or when a `StructuredOutputError` arrives.
But `_execute_graph` is in between: it turns every exception of the graph other
than a lost lease into a failed state, so that no such error ever arrives.
-/

namespace IncidentPilot

/-- The run is the one of a claim, and its lease is not over. -/
def WorkflowWorld.HoldsLease
    (claim : ClaimedRun)
    (world : WorkflowWorld) : Prop :=
  FenceHolds claim world.plane.clock world.store.run

instance
    (claim : ClaimedRun)
    (world : WorkflowWorld) :
    Decidable (world.HoldsLease claim) :=
  inferInstanceAs (Decidable (FenceHolds _ _ _))

/-- Where a call of `execute` stands. -/
inductive ExecutePoint where
  | working (point : ExecutionPoint)
  | halting (error : String)
  | marking (status : AgentRunStatus) (error : String)
  | returned
  | raised

/-- A call of `execute`, with the world it changes. -/
structure ExecuteState where
  world : WorkflowWorld
  point : ExecutePoint

/-- What may happen to a call of `execute`. -/
inductive ExecuteAction where
  | work
  | conclude
  | escape (error : GraphError)
  | timeout
  | load
  | mark
  | fail
  | outside (transaction : Transaction)
  | drift (seconds : Nat)

/--
The exceptions that leave `run_agent_workflow`.  Those of the graph are caught,
except for a lost lease; outside of the graph no model is asked.
-/
inductive ExecutionPoint.Escapes : ExecutionPoint → GraphError → Prop where
  | lostLease
      {attempt : WorkflowAttempt}
      {node : WorkflowNode}
      (message : String) :
      Escapes
        (.running attempt node (.raise (.run (.lostLease message))))
        (.run (.lostLease message))
  | aborted
      {point : ExecutionPoint}
      {error : GraphError}
      (outside :
        ∀ attempt node rest, point ≠ .running attempt node rest)
      (noModel : ∀ message, error ≠ .structuredOutput message) :
      Escapes point error

/-- The handlers of `execute` for an exception that is no timeout. -/
def caught : GraphError → ExecutePoint
  | .structuredOutput message => .halting message
  | _ => .raised

/-- An exception that is not the one of the model leaves `execute`. -/
theorem caught_eq_raised
    {error : GraphError}
    (noModel : ∀ message, error ≠ .structuredOutput message) :
    caught error = .raised := by
  cases error with
  | structuredOutput message => exact absurd rfl (noModel message)
  | _ => rfl

/-- The steps of a call of `execute` that nobody takes the lease from. -/
inductive ExecuteStep (setup : WorkflowSetup) (claim : ClaimedRun) :
    ExecuteState → ExecuteAction → ExecuteState → Prop where
  | work
      {world after : WorkflowWorld}
      {point next : ExecutionPoint}
      (advances : setup.Advances world point after next) :
      ExecuteStep setup claim ⟨world, .working point⟩ .work
        ⟨after, .working next⟩
  | conclude (world : WorkflowWorld) :
      ExecuteStep setup claim ⟨world, .working .ended⟩ .conclude
        ⟨world, .returned⟩
  | escape
      {world : WorkflowWorld}
      {point : ExecutionPoint}
      {error : GraphError}
      (escapes : point.Escapes error) :
      ExecuteStep setup claim ⟨world, .working point⟩ (.escape error)
        ⟨world, caught error⟩
  | timeout (world : WorkflowWorld) (point : ExecutionPoint) :
      ExecuteStep setup claim ⟨world, .working point⟩ .timeout
        ⟨world, .halting "run timeout budget exhausted"⟩
  | load (world : WorkflowWorld) (error : String) :
      ExecuteStep setup claim ⟨world, .halting error⟩ .load
        ⟨world,
          if .needsHumanIntervention ∈
              runTransitions world.store.run.status then
            .marking world.store.run.status error
          else
            .returned⟩
  | mark
      {world after : WorkflowWorld}
      {status : AgentRunStatus}
      {error : String}
      {current utcnow : Instant}
      (committed :
        world.commit setup
            (.fenced (some claim) current
              (.markStatus status
                (haltChange .needsHumanIntervention error utcnow))) =
          some after) :
      ExecuteStep setup claim ⟨world, .marking status error⟩ .mark
        ⟨after, .returned⟩
  | fail
      (world : WorkflowWorld)
      (status : AgentRunStatus)
      (error : String) :
      ExecuteStep setup claim ⟨world, .marking status error⟩ .fail
        ⟨world, .raised⟩
  | outside
      {world after : WorkflowWorld}
      {point : ExecutePoint}
      {transaction : Transaction}
      (commits : world.commit setup transaction = some after)
      (kept : world.HoldsLease claim → after.HoldsLease claim) :
      ExecuteStep setup claim ⟨world, point⟩ (.outside transaction)
        ⟨after, point⟩
  | drift
      {world : WorkflowWorld}
      {point : ExecutePoint}
      {seconds : Nat}
      (kept :
        world.HoldsLease claim →
        WorkflowWorld.HoldsLease claim
          { world with plane := world.plane.tick seconds }) :
      ExecuteStep setup claim ⟨world, point⟩ (.drift seconds)
        ⟨{ world with plane := world.plane.tick seconds }, point⟩

/-- A call of `execute` begins under a claim that holds its lease. -/
def ExecuteState.Begins
    (claim : ClaimedRun)
    (state : ExecuteState) : Prop :=
  state.world.HoldsLease claim ∧
    ∃ recover, state.point = .working (.marking ⟨some claim, recover⟩)

/-- Calls of `execute` under a claim. -/
def executor
    (setup : WorkflowSetup)
    (claim : ClaimedRun) : Machine ExecuteState ExecuteAction where
  initial := ExecuteState.Begins claim
  step := ExecuteStep setup claim

/-- A step in which a node is answered by a model that stayed invalid. -/
def ExhaustsModel
    (taken : Machine.Step ExecuteState ExecuteAction) : Prop :=
  ∃ attempt node request resume answer,
    taken.before.point =
        .working (.running attempt node (.ask request resume)) ∧
      taken.after.point =
        .working (.running attempt node (resume answer)) ∧
      ModelExhausted request answer

/-- A step in which the timeout strikes before the run has its last status. -/
def StrikesRunning
    (taken : Machine.Step ExecuteState ExecuteAction) : Prop :=
  taken.action = .timeout ∧
    taken.before.world.store.run.status = .running

/-- A write that leaves the status to others leaves the fence as it is. -/
theorem FencedWrite.apply_fenceHolds
    {write : FencedWrite}
    {store after : Store}
    {claim : ClaimedRun}
    {current : Instant}
    (keepsStatus :
      ∀ previousStatus change, write ≠ .markStatus previousStatus change)
    (applied : write.apply store = .ok after)
    (holds : FenceHolds claim current store.run) :
    FenceHolds claim current after.run := by
  cases applies_of_apply applied with
  | markRunning active =>
      obtain ⟨sameRun, owner, attempt, lease, -⟩ := holds
      exact ⟨sameRun, owner, attempt, lease, rfl⟩
  | @markStatus previousStatus change allowed same =>
      exact absurd rfl (keepsStatus previousStatus change)
  | _ =>
      exact holds

/-- A quiet write is none of the status. -/
theorem FencedWrite.reports_keepsStatus
    {write : FencedWrite}
    (reports : write.reports = true)
    (previousStatus : AgentRunStatus)
    (change : StatusChange) :
    write ≠ .markStatus previousStatus change := by
  rintro rfl
  cases reports

section

variable {setup : WorkflowSetup} {claim : ClaimedRun}

/-- What a fenced commit applied. -/
theorem WorkflowWorld.commit_fenced
    {world after : WorkflowWorld}
    {currentClaim : Option ClaimedRun}
    {current : Instant}
    {write : FencedWrite}
    (committed :
      world.commit setup (.fenced currentClaim current write) =
        some after) :
    write.apply world.store = .ok after.store := by
  have wrote :=
    Transaction.commitStore_eq_some.mp (commitStore_of_commit committed)
  exact wrote.2.2

/-- A commit takes no time. -/
theorem WorkflowWorld.commit_clock
    {world after : WorkflowWorld}
    {transaction : Transaction}
    (committed : world.commit setup transaction = some after) :
    after.plane.clock = world.plane.clock := by
  obtain ⟨plane, commits, rfl⟩ := commit_eq_some.mp committed
  exact (ControlPlane.commit_eq_some.mp commits).2.2.1

/-- A commit that leaves the status to others leaves the lease held. -/
theorem WorkflowWorld.HoldsLease.commit
    {world after : WorkflowWorld}
    {currentClaim : Option ClaimedRun}
    {current : Instant}
    {write : FencedWrite}
    (held : world.HoldsLease claim)
    (keepsStatus :
      ∀ previousStatus change, write ≠ .markStatus previousStatus change)
    (committed :
      world.commit setup (.fenced currentClaim current write) =
        some after) :
    after.HoldsLease claim := by
  unfold HoldsLease
  rw [commit_clock committed]
  exact
    FencedWrite.apply_fenceHolds keepsStatus (commit_fenced committed)
      held

/-- Serving a quiet request leaves the lease held. -/
theorem WorkflowWorld.HoldsLease.serve
    {world after : WorkflowWorld}
    {currentClaim : Option ClaimedRun}
    {request : WorkflowRequest}
    {answer : WorkflowAnswer request}
    (held : world.HoldsLease claim)
    (quiet : request.quiet = true)
    (served : setup.Serves currentClaim world request answer after) :
    after.HoldsLease claim := by
  cases request with
  | transact write =>
      rcases served with ⟨_, -, rfl⟩ | ⟨-, current, committed⟩
      · exact held
      · exact held.commit (FencedWrite.reports_keepsStatus quiet) committed
  | persistArtifact artifact =>
      rcases served with ⟨_, -, rfl⟩ | ⟨current, id, -, persisted⟩
      · exact held
      · exact
          held.commit (by simp)
            (WorkflowWorld.persistArtifact_eq_some.mp persisted).1
  | freshId =>
      obtain ⟨-, rfl⟩ := served
      exact held
  | readSource =>
      obtain ⟨rfl, -⟩ := served
      exact held
  | runTests workspace attempt =>
      rcases served with ⟨_, -, rfl⟩ | ⟨exitCode, -, rfl⟩
      · exact held
      · exact held
  | _ =>
      cases served
      exact held

/-- What a node still has to do is quiet and catches nothing. -/
def ExecutionPoint.Ordinary : ExecutionPoint → Prop
  | .running _ _ rest =>
      WorkflowProgram.Quiet rest ∧ WorkflowProgram.Uncaught rest
  | _ => True

/-- A move of the workflow stays ordinary. -/
theorem advances_ordinary
    {world after : WorkflowWorld}
    {point next : ExecutionPoint}
    (ordinary : point.Ordinary)
    (advances : setup.Advances world point after next) :
    next.Ordinary := by
  cases advances with
  | enter attempt node session =>
      exact
        ⟨node_quiet setup.tools setup.settings node session,
          node_uncaught setup.tools setup.settings node session⟩
  | serve served =>
      exact ⟨ordinary.1.2 _, (ordinary.2 _).2⟩
  | _ =>
      trivial

/-- Until it sets the status, the workflow leaves the lease held. -/
theorem advances_held
    {world after : WorkflowWorld}
    {point next : ExecutionPoint}
    (ordinary : point.Ordinary)
    (held : world.HoldsLease claim)
    (advances : setup.Advances world point after next)
    (unended : next ≠ .ended) :
    after.HoldsLease claim := by
  cases advances with
  | mark committed => exact held.commit (by simp) committed
  | begin fresh => exact held
  | recover recovers newest => exact held
  | recoverEnd recovers newest => exact held
  | enter attempt node session => exact held
  | serve served => exact held.serve ordinary.1.1 served
  | complete follows => exact held
  | last ends noInterrupt => exact held
  | interrupt attempt session => exact held
  | fail keepsLease => exact held
  | overrun error => exact held
  | persist committed =>
      exact held.commit (by simp [investigationWrite]) committed
  | finish committed => exact absurd rfl unended

/-- A call of `execute` whose model has not stayed invalid so far. -/
def BeforeExhaustion
    (claim : ClaimedRun)
    (struck : Prop)
    (state : ExecuteState) : Prop :=
  ∀ point,
    state.point = .working point →
    point.Ordinary ∧
      ¬ struck ∧
      (point ≠ .ended → state.world.HoldsLease claim)

/--
A call of `execute` whose model has stayed invalid: the failed state is on its
way, unless the timeout strikes first.
-/
inductive AfterExhaustion (claim : ClaimedRun) (struck : Prop) :
    ExecuteState → Prop where
  | raising
      {world : WorkflowWorld}
      {attempt : WorkflowAttempt}
      {node : WorkflowNode}
      (message : String)
      (held : world.HoldsLease claim)
      (early : ¬ struck) :
      AfterExhaustion claim struck
        ⟨world,
          .working
            (.running attempt node (.raise (.structuredOutput message)))⟩
  | persisting
      {world : WorkflowWorld}
      {attempt : WorkflowAttempt}
      {final : AgentState}
      (failed : final.status = .failed)
      (held : world.HoldsLease claim)
      (early : ¬ struck) :
      AfterExhaustion claim struck
        ⟨world, .working (.persisting attempt final)⟩
  | finishing
      {world : WorkflowWorld}
      {attempt : WorkflowAttempt}
      {final : AgentState}
      (failed : final.status = .failed)
      (held : world.HoldsLease claim)
      (early : ¬ struck) :
      AfterExhaustion claim struck
        ⟨world, .working (.finishing attempt final)⟩
  | ended
      {world : WorkflowWorld}
      (failed : world.store.run.status = .failed)
      (early : ¬ struck) :
      AfterExhaustion claim struck ⟨world, .working .ended⟩
  | halting
      {world : WorkflowWorld}
      (error : String)
      (held : world.HoldsLease claim)
      (late : struck) :
      AfterExhaustion claim struck ⟨world, .halting error⟩
  | overtaken
      {world : WorkflowWorld}
      (error : String)
      (failed : world.store.run.status = .failed)
      (early : ¬ struck) :
      AfterExhaustion claim struck ⟨world, .halting error⟩
  | marking
      {world : WorkflowWorld}
      (error : String)
      (held : world.HoldsLease claim)
      (late : struck) :
      AfterExhaustion claim struck ⟨world, .marking .running error⟩
  | handedOver
      {world : WorkflowWorld}
      (human : world.store.run.status = .needsHumanIntervention)
      (late : struck) :
      AfterExhaustion claim struck ⟨world, .returned⟩
  | failed
      {world : WorkflowWorld}
      (failed : world.store.run.status = .failed)
      (early : ¬ struck) :
      AfterExhaustion claim struck ⟨world, .returned⟩
  | raised (world : WorkflowWorld) :
      AfterExhaustion claim struck ⟨world, .raised⟩

/-- The status that a commit of a status mark leaves. -/
theorem commit_markStatus
    {world after : WorkflowWorld}
    {currentClaim : Option ClaimedRun}
    {current : Instant}
    {previousStatus : AgentRunStatus}
    {change : StatusChange}
    (committed :
      world.commit setup
          (.fenced currentClaim current
            (.markStatus previousStatus change)) =
        some after) :
    after.store.run.status = change.status := by
  obtain ⟨run, updated, same⟩ :=
    Except.map_eq_ok (WorkflowWorld.commit_fenced committed)
  obtain ⟨-, -, rfl⟩ := setStatus_eq_ok.mp updated
  rw [same, Store.withRun_run, StatusChange.apply_status]

/-- A terminal status outlasts the commits of others. -/
theorem commit_terminal
    {world after : WorkflowWorld}
    {transaction : Transaction}
    {status : AgentRunStatus}
    (terminal : status ∈ terminalRunStatuses)
    (stands : world.store.run.status = status)
    (committed : world.commit setup transaction = some after) :
    after.store.run.status = status := by
  have follows :=
    Transaction.commitStore_statusFollows
      (WorkflowWorld.commitStore_of_commit committed)
  subst stands
  exact follows.of_terminal terminal

/-- A held lease is one of a running run. -/
theorem WorkflowWorld.HoldsLease.running
    {world : WorkflowWorld}
    (held : world.HoldsLease claim) :
    world.store.run.status = .running :=
  held.2.2.2.2

/-- No timeout has struck yet when none strikes now. -/
theorem early_unless_timeout
    {struck : Prop}
    {taken : Machine.Step ExecuteState ExecuteAction}
    (early : ¬ struck)
    (untimed : taken.action ≠ .timeout) :
    ¬ (struck ∨ StrikesRunning taken) := by
  rintro (late | ⟨timed, -⟩)
  · exact early late
  · exact untimed timed

/-- One step before the model has stayed invalid. -/
theorem beforeExhaustion_step
    {struck : Prop}
    {before after : ExecuteState}
    {action : ExecuteAction}
    (stands : BeforeExhaustion claim struck before)
    (step : ExecuteStep setup claim before action after) :
    BeforeExhaustion claim
      (struck ∨ StrikesRunning ⟨before, action, after⟩) after := by
  cases step with
  | work advances =>
      rintro next ⟨⟩
      obtain ⟨ordinary, early, held⟩ := stands _ rfl
      refine ⟨advances_ordinary ordinary advances, ?_, ?_⟩
      · exact early_unless_timeout early nofun
      · intro unended
        refine advances_held ordinary (held ?_) advances unended
        rintro rfl
        cases advances
  | conclude world => rintro point ⟨⟩
  | escape escapes =>
      rintro point working
      rename_i error
      cases error <;> cases working
  | timeout world point => rintro point ⟨⟩
  | load world error =>
      intro point working
      dsimp only at working
      split at working <;> cases working
  | mark committed => rintro point ⟨⟩
  | fail world status error => rintro point ⟨⟩
  | outside commits kept =>
      rintro point working
      obtain ⟨ordinary, early, held⟩ := stands point working
      exact
        ⟨ordinary, early_unless_timeout early nofun,
          fun unended => kept (held unended)⟩
  | drift kept =>
      rintro point working
      obtain ⟨ordinary, early, held⟩ := stands point working
      exact
        ⟨ordinary, early_unless_timeout early nofun,
          fun unended => kept (held unended)⟩

/-- The step in which the model turns out to have stayed invalid. -/
theorem afterExhaustion_of_exhausts
    {struck : Prop}
    {before after : ExecuteState}
    {action : ExecuteAction}
    (stands : BeforeExhaustion claim struck before)
    (step : ExecuteStep setup claim before action after)
    (exhausts : ExhaustsModel ⟨before, action, after⟩) :
    AfterExhaustion claim
      (struck ∨ StrikesRunning ⟨before, action, after⟩) after := by
  obtain ⟨attempt, node, request, resume, answer, asking, answered,
    exhausted⟩ := exhausts
  obtain ⟨ordinary, -, -⟩ := stands _ asking
  have raises :=
    (ordinary.2 answer).1 _ (ModelExhausted.fails exhausted)
  obtain ⟨-, early, held⟩ :=
    beforeExhaustion_step stands step _ answered
  obtain ⟨world, point⟩ := after
  dsimp only at answered
  rw [raises] at answered
  subst answered
  exact .raising _ (held (by simp)) early

/-- What others do changes neither the stage nor a terminal status. -/
theorem AfterExhaustion.elsewhere
    {struck later : Prop}
    {world after : WorkflowWorld}
    {point : ExecutePoint}
    (stands : AfterExhaustion claim struck ⟨world, point⟩)
    (same : later ↔ struck)
    (kept : world.HoldsLease claim → after.HoldsLease claim)
    (lasts :
      ∀ status ∈ terminalRunStatuses,
        world.store.run.status = status →
        after.store.run.status = status) :
    AfterExhaustion claim later ⟨after, point⟩ := by
  rw [same]
  cases stands with
  | raising message held early =>
      exact .raising message (kept held) early
  | persisting failed held early =>
      exact .persisting failed (kept held) early
  | finishing failed held early =>
      exact .finishing failed (kept held) early
  | ended failed early =>
      exact .ended (lasts _ (by decide) failed) early
  | halting error held late =>
      exact .halting error (kept held) late
  | overtaken error failed early =>
      exact .overtaken error (lasts _ (by decide) failed) early
  | marking error held late =>
      exact .marking error (kept held) late
  | handedOver human late =>
      exact .handedOver (lasts _ (by decide) human) late
  | failed failed early =>
      exact .failed (lasts _ (by decide) failed) early
  | raised world =>
      exact .raised _

/-- One step after the model has stayed invalid. -/
theorem afterExhaustion_step
    {struck : Prop}
    {before after : ExecuteState}
    {action : ExecuteAction}
    (stands : AfterExhaustion claim struck before)
    (step : ExecuteStep setup claim before action after) :
    AfterExhaustion claim
      (struck ∨ StrikesRunning ⟨before, action, after⟩) after := by
  cases step with
  | work advances =>
      cases stands with
      | raising message held early =>
          cases advances with
          | fail keepsLease =>
              exact .persisting rfl held (early_unless_timeout early nofun)
      | persisting failed held early =>
          cases advances with
          | persist committed =>
              exact
                .finishing failed
                  (held.commit (by simp [investigationWrite]) committed)
                  (early_unless_timeout early nofun)
      | finishing failed held early =>
          cases advances with
          | finish committed =>
              exact
                .ended ((commit_markStatus committed).trans failed)
                  (early_unless_timeout early nofun)
      | ended failed early =>
          cases advances
  | conclude world =>
      cases stands with
      | ended failed early =>
          exact .failed failed (early_unless_timeout early nofun)
  | escape escapes =>
      cases escapes with
      | lostLease message => cases stands
      | aborted outside noModel =>
          rw [caught_eq_raised noModel]
          exact .raised _
  | timeout world point =>
      have running :
          world.HoldsLease claim →
          StrikesRunning
            ⟨⟨world, .working point⟩, .timeout,
              ⟨world, .halting "run timeout budget exhausted"⟩⟩ :=
        fun held => ⟨rfl, held.running⟩
      cases stands with
      | raising message held early =>
          exact .halting _ held (.inr (running held))
      | persisting failed held early =>
          exact .halting _ held (.inr (running held))
      | finishing failed held early =>
          exact .halting _ held (.inr (running held))
      | ended failed early =>
          refine .overtaken _ failed ?_
          rintro (late | ⟨-, stillRunning⟩)
          · exact early late
          · rw [failed] at stillRunning
            cases stillRunning
  | load world error =>
      cases stands with
      | halting error held late =>
          rw [held.running, if_pos (by decide)]
          exact .marking error held (.inl late)
      | overtaken error failed early =>
          rw [failed, if_neg (by decide)]
          exact .failed failed (early_unless_timeout early nofun)
  | mark committed =>
      cases stands with
      | marking error held late =>
          exact .handedOver (commit_markStatus committed) (.inl late)
  | fail world status error =>
      exact .raised world
  | outside commits kept =>
      refine stands.elsewhere ?_ kept ?_
      · exact or_iff_left fun strikes => nomatch strikes.1
      · intro status terminal same
        exact commit_terminal terminal same commits
  | drift kept =>
      refine stands.elsewhere ?_ kept fun _ _ same => same
      exact or_iff_left fun strikes => nomatch strikes.1

/-- Where a call of `execute` stands, with what has happened so far. -/
theorem exhaustion_of_run
    {start final : ExecuteState}
    {steps : List (Machine.Step ExecuteState ExecuteAction)}
    (begins : (executor setup claim).initial start)
    (run : (executor setup claim).Run start steps final) :
    ((∃ taken ∈ steps, ExhaustsModel taken) →
        AfterExhaustion claim (∃ taken ∈ steps, StrikesRunning taken)
          final) ∧
      ((¬ ∃ taken ∈ steps, ExhaustsModel taken) →
        BeforeExhaustion claim (∃ taken ∈ steps, StrikesRunning taken)
          final) := by
  induction run with
  | nil =>
      obtain ⟨held, recover, marks⟩ := begins
      refine ⟨by simp, fun _ point working => ?_⟩
      rw [marks] at working
      cases working
      exact ⟨trivial, by simp, fun _ => held⟩
  | @snoc middle final steps action earlier last inductionHypothesis =>
      obtain ⟨exhausted, unexhausted⟩ := inductionHypothesis
      simp only [List.mem_append, List.mem_singleton, or_and_right,
        exists_or, exists_eq_left]
      constructor
      · intro exhausts
        by_cases before : ∃ taken ∈ steps, ExhaustsModel taken
        · exact afterExhaustion_step (exhausted before) last
        · exact
            afterExhaustion_of_exhausts (unexhausted before) last
              (exhausts.resolve_left before)
      · intro none
        exact
          beforeExhaustion_step
            (unexhausted fun before => none (.inl before)) last

/-- A replay of the workflow is work of the executor. -/
theorem executor_run_of_replay
    {answers : Answers}
    {start : ExecuteState}
    {steps : List (Machine.Step ExecuteState ExecuteAction)}
    {world after : WorkflowWorld}
    {point next : ExecutionPoint}
    (moves : Nat)
    (clean : setup.SourceClean answers)
    (run :
      (executor setup claim).Run start steps ⟨world, .working point⟩)
    (replayed :
      setup.replay answers moves (world, point) = some (after, next)) :
    ∃ later,
      (executor setup claim).Run start (steps ++ later)
        ⟨after, .working next⟩ := by
  induction moves generalizing steps world point with
  | zero =>
      cases replayed
      exact ⟨[], by simpa using run⟩
  | succ moves inductionHypothesis =>
      obtain ⟨⟨middle, following⟩, advanced, rest⟩ :=
        Option.bind_eq_some_iff.mp replayed
      have works :
          (executor setup claim).step ⟨world, .working point⟩ .work
            ⟨middle, .working following⟩ :=
        .work (WorkflowSetup.advances_of_advanceAlone clean advanced)
      obtain ⟨later, goesOn⟩ := inductionHypothesis (run.snoc works) rest
      rw [List.append_assoc] at goesOn
      exact ⟨_, goesOn⟩

/--
When the model stays invalid in a node and `execute` returns, the run is with a
human if and only if the timeout struck before the run had its last status.
Otherwise it has failed: the exception has not come as far as its handler.
-/
theorem exhausted_output_goes_to_human_iff
    {start final : ExecuteState}
    {steps : List (Machine.Step ExecuteState ExecuteAction)}
    (begins : (executor setup claim).initial start)
    (run : (executor setup claim).Run start steps final)
    (exhausts : ∃ taken ∈ steps, ExhaustsModel taken)
    (returned : final.point = .returned) :
    (final.world.store.run.status = .needsHumanIntervention ↔
        ∃ taken ∈ steps, StrikesRunning taken) ∧
      ((¬ ∃ taken ∈ steps, StrikesRunning taken) →
        final.world.store.run.status = .failed) := by
  have stands := (exhaustion_of_run begins run).1 exhausts
  obtain ⟨world, point⟩ := final
  dsimp only at returned
  subst returned
  cases stands with
  | handedOver human late =>
      exact ⟨iff_of_true human late, fun early => absurd late early⟩
  | failed failed early =>
      refine ⟨iff_of_false ?_ early, fun _ => failed⟩
      dsimp only
      rw [failed]
      decide

end

/-- A model that never answers with an investigation plan. -/
def silentAnswers : Answers
  | .plan =>
      completeStructured (fun _ _ => .ok "no JSON")
        (fun _ => .error "Invalid JSON") []
  | request => appAnswers request

/-- The first claim on an admitted run. -/
def silentClaim : ClaimedRun :=
  (newRun "pk" "RUN-1" "INC-1" 0).claimOf "worker"

/-- The source is as clean for a silent model. -/
theorem silentAnswers_clean : appSetup.SourceClean silentAnswers :=
  appAnswers_clean

/-- The exception of a silent model. -/
def silentError : GraphError :=
  .structuredOutput "structured output invalid after 3 attempts"

/-- The execution asks for a plan, and fails once it has raised. -/
def failsSilently (asked : WorkflowWorld × ExecutionPoint) : Bool :=
  match asked.2 with
  | .running attempt .plan (.ask .plan _) =>
      let failed :=
        failedState asked.1.store.run.runId appSetup.incident silentError
      (appSetup.replay silentAnswers 2
        (asked.1, .persisting attempt failed)).any fun final =>
          decide (final.1.store.run.status = .failed) &&
            match final.2 with
            | .ended => true
            | _ => false
  | _ => false

/-- A silent model is asked for a plan on the fourth move. -/
theorem silent_moves :
    ∃ world asked,
      world.HoldsLease silentClaim ∧
        appSetup.replay silentAnswers 4
            (world, .marking ⟨some silentClaim, false⟩) =
          some asked ∧
        failsSilently asked = true := by
  have played :
      ((WorkflowRuns.admitted "pk" "RUN-1" "INC-1" 0).world.commit
        appSetup (.claimNextRun "worker" 0)).any
        (fun world =>
          decide (world.HoldsLease silentClaim) &&
            (appSetup.replay silentAnswers 4
              (world, .marking ⟨some silentClaim, false⟩)).any
              failsSilently) = true := by
    decide +kernel
  obtain ⟨world, -, checked⟩ := (Option.any_eq_true _ _).mp played
  obtain ⟨held, moved⟩ := Bool.and_eq_true_iff.mp checked
  obtain ⟨asked, replayed, fails⟩ := (Option.any_eq_true _ _).mp moved
  exact ⟨world, asked, of_decide_eq_true held, replayed, fails⟩

/-- A silent model stays invalid. -/
theorem silent_exhausted :
    ModelExhausted .plan (silentAnswers .plan) :=
  ⟨fun _ _ => .ok "no JSON", fun _ => .error "Invalid JSON", [],
    ⟨_, _, rfl, rfl, _, _, rfl, rfl, _, _, rfl, rfl, trivial⟩, rfl⟩

/-- An execution whose model stays silent returns with a failed run. -/
theorem silent_run :
    ∃ start steps final,
      (executor appSetup silentClaim).initial start ∧
        (executor appSetup silentClaim).Run start steps final ∧
        (∃ taken ∈ steps, ExhaustsModel taken) ∧
        final.point = .returned ∧
        final.world.store.run.status = .failed := by
  obtain ⟨world, ⟨asking, point⟩, held, replayed, fails⟩ := silent_moves
  have begins :
      (executor appSetup silentClaim).initial
        ⟨world, .working (.marking ⟨some silentClaim, false⟩)⟩ :=
    ⟨held, false, rfl⟩
  obtain ⟨steps, run⟩ :=
    executor_run_of_replay 4 silentAnswers_clean (.nil _) replayed
  rw [List.nil_append] at run
  unfold failsSilently at fails
  dsimp only at fails
  split at fails
  · rename_i attempt resume
    obtain ⟨⟨final, point⟩, ended, checked⟩ :=
      (Option.any_eq_true _ _).mp fails
    obtain ⟨failed, last⟩ := Bool.and_eq_true_iff.mp checked
    have raises : resume (silentAnswers .plan) = .raise silentError := by
      by_cases before : ∃ taken ∈ steps, ExhaustsModel taken
      · have stands := (exhaustion_of_run begins run).1 before
        cases stands
      · obtain ⟨ordinary, -, -⟩ :=
          (exhaustion_of_run begins run).2 before _ rfl
        exact
          (ordinary.2 _).1 _ (ModelExhausted.fails silent_exhausted)
    have answered :
        (executor appSetup silentClaim).step
          ⟨asking, .working (.running attempt .plan (.ask .plan resume))⟩
          .work
          ⟨asking,
            .working
              (.running attempt .plan (resume (silentAnswers .plan)))⟩ :=
      .work (.serve rfl)
    have failing :
        (executor appSetup silentClaim).step
          ⟨asking,
            .working
              (.running attempt .plan (resume (silentAnswers .plan)))⟩
          .work
          ⟨asking,
            .working
              (.persisting attempt
                (failedState asking.store.run.runId appSetup.incident
                  silentError))⟩ := by
      rw [raises]
      exact .work (.fail (by simp [silentError]))
    obtain ⟨later, goesOn⟩ :=
      executor_run_of_replay 2 silentAnswers_clean
        ((run.snoc answered).snoc failing) ended
    cases point with
    | ended =>
        have exhausts :
            ExhaustsModel
              ⟨⟨asking,
                  .working (.running attempt .plan (.ask .plan resume))⟩,
                .work,
                ⟨asking,
                  .working
                    (.running attempt .plan
                      (resume (silentAnswers .plan)))⟩⟩ :=
          ⟨attempt, .plan, .plan, resume, silentAnswers .plan, rfl, rfl,
            silent_exhausted⟩
        exact
          ⟨_, _, _, begins, goesOn.snoc (.conclude final),
            ⟨_, by simp, exhausts⟩, rfl, of_decide_eq_true failed⟩
    | _ => cases last
  · cases fails

/-- The failed run of a silent model is with a human only after a timeout. -/
theorem exhausted_output_goes_to_human_iff_silent :
    ∃ start steps final,
      (executor appSetup silentClaim).Run start steps final ∧
        final.world.store.run.status = .failed ∧
        (final.world.store.run.status = .needsHumanIntervention ↔
          ∃ taken ∈ steps, StrikesRunning taken) := by
  obtain ⟨start, steps, final, begins, run, exhausts, returned, failed⟩ :=
    silent_run
  exact
    ⟨start, steps, final, run, failed,
      (exhausted_output_goes_to_human_iff begins run exhausts returned).1⟩

/-- A model that stays invalid does not always bring the run to a human. -/
theorem exhausted_output_fails_run :
    ¬ ∀ start steps final,
      (executor appSetup silentClaim).initial start →
        (executor appSetup silentClaim).Run start steps final →
        (∃ taken ∈ steps, ExhaustsModel taken) →
        final.point = .returned →
        final.world.store.run.status = .needsHumanIntervention := by
  intro always
  obtain ⟨start, steps, final, begins, run, exhausts, returned, failed⟩ :=
    silent_run
  have human := always start steps final begins run exhausts returned
  rw [failed] at human
  cases human

end IncidentPilot
