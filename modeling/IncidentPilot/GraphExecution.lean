import IncidentPilot.Investigation
import IncidentPilot.Library.Answers
import IncidentPilot.Library.Machine

/-!
# The graph from node to node

One execution of the graph as a machine whose step is the execution of a whole
node.  A process may be lost at a node boundary, where another one recovers the
checkpoint, and an exception may leave a node, where `_execute_graph` goes on
with a failed state.
-/

namespace IncidentPilot

/-- The node that is to run next, and what the process has in hand. -/
structure GraphPoint where
  next : Option WorkflowNode
  session : Session

/-- What happens at a node boundary. -/
inductive GraphAction where
  | ran
      (node : WorkflowNode)
      (answered : List (Program.Answered WorkflowRequest WorkflowAnswer))
  | lost
  | raised (error : GraphError)

/-- The point a node leads to. -/
def WorkflowNode.leadsTo
    (node : WorkflowNode)
    (settings : WorkflowSettings)
    (session : Session) : GraphPoint :=
  ⟨node.next settings session, session⟩

/-- A deployment of the graph for one run. -/
structure GraphSetup where
  tools : WorkflowTools
  settings : WorkflowSettings
  runId : String
  incident : IncidentFields

/-- One step of an execution of the graph. -/
inductive GraphStep (setup : GraphSetup) :
    GraphPoint → GraphAction → GraphPoint → Prop where
  | ran
      {node : WorkflowNode}
      {session after : Session}
      {answered :
        List (Program.Answered WorkflowRequest WorkflowAnswer)}
      (returns :
        (node.program setup.tools setup.settings session).Returns
          answered after) :
      GraphStep setup ⟨some node, session⟩ (.ran node answered)
        (node.leadsTo setup.settings after)
  | lost (node : WorkflowNode) (session : Session) :
      GraphStep setup ⟨some node, session⟩ .lost
        ⟨some node, setup.settings.enter session.state⟩
  | raised
      (node : WorkflowNode)
      (session : Session)
      (error : GraphError) :
      GraphStep setup ⟨some node, session⟩ (.raised error)
        ⟨none,
          session.withState
            (failedState setup.runId setup.incident error)⟩

/-- Where an execution of the graph starts. -/
def GraphSetup.start (setup : GraphSetup) : GraphPoint :=
  ⟨some .plan,
    setup.settings.enter (initialState setup.runId setup.incident)⟩

/-- Executions of the graph. -/
def graph (setup : GraphSetup) : Machine GraphPoint GraphAction where
  initial point := point = setup.start
  step := GraphStep setup

/-- A step that executes a node to its end. -/
def GraphAction.Executes : GraphAction → Prop
  | .ran _ _ => True
  | .lost => False
  | .raised _ => False

instance : DecidablePred GraphAction.Executes
  | .ran _ _ => inferInstanceAs (Decidable True)
  | .lost => inferInstanceAs (Decidable False)
  | .raised _ => inferInstanceAs (Decidable False)

/-- A guarded node runs, or its session is returned as it was. -/
theorem guarded_alwaysUnder
    {allowed :
      (request : WorkflowRequest) → WorkflowAnswer request → Prop}
    {node : Session → WorkflowProgram Session}
    {session : Session}
    {holds : Session → Prop}
    (skipped : session.state.status ≠ .running → holds session)
    (runs :
      session.state.status = .running →
      (node session.syncBudget).AlwaysUnder allowed holds) :
    (guarded node session).AlwaysUnder allowed holds := by
  unfold guarded
  split
  · rename_i stopped
    exact skipped stopped
  · rename_i running
    refine
      .bind (.of_always ((Program.Always.trivially _).mono fun _ _ => ?_))
    refine .bind ((runs (not_not.mp running)).mono ?_)
    intro outcome good
    exact
      .bind
        (.of_always ((Program.Always.trivially _).mono fun _ _ => good))

/-- What an execution that is replayed does next. -/
inductive GraphMove where
  | node
  | lose
  deriving DecidableEq

/-- The answers of everyone outside, with new identifiers counted. -/
def serveCounted
    (answers : (request : WorkflowRequest) → WorkflowAnswer request)
    (count : Nat) :
    (request : WorkflowRequest) → WorkflowAnswer request × Nat
  | .freshId => (count, count + 1)
  | .plan => (answers .plan, count)
  | .nextAction evidence => (answers (.nextAction evidence), count)
  | .proposeHypothesis evidence =>
      (answers (.proposeHypothesis evidence), count)
  | .directConclusion evidence =>
      (answers (.directConclusion evidence), count)
  | .verificationAction evidence proposal =>
      (answers (.verificationAction evidence proposal), count)
  | .verify proposal evidence =>
      (answers (.verify proposal evidence), count)
  | .conclude proposal evidence =>
      (answers (.conclude proposal evidence), count)
  | .patch rootCause evidence previousAttempts =>
      (answers (.patch rootCause evidence previousAttempts), count)
  | .invokeTool name arguments =>
      (answers (.invokeTool name arguments), count)
  | .readSource => (answers .readSource, count)
  | .patchFault files patchDiff =>
      (answers (.patchFault files patchDiff), count)
  | .runTests workspace attempt =>
      (answers (.runTests workspace attempt), count)
  | .transact write => (answers (.transact write), count)
  | .persistArtifact artifact =>
      (answers (.persistArtifact artifact), count)

/-- An execution that is replayed: its steps, where it stands, and the count. -/
structure GraphReplay where
  steps : List (Machine.Step GraphPoint GraphAction)
  point : GraphPoint
  count : Nat

section

variable (setup : GraphSetup)
variable (answers : (request : WorkflowRequest) → WorkflowAnswer request)

/-- An execution goes on by another step. -/
def GraphReplay.step
    (replay : GraphReplay)
    (action : GraphAction)
    (after : GraphPoint)
    (count : Nat) : GraphReplay where
  steps := replay.steps ++ [⟨replay.point, action, after⟩]
  point := after
  count := count

/-- One move of an execution that is replayed. -/
def GraphSetup.move
    (replay : GraphReplay)
    (move : GraphMove) : Option GraphReplay :=
  match replay.point.next with
  | none => none
  | some node =>
      match move with
      | .lose =>
          some
            (replay.step .lost
              ⟨some node,
                setup.settings.enter replay.point.session.state⟩
              replay.count)
      | .node =>
          ((node.program setup.tools setup.settings
            replay.point.session).converse (serveCounted answers)
              replay.count).map fun ended =>
                replay.step (.ran node ended.1)
                  (node.leadsTo setup.settings ended.2.1) ended.2.2

/-- The moves of an execution that is replayed from the start. -/
def GraphSetup.replay (moves : List GraphMove) : Option GraphReplay :=
  moves.foldlM (setup.move answers) ⟨[], setup.start, 0⟩

variable {setup} {answers}

/-- A move that is replayed is a step. -/
theorem GraphSetup.run_of_move
    {start : GraphPoint}
    {replay after : GraphReplay}
    {move : GraphMove}
    (run : (graph setup).Run start replay.steps replay.point)
    (moved : setup.move answers replay move = some after) :
    (graph setup).Run start after.steps after.point := by
  obtain ⟨steps, ⟨next, session⟩, count⟩ := replay
  unfold GraphSetup.move at moved
  split at moved
  · cases moved
  · rename_i node follows
    dsimp only at follows
    subst follows
    cases move with
    | lose =>
        cases moved
        exact run.snoc (GraphStep.lost node session)
    | node =>
        obtain ⟨⟨answered, ended, last⟩, conversed, ⟨⟩⟩ :=
          Option.map_eq_some_iff.mp moved
        exact
          run.snoc
            (GraphStep.ran (Program.returns_of_converse conversed))

/-- What is replayed is an execution. -/
theorem GraphSetup.run_of_replay
    {moves : List GraphMove}
    {replayed : GraphReplay}
    (replays : setup.replay answers moves = some replayed) :
    (graph setup).Run setup.start replayed.steps replayed.point := by
  have goesOn :
      ∀ {replay : GraphReplay},
        (graph setup).Run setup.start replay.steps replay.point →
        moves.foldlM (setup.move answers) replay = some replayed →
        (graph setup).Run setup.start replayed.steps
          replayed.point := by
    clear replays
    induction moves with
    | nil =>
        rintro replay run ⟨⟩
        exact run
    | cons move rest inductionHypothesis =>
        intro replay run replays
        obtain ⟨middle, moved, others⟩ :=
          Option.bind_eq_some_iff.mp replays
        exact inductionHypothesis (run_of_move run moved) others
  exact goesOn (.nil _) replays

end

end IncidentPilot
