import IncidentPilot.WorkflowInvariant

/-!
# The tool calls that the guard reports

After each node its guard writes the number of tool calls of the outcome to the
row of the run; no other request of a node changes that number.  So a node that
ends leaves the number of the state it ends with, or the one that it found.
-/

namespace IncidentPilot

/-- The write sets the count of tool calls. -/
def FencedWrite.counts : FencedWrite → Bool
  | .progress .. => true
  | .investigation .. => true
  | _ => false

/-- The transaction sets the count of tool calls. -/
def Transaction.counts : Transaction → Bool
  | .fenced _ _ write => write.counts
  | _ => false

/-- The other transactions keep the count. -/
theorem Transaction.commitStore_toolCallCount
    {sha256 : String → String}
    {deployment : Deployment}
    {store after : Store}
    {transaction : Transaction}
    (other : transaction.counts = false)
    (committed :
      transaction.commitStore sha256 deployment store = some after) :
    after.run.toolCallCount = store.run.toolCallCount := by
  cases commits_of_commitStore committed with
  | retryClaim sameRun running owner held attempt =>
      rw [Store.withRun_run]
      unfold AgentRun.retried
      split <;> rfl
  | fenced underClaim passed applied =>
      cases FencedWrite.applies_of_apply applied with
      | @markStatus previousStatus change allowed same =>
          show (change.apply store.run).toolCallCount = _
          unfold StatusChange.apply
          split <;> rfl
      | progress => cases other
      | investigation => cases other
      | _ => rfl
  | _ =>
      rfl

/-- The count of the row once a request of a node is answered. -/
def WorkflowRequest.reported (count : Nat) :
    (request : WorkflowRequest) → WorkflowAnswer request → Nat
  | .transact (.progress _ _ toolCallCount) => fun answer =>
      match answer with
      | .ok () => toolCallCount
      | .error _ => count
  | _ => fun _ => count

/-- What is silent reports nothing. -/
theorem WorkflowRequest.reported_of_silent
    {request : WorkflowRequest}
    (silent : request.silent = true)
    (count : Nat)
    (answer : WorkflowAnswer request) :
    request.reported count answer = count := by
  cases request with
  | transact write => cases silent
  | _ => rfl

/-- Of what the guard asks, only the report sets the count. -/
theorem WorkflowSetup.Serves.reported
    {setup : WorkflowSetup}
    {claim : Option ClaimedRun}
    {world after : WorkflowWorld}
    {request : WorkflowRequest}
    {answer : WorkflowAnswer request}
    (quiet : request.quiet = true)
    (served : setup.Serves claim world request answer after) :
    after.store.run.toolCallCount =
      request.reported world.store.run.toolCallCount answer := by
  cases request with
  | transact write =>
      rcases served with ⟨error, rfl, rfl⟩ | ⟨rfl, current, committed⟩
      · cases write <;> rfl
      · have wrote := WorkflowWorld.commitStore_of_commit committed
        cases write with
        | check => exact Transaction.commitStore_toolCallCount rfl wrote
        | progress workflowState plan toolCallCount =>
            obtain ⟨-, -, applied⟩ :=
              Transaction.commitStore_eq_some.mp wrote
            have written := Except.ok.inj applied
            exact congrArg (fun store => store.run.toolCallCount)
              written.symm
        | _ => cases quiet
  | persistArtifact artifact =>
      rcases served with ⟨_, -, rfl⟩ | ⟨current, id, -, persisted⟩
      · rfl
      · have committed :=
          (WorkflowWorld.persistArtifact_eq_some.mp persisted).1
        exact
          Transaction.commitStore_toolCallCount rfl
            (WorkflowWorld.commitStore_of_commit committed)
  | freshId =>
      obtain ⟨-, rfl⟩ := served
      rfl
  | readSource =>
      obtain ⟨rfl, -⟩ := served
      rfl
  | runTests workspace attempt =>
      rcases served with ⟨_, -, rfl⟩ | ⟨exitCode, -, rfl⟩ <;> rfl
  | _ =>
      cases served
      rfl

/-- Whenever a program ends, the count is what was found or what it reports. -/
def WorkflowProgram.Reports (found : Nat) :
    WorkflowProgram Session → Nat → Prop
  | .done session, count =>
      count = found ∨ count = session.state.toolCalls.length
  | .raise _, _ => True
  | .ask request resume, count =>
      request.quiet = true ∧
        ∀ answer,
          WorkflowProgram.Reports found (resume answer)
            (request.reported count answer)

/-- What is silent leaves the report to what comes after it. -/
theorem WorkflowProgram.Silent.reports
    {Value : Type}
    {found count : Nat}
    {program : WorkflowProgram Value}
    {next : Value → WorkflowProgram Session}
    (silent : WorkflowProgram.Silent program)
    (reports :
      ∀ value, WorkflowProgram.Reports found (next value) count) :
    WorkflowProgram.Reports found (program >>= next) count := by
  change WorkflowProgram.Reports found (Program.bind next program) count
  induction program with
  | done value =>
      exact reports value
  | raise error =>
      trivial
  | ask request resume inductionHypothesis =>
      obtain ⟨asked, others⟩ := silent
      refine ⟨request.quiet_of_silent asked, fun answer => ?_⟩
      rw [request.reported_of_silent asked]
      exact inductionHypothesis answer (others answer)

/-- The guard reports the outcome of its node. -/
theorem guarded_reports
    {node : Session → WorkflowProgram Session}
    {session : Session}
    {found count : Nat}
    (silent : ∀ session, WorkflowProgram.Silent (node session))
    (counted :
      count = found ∨ count = session.state.toolCalls.length) :
    WorkflowProgram.Reports found (guarded node session) count := by
  unfold guarded
  split
  · exact counted
  · refine ⟨rfl, fun checked => ?_⟩
    cases checked with
    | error error =>
        trivial
    | ok _ =>
        refine (silent session.syncBudget).reports fun outcome => ?_
        refine ⟨rfl, fun answer => ?_⟩
        cases answer with
        | error error =>
            trivial
        | ok _ =>
            exact .inr rfl

/-- Every node reports its outcome, or leaves what it found. -/
theorem node_reports
    (tools : WorkflowTools)
    (settings : WorkflowSettings)
    (node : WorkflowNode)
    {session : Session}
    {found count : Nat}
    (counted :
      count = found ∨ count = session.state.toolCalls.length) :
    WorkflowProgram.Reports found (node.program tools settings session)
      count := by
  by_cases interrupts : node = .waitForApproval
  · subst interrupts
    refine ⟨rfl, fun checked => ?_⟩
    cases checked with
    | error error =>
        trivial
    | ok _ =>
        exact counted
  · obtain ⟨body, same, silent⟩ :=
      node_guarded tools settings node interrupts
    rw [same]
    exact guarded_reports silent counted

end IncidentPilot
