import IncidentPilot.ApprovalResume
import IncidentPilot.WorkflowExecution

/-!
# Terminal runs and the fields they close

A run with a terminal status is to have its end recorded and no lease left.  The
writers that make a run terminal set these fields by hand, each in its own
`UPDATE`; the decision of a human is the one that leaves `finished_at` out.
-/

namespace IncidentPilot

/-- The status change of `RunExecutor._halt`. -/
def haltChange
    (target : AgentRunStatus)
    (error : String)
    (utcnow : Instant) : StatusChange where
  status := target
  workflowState :=
    some
      (if target = .failed then .failed else .needsHumanIntervention)
  error := some (String.ofList (error.toList.take 2000))
  finished := true
  utcnow := utcnow

/--
The `mark_status` calls of `run_agent_workflow`, of `RunExecutor._halt` and of
`resume_after_approval`.
-/
inductive StatusChange.OfRun : StatusChange → Prop where
  | final (final : AgentState) (utcnow : Instant) :
      OfRun (finalChange final utcnow)
  | halted (target : AgentRunStatus) (error : String) (utcnow : Instant) :
      OfRun (haltChange target error utcnow)
  | rejected (utcnow : Instant) :
      OfRun (rejectedChange utcnow)
  | creating (utcnow : Instant) :
      OfRun (creatingChange utcnow)
  | failed (error : String) (utcnow : Instant) :
      OfRun (failedChange error utcnow)
  | resolved
      (loaded : LoadedRun)
      (pullRequest : Option PullRequest)
      (utcnow : Instant) :
      OfRun (resolvedChange loaded pullRequest utcnow)

/-- Each of these calls that makes a run terminal finishes it. -/
theorem StatusChange.OfRun.finishes
    {change : StatusChange}
    (ofRun : change.OfRun)
    (terminal : change.status ∈ terminalRunStatuses) :
    change.finished = true := by
  cases ofRun with
  | final final utcnow =>
      exact decide_eq_true terminal
  | creating utcnow =>
      have running : AgentRunStatus.running ∈ terminalRunStatuses :=
        terminal
      exact absurd running (by decide)
  | halted => rfl
  | rejected => rfl
  | failed => rfl
  | resolved => rfl

/-- The transactions whose status changes are these calls. -/
def Transaction.OfRun : Transaction → Prop
  | .fenced _ _ (.markStatus _ change) => change.OfRun
  | _ => True

/-- A decision that rejects the patch. -/
def Transaction.Rejects : Transaction → Prop
  | .decide _ request _ _ => request.decision = .reject
  | _ => False

/-- The steps of these writers, and of the clock. -/
def OfRun : RowLock.Action Transaction Nat → Prop
  | .commit transaction => transaction.OfRun
  | .drift _ => True

/-- A step that commits a rejection. -/
def Rejects : RowLock.Action Transaction Nat → Prop
  | .commit transaction => transaction.Rejects
  | .drift _ => False

namespace AgentRun

/-- The end of the run is recorded, and nothing of a lease is left. -/
structure Closed (run : AgentRun) : Prop where
  finishedAt : run.finishedAt ≠ none
  unleased : run.Unleased

/-- A run with a terminal status is closed. -/
def ClosedWhenTerminal (run : AgentRun) : Prop :=
  run.status ∈ terminalRunStatuses → run.Closed

/-- A run that is not terminal has nothing to be closed. -/
theorem closedWhenTerminal_of_open
    {run : AgentRun}
    (isOpen : run.status ∉ terminalRunStatuses) :
    run.ClosedWhenTerminal :=
  fun terminal => absurd terminal isOpen

/-- A row with the same status and the same fields is as closed. -/
theorem ClosedWhenTerminal.kept
    {run after : AgentRun}
    (closed : run.ClosedWhenTerminal)
    (status : after.status = run.status)
    (finishedAt : after.finishedAt = run.finishedAt)
    (workerId : after.workerId = run.workerId)
    (leaseExpiresAt : after.leaseExpiresAt = run.leaseExpiresAt)
    (lastHeartbeatAt : after.lastHeartbeatAt = run.lastHeartbeatAt) :
    after.ClosedWhenTerminal := by
  intro terminal
  rw [status] at terminal
  obtain ⟨finished, unleased⟩ := closed terminal
  constructor
  · rw [finishedAt]
    exact finished
  · constructor
    · exact workerId.trans unleased.workerId
    · exact leaseExpiresAt.trans unleased.leaseExpiresAt
    · exact lastHeartbeatAt.trans unleased.lastHeartbeatAt

end AgentRun

/-- A status change that finishes what it makes terminal closes the run. -/
theorem StatusChange.apply_closes
    {change : StatusChange}
    {run : AgentRun}
    (finishes :
      change.status ∈ terminalRunStatuses → change.finished = true) :
    (change.apply run).ClosedWhenTerminal := by
  intro terminal
  rw [StatusChange.apply_status] at terminal
  unfold StatusChange.apply
  rw [if_pos (finishes terminal)]
  exact ⟨nofun, ⟨rfl, rfl, rfl⟩⟩

/-- A fenced write of these writers keeps terminal runs closed. -/
theorem FencedWrite.apply_closedWhenTerminal
    {write : FencedWrite}
    {currentClaim : Option ClaimedRun}
    {current : Instant}
    {store after : Store}
    (ofRun : (Transaction.fenced currentClaim current write).OfRun)
    (closed : store.run.ClosedWhenTerminal)
    (applied : write.apply store = .ok after) :
    after.run.ClosedWhenTerminal := by
  cases applies_of_apply applied with
  | check =>
      exact closed
  | markRunning active =>
      refine AgentRun.closedWhenTerminal_of_open ?_
      show AgentRunStatus.running ∉ terminalRunStatuses
      decide
  | markStatus allowed same =>
      exact StatusChange.apply_closes (StatusChange.OfRun.finishes ofRun)
  | progress =>
      exact closed.kept rfl rfl rfl rfl rfl
  | investigation inserted =>
      exact closed.kept rfl rfl rfl rfl rfl
  | artifactFound =>
      exact closed
  | artifactInserted inserted =>
      exact closed
  | openSideEffect opened =>
      exact closed
  | recordSideEffect recorded =>
      exact closed

/-- A transaction that rejects nothing keeps terminal runs closed. -/
theorem Transaction.commitStore_closedWhenTerminal
    {sha256 : String → String}
    {deployment : Deployment}
    {store after : Store}
    {transaction : Transaction}
    (ofRun : transaction.OfRun)
    (keeps : ¬ transaction.Rejects)
    (closed : store.run.ClosedWhenTerminal)
    (committed :
      transaction.commitStore sha256 deployment store = some after) :
    after.run.ClosedWhenTerminal := by
  cases commits_of_commitStore committed with
  | claimNextRun claimable =>
      refine AgentRun.closedWhenTerminal_of_open ?_
      show AgentRunStatus.running ∉ terminalRunStatuses
      decide
  | renewLease sameRun running owner held attempt =>
      refine AgentRun.closedWhenTerminal_of_open ?_
      show store.run.status ∉ terminalRunStatuses
      rw [running]
      decide
  | retryClaim sameRun running owner held attempt =>
      rw [Store.withRun_run]
      unfold AgentRun.retried
      split
      · exact fun _ => ⟨nofun, ⟨rfl, rfl, rfl⟩⟩
      · refine AgentRun.closedWhenTerminal_of_open ?_
        show AgentRunStatus.pending ∉ terminalRunStatuses
        decide
  | releaseClaim sameRun owner attempt =>
      exact fun terminal =>
        ⟨(closed terminal).finishedAt, ⟨rfl, rfl, rfl⟩⟩
  | expireExhaustedRuns exhausted =>
      exact fun _ => ⟨nofun, ⟨rfl, rfl, rfl⟩⟩
  | @decide loadedResult request updatedAt decidedAt artifact approvals
      chosen waiting inserted =>
      refine AgentRun.closedWhenTerminal_of_open ?_
      cases decision : request.decision with
      | approve =>
          simp [AgentRun.decided, terminalRunStatuses]
      | reject => exact absurd decision keeps
  | fenced underClaim passed applied =>
      exact FencedWrite.apply_closedWhenTerminal ofRun closed applied

/--
As long as no rejection is committed, every run with a terminal status has its
end recorded and nothing of a lease left.
-/
theorem terminal_runs_closed
    {sha256 : String → String}
    {deployment : Deployment}
    {plane : ControlPlane}
    (reached :
      ((ControlPlane.lifecycle sha256 deployment).restrict fun action =>
        OfRun action ∧ ¬ Rejects action).Reachable plane) :
    plane.store.run.ClosedWhenTerminal := by
  have begins :
      ∀ {start : ControlPlane},
        start.Initial → start.store.run.ClosedWhenTerminal := by
    intro start initial
    obtain ⟨id, runId, incidentPk, startedAt, admitted⟩ :=
      initial.admitted
    refine AgentRun.closedWhenTerminal_of_open ?_
    rw [admitted]
    show AgentRunStatus.pending ∉ terminalRunStatuses
    decide
  have preserved :
      ∀ {before : ControlPlane} {action} {after : ControlPlane},
        before.store.run.ClosedWhenTerminal →
        ((ControlPlane.lifecycle sha256 deployment).restrict fun action =>
          OfRun action ∧ ¬ Rejects action).step before action after →
        after.store.run.ClosedWhenTerminal := by
    rintro before action after closed ⟨step, ofRun, keeps⟩
    cases step with
    | commit committed =>
        exact
          Transaction.commitStore_closedWhenTerminal ofRun keeps closed
            (ControlPlane.commit_eq_some.mp committed).2.1
    | drift seconds => exact closed
  exact reached.invariant begins preserved

/-- A run that is halted by its executor is closed. -/
theorem terminal_runs_closed_halted :
    ∃ plane,
      ((ControlPlane.lifecycle id (.durable 1 60)).restrict fun action =>
          OfRun action ∧ ¬ Rejects action).Reachable plane ∧
        plane.store.run.status = .failed ∧
        plane.store.run.Closed := by
  have path :
      ((ControlPlane.lifecycle id (.durable 1 60)).restrict fun action =>
          OfRun action ∧ ¬ Rejects action).Leads
        (.admitted "pk" "RUN-1" "INC-1" 0) _ :=
    RowLock.atomic_leads
      (by
        simp only [List.mem_cons, List.not_mem_nil, or_false]
        rintro action (rfl | rfl | rfl)
        · exact ⟨trivial, not_false⟩
        · exact ⟨trivial, not_false⟩
        · exact ⟨.halted .failed "executor crashed" 0, not_false⟩)
      (rfl :
        (ControlPlane.rowLock id (.durable 1 60)).execute
            (.admitted "pk" "RUN-1" "INC-1" 0)
            [.commit (.claimNextRun "worker" 0),
              .commit
                (.fenced (some ⟨"INC-1", "RUN-1", "worker", 1, false⟩) 0
                  .markRunning),
              .commit
                (.fenced (some ⟨"INC-1", "RUN-1", "worker", 1, false⟩) 0
                  (.markStatus .running
                    (haltChange .failed "executor crashed" 0)))] =
          some _)
  have reached :=
    (Machine.Reachable.initial
      (ControlPlane.admitted_initial "pk" "RUN-1" "INC-1" 0)).leads path
  exact ⟨_, reached, rfl, terminal_runs_closed reached (by decide)⟩

/-- The state of a graph that waits for the approval of its artifact. -/
def waitingState : AgentState :=
  { initialState "RUN-1" ⟨"api", "app"⟩ with
    status := .waitingApproval
    workflowState := .waitForApproval
    result := { testRunId := some 2, patchArtifactId := some 1 } }

/-- The life of a run that waits for approval, and is rejected. -/
def rejectedRun : List (RowLock.Action Transaction Nat) :=
  let claim : ClaimedRun := ⟨"INC-1", "RUN-1", "worker", 1, false⟩
  let artifact : PatchArtifact :=
    ⟨1, "pk", "base", "diff", "diff", some 2, true⟩
  let test : TestRun := ⟨2, "pk", .passed, some 0, "diff", "base"⟩
  [.commit (.claimNextRun "worker" 0),
    .commit (.fenced (some claim) 0 .markRunning),
    .commit (.fenced (some claim) 0 (.patchArtifact artifact)),
    .commit (.fenced (some claim) 0 (.investigation [test] none none (some 1))),
    .commit
      (.fenced (some claim) 0
        (.markStatus .running (finalChange waitingState 0))),
    .commit (.releaseClaim claim),
    .commit
      (.decide waitingState.result
        { decision := .reject
          actor := "human"
          reason := "no"
          patchArtifactId := none
          patchHash := none } 1 1)]

/-- A rejected run is terminal, and its end is not recorded. -/
theorem rejected_run_stays_open :
    ¬ ∀ plane,
        ((ControlPlane.lifecycle id (.durable 1 60)).restrict
            OfRun).Reachable plane →
        plane.store.run.ClosedWhenTerminal := by
  intro always
  have path :
      ((ControlPlane.lifecycle id (.durable 1 60)).restrict OfRun).Leads
        (.admitted "pk" "RUN-1" "INC-1" 0) _ :=
    RowLock.atomic_leads
      (by
        simp only [rejectedRun, List.mem_cons, List.not_mem_nil, or_false]
        rintro action (rfl | rfl | rfl | rfl | rfl | rfl | rfl)
        · exact trivial
        · exact trivial
        · exact trivial
        · exact trivial
        · exact .final waitingState 0
        · exact trivial
        · exact trivial)
      (rfl :
        (ControlPlane.rowLock id (.durable 1 60)).execute
            (.admitted "pk" "RUN-1" "INC-1" 0) rejectedRun =
          some _)
  have reached :=
    (Machine.Reachable.initial
      (ControlPlane.admitted_initial "pk" "RUN-1" "INC-1" 0)).leads path
  exact (always _ reached (by decide)).finishedAt rfl

end IncidentPilot
