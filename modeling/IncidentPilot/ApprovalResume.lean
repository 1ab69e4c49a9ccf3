import IncidentPilot.RunLifecycle
import Mathlib.Logic.Function.Basic

/-!
# Resuming a run after its approval

`resume_after_approval` with the worker's choice that leads to it, as a machine
over the life of the run.  An attempt stands between two awaits at a
`ResumePoint`; at each of its steps it reads the database, commits one
transaction or waits for GitHub, and it may die at any point.  Everything else
that can happen to the run happens in between.
-/

namespace IncidentPilot

/-- What an attempt keeps of the `AgentRun` object it has loaded. -/
structure LoadedRun where
  status : AgentRunStatus
  result : RunResult
  deriving Repr, DecidableEq

/-- The object an attempt loads. -/
def AgentRun.loaded (run : AgentRun) : LoadedRun where
  status := run.status
  result := run.result

/-- How `acreate_pull_request` ends. -/
inductive GithubOutcome where
  | ok (pullRequest : PullRequest)
  | failed (retryable : Bool) (error : Option String)
  | raised
  deriving Repr, DecidableEq

/-- Why an attempt raised. -/
inductive ResumeError where
  | value (message : String)
  | connection (message : String)
  | transaction
  | github
  deriving Repr, DecidableEq

/-- Where an attempt stands, with the local variables it still needs. -/
inductive ResumePoint where
  | idle
  | choosing
  | entering (decision : ApprovalDecision)
  | guarding (decision : ApprovalDecision)
  | selectingRun (decision : ApprovalDecision)
  | selectingApproval (decision : ApprovalDecision) (loaded : LoadedRun)
  | validating
      (decision : ApprovalDecision)
      (loaded : LoadedRun)
      (approval : Approval)
  | rejecting (loaded : LoadedRun)
  | marking (loaded : LoadedRun) (artifact : PatchArtifact)
  | refreshing (artifact : PatchArtifact)
  | opening (loaded : LoadedRun) (artifact : PatchArtifact)
  | fencing (loaded : LoadedRun) (artifact : PatchArtifact)
  | calling (loaded : LoadedRun) (artifact : PatchArtifact)
  | recording
      (loaded : LoadedRun)
      (artifact : PatchArtifact)
      (outcome : GithubOutcome)
  | failing (loaded : LoadedRun) (error : String)
  | resolving
      (loaded : LoadedRun)
      (artifact : PatchArtifact)
      (pullRequest : PullRequest)
  | executing
  | returned (status : AgentRunStatus) (pullRequest : Option PullRequest)
  | raised (error : ResumeError)
  | crashed

/-- What an attempt receives from outside at a step. -/
structure ResumeInput where
  current : Instant
  utcnow : Instant
  outcome : GithubOutcome
  deriving DecidableEq

/-- The arguments of a call of `acreate_pull_request`. -/
structure GithubCall where
  runId : String
  title : String
  body : String
  patchDiff : String
  baseCommitSha : String
  idempotencyKey : String
  deriving Repr, DecidableEq

/-- The call an approved artifact leads to. -/
def githubCall (runId : String) (artifact : PatchArtifact) : GithubCall where
  runId := runId
  title := "IncidentPilot fix for " ++ runId
  body :=
    "Automated fix proposal for run " ++ runId ++ ".\n\n" ++
      "Patch hash: " ++ artifact.patchHash ++ "\n" ++
      "Base commit: " ++ artifact.baseCommitSha ++ "\n" ++
      "Test run: " ++
        (artifact.testRunId.map toString).getD "None" ++ "\n"
  patchDiff := artifact.patchDiff
  baseCommitSha := artifact.baseCommitSha
  idempotencyKey := sideEffectKey runId artifact.patchHash

/-- The approval of the run, which is unique by its index. -/
def findApproval (store : Store) : Option Approval :=
  store.approvals.find fun approval =>
    decide (approval.runPk = store.run.id)

/-- `RunExecutor.approved_decision`. -/
def approvedDecision (store : Store) : Option ApprovalDecision :=
  (store.approvals.find fun approval =>
    decide (approval.runPk = store.run.id) &&
      decide (approval.decision = .approve)).map Approval.decision

/-- The status change of a rejected run. -/
def rejectedChange (utcnow : Instant) : StatusChange where
  status := .needsHumanIntervention
  workflowState := some .needsHumanIntervention
  error := some "human rejected approval"
  finished := true
  utcnow := utcnow

/-- The status change before the pull request is created. -/
def creatingChange (utcnow : Instant) : StatusChange where
  status := .running
  workflowState := some .createPullRequest
  utcnow := utcnow

/-- The status change after a permanent failure of GitHub. -/
def failedChange (error : String) (utcnow : Instant) : StatusChange where
  status := .failed
  workflowState := some .failed
  error := some error
  finished := true
  utcnow := utcnow

/-- The status change once the pull request is recorded. -/
def resolvedChange
    (loaded : LoadedRun)
    (pullRequest : Option PullRequest)
    (utcnow : Instant) : StatusChange where
  status := .resolved
  workflowState := some .resolved
  result := some { loaded.result with pullRequest := pullRequest }
  finished := true
  utcnow := utcnow

/-- What an attempt does next: go on, or commit a transaction and go on. -/
inductive ResumeMove where
  | goTo (point : ResumePoint)
  | transact (write : FencedWrite) (next : ResumePoint)

/-- Where a move leads when its transaction commits. -/
def ResumeMove.target : ResumeMove → ResumePoint
  | goTo point => point
  | transact _ next => next

section

variable (sha256 : String → String)

/-- What an attempt does next; `none` when it has nothing more to do. -/
def ResumePoint.move
    (store : Store)
    (input : ResumeInput) : ResumePoint → Option ResumeMove
  | .choosing =>
      match approvedDecision store with
      | some decision => some (.goTo (.entering decision))
      | none => some (.goTo .executing)
  | .entering decision =>
      some (.transact .markRunning (.guarding decision))
  | .guarding decision =>
      some (.transact .check (.selectingRun decision))
  | .selectingRun decision =>
      some (.goTo (.selectingApproval decision store.run.loaded))
  | .selectingApproval decision loaded =>
      match findApproval store with
      | none =>
          some
            (.goTo
              (.raised (.value "persisted human approval required")))
      | some approval =>
          if approval.decision ≠ decision then
            some
              (.goTo
                (.raised (.value "persisted human approval required")))
          else
            some (.goTo (.validating decision loaded approval))
  | .validating decision loaded approval =>
      match
        validatedArtifact sha256 store loaded.result
          approval.patchArtifactId with
      | .error message => some (.goTo (.raised (.value message)))
      | .ok artifact =>
          if approval.payload ≠ binding artifact then
            some
              (.goTo
                (.raised (.value "approved artifact binding changed")))
          else
            match decision with
            | .reject => some (.goTo (.rejecting loaded))
            | .approve => some (.goTo (.marking loaded artifact))
  | .rejecting loaded =>
      some
        (.transact
          (.markStatus loaded.status (rejectedChange input.utcnow))
          (.returned .needsHumanIntervention none))
  | .marking loaded artifact =>
      some
        (.transact
          (.markStatus loaded.status (creatingChange input.utcnow))
          (.refreshing artifact))
  | .refreshing artifact =>
      some (.goTo (.opening store.run.loaded artifact))
  | .opening loaded artifact =>
      let key := sideEffectKey store.run.runId artifact.patchHash
      match
        (findSideEffect store key).filter
          fun effect => effect.status = .completed with
      | some effect =>
          some
            (.transact
              (.markStatus loaded.status
                (resolvedChange loaded effect.result input.utcnow))
              (.returned .resolved effect.result))
      | none =>
          some
            (.transact (.openSideEffect "github_pull_request" key)
              (.fencing loaded artifact))
  | .fencing loaded artifact =>
      some (.transact .check (.calling loaded artifact))
  | .calling loaded artifact =>
      match input.outcome with
      | .raised => some (.goTo (.raised .github))
      | outcome => some (.goTo (.recording loaded artifact outcome))
  | .recording loaded artifact outcome =>
      let key := sideEffectKey store.run.runId artifact.patchHash
      match outcome with
      | .ok pullRequest =>
          some
            (.transact (.recordSideEffect key (.completed pullRequest))
              (.resolving loaded artifact pullRequest))
      | .failed retryable error =>
          let message := error.getD "github pr failed"
          some
            (.transact (.recordSideEffect key (.failed message))
              (if retryable then
                .raised
                  (.connection
                    ("transient GitHub failure; remote reconciliation " ++
                      "required"))
              else
                .failing loaded message))
      | .raised => none
  | .failing loaded error =>
      some
        (.transact
          (.markStatus loaded.status (failedChange error input.utcnow))
          (.returned .failed none))
  | .resolving loaded _ pullRequest =>
      some
        (.transact
          (.markStatus loaded.status
            (resolvedChange loaded (some pullRequest) input.utcnow))
          (.returned .resolved (some pullRequest)))
  | .idle => none
  | .executing => none
  | .returned _ _ => none
  | .raised _ => none
  | .crashed => none

/-- A move is made; a transaction that does not commit raises. -/
def ResumeMove.perform
    (deployment : Deployment)
    (plane : ControlPlane)
    (claim : ClaimedRun)
    (input : ResumeInput) : ResumeMove → ControlPlane × ResumePoint
  | .goTo point => (plane, point)
  | .transact write next =>
      match
        plane.commit sha256 deployment
          (.fenced (some claim) input.current write) with
      | some after => (after, next)
      | none => (plane, .raised .transaction)

end

/-- The database and where the attempt of each claim stands. -/
structure ResumeState where
  plane : ControlPlane
  attempts : ClaimedRun → ResumePoint

/-- The call of GitHub an attempt is about to make, if it is. -/
def ResumeState.githubCall
    (state : ResumeState)
    (claim : ClaimedRun) : Option GithubCall :=
  match state.attempts claim with
  | .calling _ artifact =>
      some (IncidentPilot.githubCall state.plane.store.run.runId artifact)
  | _ => none

/-- The labels of the machine. -/
inductive ResumeAction where
  | environment (action : RowLock.Action Transaction Nat)
  | start (claim : ClaimedRun) (decision : Option ApprovalDecision)
  | advance (claim : ClaimedRun) (input : ResumeInput)
  | crash (claim : ClaimedRun)

/--
The steps of the machine.  A granted claim starts at most one attempt, at the
worker's choice or, when the workflow graph replays it, with a given decision.
-/
inductive ResumeStep
    (sha256 : String → String)
    (deployment : Deployment)
    (allowed : RowLock.Action Transaction Nat → Prop) :
    ResumeState → ResumeAction → ResumeState → Prop where
  | environment
      {state : ResumeState}
      {action : RowLock.Action Transaction Nat}
      {after : ControlPlane}
      (moved :
        (ControlPlane.lifecycle sha256 deployment).step state.plane
          action after)
      (allows : allowed action) :
      ResumeStep sha256 deployment allowed state (.environment action)
        { state with plane := after }
  | start
      {state : ResumeState}
      {claim : ClaimedRun}
      (decision : Option ApprovalDecision)
      (granted : claim ∈ state.plane.granted)
      (idle : state.attempts claim = .idle) :
      ResumeStep sha256 deployment allowed state (.start claim decision)
        { state with
          attempts :=
            Function.update state.attempts claim
              (decision.elim .choosing .entering) }
  | advance
      {state : ResumeState}
      {claim : ClaimedRun}
      {input : ResumeInput}
      {move : ResumeMove}
      {after : ControlPlane}
      {point : ResumePoint}
      (next :
        (state.attempts claim).move sha256 state.plane.store input =
          some move)
      (performed :
        move.perform sha256 deployment state.plane claim input =
          (after, point)) :
      ResumeStep sha256 deployment allowed state (.advance claim input)
        { plane := after
          attempts := Function.update state.attempts claim point }
  | crash
      (state : ResumeState)
      (claim : ClaimedRun) :
      ResumeStep sha256 deployment allowed state (.crash claim)
        { state with
          attempts := Function.update state.attempts claim .crashed }

/-- Runs of attempts, between transactions that are allowed. -/
def resumption
    (sha256 : String → String)
    (deployment : Deployment)
    (allowed : RowLock.Action Transaction Nat → Prop) :
    Machine ResumeState ResumeAction where
  initial state :=
    state.plane.Initial ∧ ∀ claim, state.attempts claim = .idle
  step := ResumeStep sha256 deployment allowed

section

variable {sha256 : String → String}
variable {deployment : Deployment}

/-- A move goes on as it is, it commits its transaction, or it raises. -/
theorem ResumeMove.perform_cases
    {plane after : ControlPlane}
    {claim : ClaimedRun}
    {input : ResumeInput}
    {move : ResumeMove}
    {point : ResumePoint}
    (performed :
      move.perform sha256 deployment plane claim input =
        (after, point)) :
    (after = plane ∧ (move = .goTo point ∨ point = .raised .transaction)) ∨
      ∃ write,
        move = .transact write point ∧
          plane.commit sha256 deployment
              (.fenced (some claim) input.current write) =
            some after := by
  cases move with
  | goTo target =>
      cases performed
      exact .inl ⟨rfl, .inl rfl⟩
  | transact write next =>
      simp only [perform] at performed
      split at performed
      · rename_i committed
        cases performed
        exact .inr ⟨write, rfl, committed⟩
      · cases performed
        exact .inl ⟨rfl, .inr rfl⟩

/-- A step keeps the control plane, or it is a step of its life. -/
theorem ResumeStep.plane_cases
    {allowed : RowLock.Action Transaction Nat → Prop}
    {before after : ResumeState}
    {action : ResumeAction}
    (step : ResumeStep sha256 deployment allowed before action after) :
    after.plane = before.plane ∨
      ∃ inner,
        (ControlPlane.lifecycle sha256 deployment).step before.plane inner
          after.plane := by
  cases step with
  | environment moved allows => exact .inr ⟨_, moved⟩
  | start decision granted idle => exact .inl rfl
  | advance next performed =>
      rcases ResumeMove.perform_cases performed with
          ⟨same, -⟩ | ⟨write, -, committed⟩
      · exact .inl same
      · exact .inr ⟨_, .commit committed⟩
  | crash claim => exact .inl rfl

/-- The control plane of a reachable state has lived a life. -/
theorem resumption_plane
    {allowed : RowLock.Action Transaction Nat → Prop}
    {state : ResumeState}
    (reached :
      (resumption sha256 deployment allowed).Reachable state) :
    (ControlPlane.lifecycle sha256 deployment).Reachable state.plane := by
  induction reached with
  | initial begins =>
      exact .initial begins.1
  | step earlier last inductionHypothesis =>
      rcases last.plane_cases with same | ⟨inner, moved⟩
      · rw [same]
        exact inductionHypothesis
      · exact inductionHypothesis.step moved

/-- A commit keeps every row of the insert-only tables. -/
theorem ControlPlane.commit_grows
    {before after : ControlPlane}
    {transaction : Transaction}
    (committed :
      before.commit sha256 deployment transaction = some after) :
    before.store.Grows after.store :=
  Transaction.commitStore_grows
    (ControlPlane.commit_eq_some.mp committed).2.1

/-- A move keeps every row of the insert-only tables. -/
theorem ResumeMove.perform_grows
    {plane after : ControlPlane}
    {claim : ClaimedRun}
    {input : ResumeInput}
    {move : ResumeMove}
    {point : ResumePoint}
    (performed :
      move.perform sha256 deployment plane claim input =
        (after, point)) :
    plane.store.Grows after.store := by
  rcases ResumeMove.perform_cases performed with
      ⟨rfl, -⟩ | ⟨write, -, committed⟩
  · exact .refl _
  · exact ControlPlane.commit_grows committed

/-- Every step keeps every row of the insert-only tables. -/
theorem ResumeStep.grows
    {allowed : RowLock.Action Transaction Nat → Prop}
    {before after : ResumeState}
    {action : ResumeAction}
    (step : ResumeStep sha256 deployment allowed before action after) :
    before.plane.store.Grows after.plane.store := by
  cases step with
  | environment moved allows =>
      cases moved with
      | commit committed => exact ControlPlane.commit_grows committed
      | drift seconds => exact .refl _
  | start decision granted idle => exact .refl _
  | advance next performed => exact ResumeMove.perform_grows performed
  | crash claim => exact .refl _

/-- Paths keep every row of the insert-only tables. -/
theorem resumption_grows
    {allowed : RowLock.Action Transaction Nat → Prop}
    {start final : ResumeState}
    (path :
      (resumption sha256 deployment allowed).Leads start final) :
    start.plane.store.Grows final.plane.store := by
  refine
    path.induct
      (fun first last => first.plane.store.Grows last.plane.store) ?_ ?_
  · exact fun state => .refl _
  · intro start middle final action earlier last
    exact earlier.trans (ResumeStep.grows last)

/-- A call of GitHub is made for the artifact its attempt carries. -/
theorem ResumeState.githubCall_eq_some
    {state : ResumeState}
    {claim : ClaimedRun}
    {call : GithubCall}
    (calls : state.githubCall claim = some call) :
    ∃ loaded artifact,
      state.attempts claim = .calling loaded artifact ∧
        call =
          IncidentPilot.githubCall state.plane.store.run.runId
            artifact := by
  unfold ResumeState.githubCall at calls
  split at calls
  · rename_i loaded artifact stands
    cases calls
    exact ⟨loaded, artifact, stands, rfl⟩
  · cases calls

/-- The approval query finds exactly the approval of the run. -/
theorem findApproval_eq_some_iff
    {store : Store}
    {approval : Approval} :
    findApproval store = some approval ↔
      approval ∈ store.approvals ∧ approval.runPk = store.run.id := by
  unfold findApproval
  rw [UniqueTable.find_eq_some_iff]
  · simp
  · intro first second firstMatches secondMatches
    simp only [decide_eq_true_eq] at firstMatches secondMatches
    simp [Approval.conflicts, firstMatches, secondMatches]

/-- Two approvals of one run are one approval. -/
theorem approval_unique
    {store : Store}
    {first second : Approval}
    (firstMember : first ∈ store.approvals)
    (secondMember : second ∈ store.approvals)
    (sameRun : first.runPk = second.runPk) :
    first = second := by
  refine
    UniqueTable.eq_of_conflict ?_ firstMember secondMember
      (decide_eq_true sameRun)
  intro left right
  simp only [Approval.conflicts, eq_comm]

/-- The effect of one label, when the machine may take it. -/
def ResumeState.perform
    (sha256 : String → String)
    (deployment : Deployment)
    (state : ResumeState) : ResumeAction → Option ResumeState
  | .environment (.commit transaction) =>
      (state.plane.commit sha256 deployment transaction).map fun after =>
        { state with plane := after }
  | .environment (.drift seconds) =>
      some { state with plane := state.plane.tick seconds }
  | .start claim decision =>
      match state.attempts claim with
      | .idle =>
          if claim ∈ state.plane.granted then
            some
              { state with
                attempts :=
                  Function.update state.attempts claim
                    (decision.elim .choosing .entering) }
          else
            none
      | _ => none
  | .advance claim input =>
      ((state.attempts claim).move sha256 state.plane.store input).map
        fun move =>
          let reached :=
            move.perform sha256 deployment state.plane claim input
          { plane := reached.1
            attempts := Function.update state.attempts claim reached.2 }
  | .crash claim =>
      some
        { state with
          attempts := Function.update state.attempts claim .crashed }

/-- A label that may be taken is a step. -/
theorem ResumeState.perform_step
    {allowed : RowLock.Action Transaction Nat → Prop}
    {state after : ResumeState}
    {action : ResumeAction}
    (allows :
      ∀ outside, action = .environment outside → allowed outside)
    (performed : state.perform sha256 deployment action = some after) :
    ResumeStep sha256 deployment allowed state action after := by
  cases action with
  | environment outside =>
      cases outside with
      | commit transaction =>
          obtain ⟨plane, committed, rfl⟩ :=
            Option.map_eq_some_iff.mp performed
          exact .environment (.commit committed) (allows _ rfl)
      | drift seconds =>
          cases performed
          exact .environment (.drift _ seconds) (allows _ rfl)
  | start claim decision =>
      simp only [perform] at performed
      split at performed
      · rename_i idle
        split at performed
        · rename_i granted
          cases performed
          exact .start decision granted idle
        · cases performed
      · cases performed
  | advance claim input =>
      obtain ⟨move, next, rfl⟩ := Option.map_eq_some_iff.mp performed
      exact .advance next rfl
  | crash claim =>
      cases performed
      exact .crash state claim

/-- The effect of several labels in turn. -/
def ResumeState.execute
    (sha256 : String → String)
    (deployment : Deployment)
    (state : ResumeState) : List ResumeAction → Option ResumeState
  | [] => some state
  | action :: rest =>
      (state.perform sha256 deployment action).bind fun next =>
        next.execute sha256 deployment rest

/-- Labels taken in turn lead to where they lead. -/
theorem ResumeState.execute_leads
    {allowed : RowLock.Action Transaction Nat → Prop}
    {state final : ResumeState}
    {actions : List ResumeAction}
    (allows :
      ∀ outside, .environment outside ∈ actions → allowed outside)
    (executed :
      state.execute sha256 deployment actions = some final) :
    (resumption sha256 deployment allowed).Leads state final := by
  induction actions generalizing state with
  | nil =>
      cases executed
      exact .refl _
  | cons action rest inductionHypothesis =>
      obtain ⟨next, performed, remaining⟩ :=
        Option.bind_eq_some_iff.mp executed
      have step :
          (resumption sha256 deployment allowed).step state action next :=
        ResumeState.perform_step
          (fun outside same => allows outside (by simp [same]))
          performed
      exact
        (Machine.Leads.single step).trans
          (inductionHypothesis
            (fun outside member =>
              allows outside (List.mem_cons_of_mem _ member))
            remaining)

/-- A run just admitted, before any attempt. -/
def ResumeState.admitted
    (id runId incidentPk : String)
    (startedAt : Instant) : ResumeState where
  plane := .admitted id runId incidentPk startedAt
  attempts _ := .idle

/-- What labels taken in turn from an admitted run lead to is reachable. -/
theorem ResumeState.reachable_of_execute
    {allowed : RowLock.Action Transaction Nat → Prop}
    {id runId incidentPk : String}
    {startedAt : Instant}
    {final : ResumeState}
    {actions : List ResumeAction}
    (allows :
      ∀ outside, .environment outside ∈ actions → allowed outside)
    (executed :
      (ResumeState.admitted id runId incidentPk startedAt).execute sha256
          deployment actions =
        some final) :
    (resumption sha256 deployment allowed).Reachable final := by
  have begins :
      (resumption sha256 deployment allowed).initial
        (.admitted id runId incidentPk startedAt) :=
    ⟨ControlPlane.admitted_initial id runId incidentPk startedAt,
      fun _ => rfl⟩
  exact
    (Machine.Reachable.initial begins).leads
      (ResumeState.execute_leads allows executed)

end

/-- The second claim of the approved run resumes it for some steps. -/
def resumedRun
    (outcome : GithubOutcome)
    (steps : Nat) : List ResumeAction :=
  let claim : ClaimedRun := ⟨"INC-1", "RUN-1", "worker", 2, false⟩
  approvedRun.map .environment ++
    [.environment (.drift 1),
      .environment (.commit (.claimNextRun "worker" 1)),
      .start claim none] ++
    List.replicate steps (.advance claim ⟨1, 1, outcome⟩)

end IncidentPilot
