import IncidentPilot.FencedWrites
import IncidentPilot.Library.RowLock

/-!
# The life of a run

One row of `agent_runs` under every transaction that writes it, in any order,
with a database clock that does not go back.  Each transaction takes the row
lock, checks its guard and holds the lock until it commits.  `granted` is a
history variable: the claims handed out so far, newest first.
-/

namespace IncidentPilot

/-- The settings the transactions on a run depend on. -/
structure Deployment where
  maxJobAttempts : Nat
  jobLeaseSeconds : Nat
  embeddedWorkerEnabled : Bool
  deriving Repr, DecidableEq

/-- A deployment whose runs are executed by leased workers only. -/
def Deployment.durable
    (maxJobAttempts jobLeaseSeconds : Nat) : Deployment where
  maxJobAttempts := maxJobAttempts
  jobLeaseSeconds := jobLeaseSeconds
  embeddedWorkerEnabled := false

/-- The transactions on the run. -/
inductive Transaction where
  | claimNextRun (workerId : String) (current : Instant)
  | renewLease (claim : ClaimedRun) (current : Instant)
  | retryClaim
      (claim : ClaimedRun)
      (failureCategory : String)
      (delaySeconds : Nat)
      (utcOffset : Int)
      (checkedAt writtenAt : Instant)
  | releaseClaim (claim : ClaimedRun)
  | expireExhaustedRuns (current : Instant)
  | decide
      (loadedResult : RunResult)
      (request : DecisionRequest)
      (updatedAt decidedAt : Instant)
  | fenced
      (currentClaim : Option ClaimedRun)
      (current : Instant)
      (write : FencedWrite)

namespace Transaction

/-- The database clock reading a transaction compares instants with. -/
def databaseNow : Transaction → Option Instant
  | claimNextRun _ current => some current
  | renewLease _ current => some current
  | expireExhaustedRuns current => some current
  | fenced _ current _ => some current
  | retryClaim .. => none
  | releaseClaim _ => none
  | decide .. => none

/-- The claim a transaction is issued under. -/
def issuedUnder : Transaction → Option ClaimedRun
  | renewLease claim _ => some claim
  | retryClaim claim .. => some claim
  | releaseClaim claim => some claim
  | fenced currentClaim _ _ => currentClaim
  | claimNextRun .. => none
  | expireExhaustedRuns _ => none
  | decide .. => none

/-- The claim a transaction grants when it commits. -/
def grants (store : Store) : Transaction → Option ClaimedRun
  | claimNextRun workerId _ => some (store.run.claimOf workerId)
  | _ => none

/-- What a transaction does to the store, or `none` when it rolls back. -/
def commitStore
    (sha256 : String → String)
    (deployment : Deployment)
    (store : Store) : Transaction → Option Store
  | claimNextRun workerId current =>
      if Claimable deployment.maxJobAttempts current store.run then
        some
          (store.withRun
            (store.run.claimed workerId deployment.jobLeaseSeconds
              current))
      else
        none
  | renewLease claim current =>
      if claim.runId = store.run.runId then
        (IncidentPilot.renewLease claim.workerId
          deployment.jobLeaseSeconds current (some claim.attemptCount)
          store.run).map store.withRun
      else
        none
  | retryClaim claim failureCategory delaySeconds utcOffset checkedAt
      writtenAt =>
      if claim.runId = store.run.runId then
        (IncidentPilot.retryClaim claim.workerId
          deployment.maxJobAttempts failureCategory delaySeconds
          (some claim.attemptCount) utcOffset checkedAt writtenAt
          store.run).map store.withRun
      else
        none
  | releaseClaim claim =>
      if claim.runId = store.run.runId then
        (IncidentPilot.releaseClaim claim.workerId
          (some claim.attemptCount) store.run).map store.withRun
      else
        none
  | expireExhaustedRuns current =>
      (IncidentPilot.expireExhaustedRuns deployment.maxJobAttempts
        current store.run).map store.withRun
  | decide loadedResult request updatedAt decidedAt =>
      (ApprovalService.decide sha256 loadedResult request updatedAt
        decidedAt store).toOption
  | fenced currentClaim current write =>
      if currentClaim = none ∧
          deployment.embeddedWorkerEnabled = false then
        none
      else
        (fencedTransaction currentClaim current write store).toOption

end Transaction

/-- The database and its clock, with the claims granted so far. -/
structure ControlPlane where
  clock : Instant
  store : Store
  granted : List ClaimedRun

namespace ControlPlane

/-- A transaction commits in one step, having read the clock before. -/
def commit
    (sha256 : String → String)
    (deployment : Deployment)
    (plane : ControlPlane)
    (transaction : Transaction) : Option ControlPlane :=
  if transaction.databaseNow.all fun current => current ≤ plane.clock then
    (transaction.commitStore sha256 deployment plane.store).map
      fun store =>
        { clock := plane.clock
          store := store
          granted :=
            (transaction.grants plane.store).toList ++ plane.granted }
  else
    none

/-- Time passes. -/
def tick (plane : ControlPlane) (seconds : Nat) : ControlPlane :=
  { plane with clock := plane.clock + seconds }

/-- What a commit checked and wrote. -/
theorem commit_eq_some
    {sha256 : String → String}
    {deployment : Deployment}
    {plane after : ControlPlane}
    {transaction : Transaction} :
    plane.commit sha256 deployment transaction = some after ↔
      (∀ current,
          transaction.databaseNow = some current →
          current ≤ plane.clock) ∧
        transaction.commitStore sha256 deployment plane.store =
          some after.store ∧
        after.clock = plane.clock ∧
        after.granted =
          (transaction.grants plane.store).toList ++ plane.granted := by
  obtain ⟨clock, store, granted⟩ := after
  unfold commit
  rw [Option.ite_none_right_eq_some, Option.map_eq_some_iff]
  constructor
  · rintro ⟨read, written, committed, same⟩
    cases same
    refine ⟨?_, committed, rfl, rfl⟩
    intro current reading
    simpa [reading] using read
  · rintro ⟨read, committed, rfl, rfl⟩
    refine ⟨?_, store, committed, rfl⟩
    cases reading : transaction.databaseNow with
    | none =>
        rfl
    | some current =>
        simpa using read current reading

/-- The row of a run just admitted, in tables that hold nothing of it. -/
structure Initial (plane : ControlPlane) : Prop where
  admitted :
    ∃ id runId incidentPk startedAt,
      plane.store.run = newRun id runId incidentPk startedAt
  noApproval :
    ∀ row, row ∈ plane.store.approvals → row.runPk ≠ plane.store.run.id
  noArtifact :
    ∀ row, row ∈ plane.store.patchArtifacts →
      row.runPk ≠ plane.store.run.id
  noTest :
    ∀ row, row ∈ plane.store.testRuns → row.runPk ≠ plane.store.run.id
  noSideEffect :
    ∀ row, row ∈ plane.store.sideEffects →
      row.runPk ≠ plane.store.run.id
  noKey :
    ∀ row, row ∈ plane.store.sideEffects →
      ∀ patchHash,
        row.idempotencyKey ≠
          sideEffectKey plane.store.run.runId patchHash
  ungranted : plane.granted = []

/-- A run admitted into empty tables. -/
def admitted
    (id runId incidentPk : String)
    (startedAt : Instant) : ControlPlane where
  clock := startedAt
  store :=
    { run := newRun id runId incidentPk startedAt
      approvals := .empty
      patchArtifacts := .empty
      testRuns := .empty
      sideEffects := .empty }
  granted := []

/-- An admitted run is where a life begins. -/
theorem admitted_initial
    (id runId incidentPk : String)
    (startedAt : Instant) :
    (admitted id runId incidentPk startedAt).Initial where
  admitted := ⟨id, runId, incidentPk, startedAt, rfl⟩
  noApproval row member := absurd member (UniqueTable.not_mem_empty row)
  noArtifact row member := absurd member (UniqueTable.not_mem_empty row)
  noTest row member := absurd member (UniqueTable.not_mem_empty row)
  noSideEffect row member := absurd member (UniqueTable.not_mem_empty row)
  noKey row member := absurd member (UniqueTable.not_mem_empty row)
  ungranted := rfl

/-- The transactions under the row lock, while the clock advances. -/
def rowLock
    (sha256 : String → String)
    (deployment : Deployment) : RowLock ControlPlane Transaction Nat where
  commit := commit sha256 deployment
  drift := tick
  stable := by
    intro plane transaction after seconds committed
    obtain ⟨read, written, -, -⟩ := commit_eq_some.mp committed
    have later :
        (plane.tick seconds).commit sha256 deployment transaction =
          some (after.tick seconds) := by
      refine commit_eq_some.mpr ⟨?_, written, ?_, ?_⟩
      · intro current reading
        exact
          Int.le_trans (read current reading)
            (Int.le_add_of_nonneg_right (Int.natCast_nonneg seconds))
      · obtain ⟨-, -, sameClock, -⟩ := commit_eq_some.mp committed
        simp [tick, sameClock]
      · obtain ⟨-, -, -, history⟩ := commit_eq_some.mp committed
        simpa [tick] using history
    simp [later]

/-- Runs whose transactions commit in one step. -/
def lifecycle
    (sha256 : String → String)
    (deployment : Deployment) :
    Machine ControlPlane (RowLock.Action Transaction Nat) :=
  (rowLock sha256 deployment).atomic Initial

/-- Runs whose transactions hold the row lock to their commit. -/
def lockedLifecycle
    (sha256 : String → String)
    (deployment : Deployment) :
    Machine (RowLock.Locked ControlPlane Transaction)
      (RowLock.LockedAction Transaction Nat) :=
  (rowLock sha256 deployment).locked Initial

/-- What a serial execution reaches, the locked machine reaches. -/
theorem reachable_of_execute
    {sha256 : String → String}
    {deployment : Deployment}
    {start final : ControlPlane}
    {actions : List (RowLock.Action Transaction Nat)}
    (initial : start.Initial)
    (executed :
      (rowLock sha256 deployment).execute start actions = some final) :
    (lockedLifecycle sha256 deployment).Reachable ⟨final, none⟩ := by
  have begins :
      (lockedLifecycle sha256 deployment).initial ⟨start, none⟩ :=
    ⟨initial, rfl⟩
  exact
    (Machine.Reachable.initial begins).leads
      (RowLock.locked_leads executed)

end ControlPlane

namespace Transaction

/-- What each transaction checked of the run and how it left the store. -/
theorem commitStore_eq_some
    {sha256 : String → String}
    {deployment : Deployment}
    {store after : Store}
    {transaction : Transaction} :
    transaction.commitStore sha256 deployment store = some after ↔
      match transaction with
      | claimNextRun workerId current =>
          Claimable deployment.maxJobAttempts current store.run ∧
            after =
              store.withRun
                (store.run.claimed workerId
                  deployment.jobLeaseSeconds current)
      | renewLease claim current =>
          claim.runId = store.run.runId ∧
            ∃ run,
              IncidentPilot.renewLease claim.workerId
                  deployment.jobLeaseSeconds current
                  (some claim.attemptCount) store.run = some run ∧
                after = store.withRun run
      | retryClaim claim failureCategory delaySeconds utcOffset
          checkedAt writtenAt =>
          claim.runId = store.run.runId ∧
            ∃ run,
              IncidentPilot.retryClaim claim.workerId
                  deployment.maxJobAttempts failureCategory delaySeconds
                  (some claim.attemptCount) utcOffset checkedAt
                  writtenAt store.run = some run ∧
                after = store.withRun run
      | releaseClaim claim =>
          claim.runId = store.run.runId ∧
            ∃ run,
              IncidentPilot.releaseClaim claim.workerId
                  (some claim.attemptCount) store.run = some run ∧
                after = store.withRun run
      | expireExhaustedRuns current =>
          ∃ run,
            IncidentPilot.expireExhaustedRuns
                deployment.maxJobAttempts current store.run =
              some run ∧
              after = store.withRun run
      | decide loadedResult request updatedAt decidedAt =>
          ApprovalService.decide sha256 loadedResult request updatedAt
              decidedAt store = .ok after
      | fenced currentClaim current write =>
          (currentClaim = none →
              deployment.embeddedWorkerEnabled = true) ∧
            fence currentClaim current store.run = .ok () ∧
            write.apply store = .ok after := by
  cases transaction with
  | claimNextRun workerId current =>
      simp only [commitStore, Option.ite_none_right_eq_some,
        Option.some.injEq]
      exact and_congr_right fun _ => eq_comm
  | renewLease claim current =>
      simp only [commitStore, Option.ite_none_right_eq_some,
        Option.map_eq_some_iff]
      exact and_congr_right fun _ =>
        exists_congr fun _ => and_congr_right fun _ => eq_comm
  | retryClaim claim failureCategory delaySeconds utcOffset checkedAt
      writtenAt =>
      simp only [commitStore, Option.ite_none_right_eq_some,
        Option.map_eq_some_iff]
      exact and_congr_right fun _ =>
        exists_congr fun _ => and_congr_right fun _ => eq_comm
  | releaseClaim claim =>
      simp only [commitStore, Option.ite_none_right_eq_some,
        Option.map_eq_some_iff]
      exact and_congr_right fun _ =>
        exists_congr fun _ => and_congr_right fun _ => eq_comm
  | expireExhaustedRuns current =>
      simp only [commitStore, Option.map_eq_some_iff]
      exact exists_congr fun _ => and_congr_right fun _ => eq_comm
  | decide loadedResult request updatedAt decidedAt =>
      simp only [commitStore]
      cases ApprovalService.decide sha256 loadedResult request updatedAt
          decidedAt store <;>
        simp [Except.toOption]
  | fenced currentClaim current write =>
      simp only [commitStore, Option.ite_none_left_eq_some,
        ← fencedTransaction_eq_ok]
      cases fencedTransaction currentClaim current write store <;>
        simp [Except.toOption]

/-- What a transaction found in a store it commits to, and how it left it. -/
inductive Commits
    (sha256 : String → String)
    (deployment : Deployment)
    (store : Store) : Transaction → Store → Prop where
  | claimNextRun
      {workerId : String}
      {current : Instant}
      (claimable :
        Claimable deployment.maxJobAttempts current store.run) :
      Commits sha256 deployment store (.claimNextRun workerId current)
        (store.withRun
          (store.run.claimed workerId deployment.jobLeaseSeconds current))
  | renewLease
      {claim : ClaimedRun}
      {current : Instant}
      (sameRun : claim.runId = store.run.runId)
      (running : store.run.status = .running)
      (owner : store.run.workerId = some claim.workerId)
      (held : sqlAfter store.run.leaseExpiresAt current = true)
      (attempt : store.run.attemptCount = claim.attemptCount) :
      Commits sha256 deployment store (.renewLease claim current)
        (store.withRun
          { store.run with
            lastHeartbeatAt := some current
            leaseExpiresAt :=
              some (current + deployment.jobLeaseSeconds) })
  | retryClaim
      {claim : ClaimedRun}
      {failureCategory : String}
      {delaySeconds : Nat}
      {utcOffset : Int}
      {checkedAt writtenAt : Instant}
      (sameRun : claim.runId = store.run.runId)
      (running : store.run.status = .running)
      (owner : store.run.workerId = some claim.workerId)
      (held : retryLeaseHeld utcOffset checkedAt store.run = true)
      (attempt : store.run.attemptCount = claim.attemptCount) :
      Commits sha256 deployment store
        (.retryClaim claim failureCategory delaySeconds utcOffset
          checkedAt writtenAt)
        (store.withRun
          (store.run.retried deployment.maxJobAttempts failureCategory
            delaySeconds writtenAt))
  | releaseClaim
      {claim : ClaimedRun}
      (sameRun : claim.runId = store.run.runId)
      (owner : store.run.workerId = some claim.workerId)
      (attempt : store.run.attemptCount = claim.attemptCount) :
      Commits sha256 deployment store (.releaseClaim claim)
        (store.withRun
          { store.run with
            workerId := none
            leaseExpiresAt := none
            lastHeartbeatAt := none })
  | expireExhaustedRuns
      {current : Instant}
      (exhausted :
        Exhausted deployment.maxJobAttempts current store.run) :
      Commits sha256 deployment store (.expireExhaustedRuns current)
        (store.withRun
          { store.run with
            status := .needsHumanIntervention
            workflowState := .needsHumanIntervention
            failureCategory := some "lease_expired"
            error := some "job attempts exhausted after lease expiration"
            finishedAt := some current
            workerId := none
            leaseExpiresAt := none
            lastHeartbeatAt := none })
  | decide
      {loadedResult : RunResult}
      {request : DecisionRequest}
      {updatedAt decidedAt : Instant}
      {artifact : PatchArtifact}
      {approvals : UniqueTable Approval Approval.conflicts}
      (chosen :
        request.artifact sha256 store loadedResult = .ok artifact)
      (waiting : store.run.status = .waitingApproval)
      (inserted :
        store.approvals.insert
            (request.approval store.run.id artifact decidedAt) =
          some approvals) :
      Commits sha256 deployment store
        (.decide loadedResult request updatedAt decidedAt)
        { store with
          run := store.run.decided request.decision updatedAt
          approvals := approvals }
  | fenced
      {currentClaim : Option ClaimedRun}
      {current : Instant}
      {write : FencedWrite}
      {after : Store}
      (underClaim :
        currentClaim = none → deployment.embeddedWorkerEnabled = true)
      (passed : fence currentClaim current store.run = .ok ())
      (applied : write.apply store = .ok after) :
      Commits sha256 deployment store (.fenced currentClaim current write)
        after

/-- A transaction that is committed found what it looks for. -/
theorem commits_of_commitStore
    {sha256 : String → String}
    {deployment : Deployment}
    {store after : Store}
    {transaction : Transaction}
    (committed :
      transaction.commitStore sha256 deployment store = some after) :
    Commits sha256 deployment store transaction after := by
  have wrote := commitStore_eq_some.mp committed
  cases transaction with
  | claimNextRun workerId current =>
      obtain ⟨claimable, rfl⟩ := wrote
      exact .claimNextRun claimable
  | renewLease claim current =>
      obtain ⟨sameRun, run, renewed, rfl⟩ := wrote
      obtain ⟨⟨running, owner, held, attempt⟩, rfl⟩ :=
        renewLease_eq_some.mp renewed
      exact
        .renewLease sameRun running owner held
          ((attemptMatches_some _ _).mp attempt)
  | retryClaim claim failureCategory delaySeconds utcOffset checkedAt
      writtenAt =>
      obtain ⟨sameRun, run, retried, rfl⟩ := wrote
      obtain ⟨⟨⟨owner, attempt⟩, running, held⟩, rfl⟩ :=
        retryClaim_eq_some.mp retried
      exact
        .retryClaim sameRun running owner held
          ((attemptMatches_some _ _).mp attempt)
  | releaseClaim claim =>
      obtain ⟨sameRun, run, released, rfl⟩ := wrote
      obtain ⟨⟨owner, attempt⟩, rfl⟩ := releaseClaim_eq_some.mp released
      exact
        .releaseClaim sameRun owner ((attemptMatches_some _ _).mp attempt)
  | expireExhaustedRuns current =>
      obtain ⟨run, expired, rfl⟩ := wrote
      obtain ⟨exhausted, rfl⟩ := expireExhaustedRuns_eq_some.mp expired
      exact .expireExhaustedRuns exhausted
  | decide loadedResult request updatedAt decidedAt =>
      obtain ⟨artifact, approvals, chosen, waiting, inserted, rfl⟩ :=
        ApprovalService.decide_eq_ok.mp wrote
      exact .decide chosen waiting inserted
  | fenced currentClaim current write =>
      obtain ⟨underClaim, passed, applied⟩ := wrote
      exact .fenced underClaim passed applied

/-- A transaction that grants no claim keeps the attempt. -/
theorem commitStore_sameAttempt
    {sha256 : String → String}
    {deployment : Deployment}
    {store after : Store}
    {transaction : Transaction}
    (noGrant : transaction.grants store = none)
    (committed :
      transaction.commitStore sha256 deployment store = some after) :
    store.run.SameAttempt after.run := by
  cases commits_of_commitStore committed with
  | claimNextRun claimable =>
      cases noGrant
  | renewLease sameRun running owner held attempt =>
      exact ⟨rfl, rfl, rfl, .inl rfl⟩
  | retryClaim sameRun running owner held attempt =>
      rw [Store.withRun_run]
      unfold AgentRun.retried
      split <;> exact ⟨rfl, rfl, rfl, .inr rfl⟩
  | releaseClaim sameRun owner attempt =>
      exact ⟨rfl, rfl, rfl, .inr rfl⟩
  | expireExhaustedRuns exhausted =>
      exact ⟨rfl, rfl, rfl, .inr rfl⟩
  | decide chosen waiting inserted =>
      exact ⟨rfl, rfl, rfl, .inr rfl⟩
  | fenced underClaim passed applied =>
      exact (FencedWrite.apply_executes applied).attempt

/-- Only a decision writes an approval. -/
theorem commitStore_approvals
    {sha256 : String → String}
    {deployment : Deployment}
    {store after : Store}
    {transaction : Transaction}
    (committed :
      transaction.commitStore sha256 deployment store = some after) :
    after.approvals = store.approvals ∨
      ∃ loadedResult request updatedAt decidedAt,
        transaction =
          .decide loadedResult request updatedAt decidedAt := by
  cases commits_of_commitStore committed with
  | decide chosen waiting inserted =>
      exact .inr ⟨_, _, _, _, rfl⟩
  | fenced underClaim passed applied =>
      exact .inl (FencedWrite.apply_executes applied).approvals
  | _ =>
      exact .inl rfl

/-- No transaction removes a row of the insert-only tables. -/
theorem commitStore_grows
    {sha256 : String → String}
    {deployment : Deployment}
    {store after : Store}
    {transaction : Transaction}
    (committed :
      transaction.commitStore sha256 deployment store = some after) :
    store.Grows after := by
  cases commits_of_commitStore committed with
  | retryClaim sameRun running owner held attempt =>
      have sameAttempt := commitStore_sameAttempt rfl committed
      exact ⟨sameAttempt.id, .refl _, .refl _, .refl _⟩
  | decide chosen waiting inserted =>
      exact
        ⟨rfl, UniqueTable.insert_extends inserted, .refl _, .refl _⟩
  | fenced underClaim passed applied =>
      exact (FencedWrite.apply_executes applied).grows
  | _ =>
      exact ⟨rfl, .refl _, .refl _, .refl _⟩

/-- A transaction under a claim finds the row in the hands of that claim. -/
theorem commitStore_owner
    {sha256 : String → String}
    {deployment : Deployment}
    {store after : Store}
    {transaction : Transaction}
    {claim : ClaimedRun}
    (issued : transaction.issuedUnder = some claim)
    (committed :
      transaction.commitStore sha256 deployment store = some after) :
    claim.runId = store.run.runId ∧
      store.run.workerId = some claim.workerId ∧
      store.run.attemptCount = claim.attemptCount := by
  cases commits_of_commitStore committed with
  | claimNextRun claimable =>
      cases issued
  | renewLease sameRun running owner held attempt =>
      cases issued
      exact ⟨sameRun, owner, attempt⟩
  | retryClaim sameRun running owner held attempt =>
      cases issued
      exact ⟨sameRun, owner, attempt⟩
  | releaseClaim sameRun owner attempt =>
      cases issued
      exact ⟨sameRun, owner, attempt⟩
  | expireExhaustedRuns exhausted =>
      cases issued
  | decide chosen waiting inserted =>
      cases issued
  | fenced underClaim passed applied =>
      cases issued
      obtain ⟨sameRun, owner, attempt, -, -⟩ := fence_some_eq_ok.mp passed
      exact ⟨sameRun.symm, owner, attempt⟩

end Transaction

/-- The life of a run whose first attempt ends at an approval, and is approved. -/
def approvedRun : List (RowLock.Action Transaction Nat) :=
  let claim : ClaimedRun := ⟨"INC-1", "RUN-1", "worker", 1, false⟩
  let artifact : PatchArtifact :=
    ⟨1, "pk", "base", "diff", "diff", some 2, true⟩
  let test : TestRun := ⟨2, "pk", .passed, some 0, "diff", "base"⟩
  let result : RunResult :=
    { testRunId := some 2, patchArtifactId := some 1 }
  let waiting : StatusChange :=
    { status := .waitingApproval
      workflowState := some .waitForApproval
      result := some result
      utcnow := 0 }
  [.commit (.claimNextRun "worker" 0),
    .commit (.fenced (some claim) 0 .markRunning),
    .commit (.fenced (some claim) 0 (.patchArtifact artifact)),
    .commit (.fenced (some claim) 0 (.investigation [test] none none (some 1))),
    .commit (.fenced (some claim) 0 (.markStatus .running waiting)),
    .commit (.releaseClaim claim),
    .commit
      (.decide result
        { decision := .approve
          actor := "human"
          reason := ""
          patchArtifactId := none
          patchHash := none } 1 1)]

end IncidentPilot
