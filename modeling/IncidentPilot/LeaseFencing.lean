import IncidentPilot.RunLifecycle
import IncidentPilot.Library.Fencing

/-!
# Lease fencing

The pair of worker and `attempt_count` is a fencing token.  The row belongs to
nobody or to the newest claim, whatever stale workers try, and the control plane
simulates the token authority of `Library.Fencing`.
-/

namespace IncidentPilot

namespace ControlPlane

/-- The row is in the hands of a claim. -/
def Holds (plane : ControlPlane) (claim : ClaimedRun) : Prop :=
  plane.store.run.workerId = some claim.workerId ∧
    plane.store.run.attemptCount = claim.attemptCount

/-- The claim would pass the fence now. -/
def Live (plane : ControlPlane) (claim : ClaimedRun) : Prop :=
  FenceHolds claim plane.clock plane.store.run

/-- No claim is ahead of the row, and an owned row is owned by the newest. -/
structure Owned (plane : ControlPlane) : Prop where
  behind :
    ∀ claim ∈ plane.granted,
      claim.attemptCount ≤ plane.store.run.attemptCount
  owner :
    plane.store.run.workerId ≠ none →
      ∃ newest,
        plane.granted.head? = some newest ∧ plane.Holds newest

/-- A run just admitted is owned by nobody. -/
theorem Initial.owned
    {plane : ControlPlane}
    (initial : plane.Initial) :
    plane.Owned where
  behind claim member := by
    rw [initial.ungranted] at member
    cases member
  owner owned := by
    obtain ⟨id, runId, incidentPk, startedAt, fresh⟩ := initial.admitted
    rw [fresh] at owned
    exact absurd rfl owned

/-- Keeping the attempt and the history keeps the ownership. -/
theorem Owned.sameAttempt
    {before after : ControlPlane}
    (owned : before.Owned)
    (sameAttempt : before.store.run.SameAttempt after.store.run)
    (history : after.granted = before.granted) :
    after.Owned where
  behind claim member := by
    rw [history] at member
    rw [sameAttempt.attemptCount]
    exact owned.behind claim member
  owner hasOwner := by
    rcases sameAttempt.owner with kept | cleared
    · rw [kept] at hasOwner
      obtain ⟨newest, head, worker, attempt⟩ := owned.owner hasOwner
      exact
        ⟨newest, history ▸ head, kept.trans worker,
          sameAttempt.attemptCount.trans attempt⟩
    · exact absurd cleared hasOwner

/-- A claim makes itself the owner. -/
theorem owned_of_claimed
    {before after : ControlPlane}
    {workerId : String}
    {leaseSeconds : Nat}
    {current : Instant}
    (owned : before.Owned)
    (claimed :
      after.store =
        before.store.withRun
          (before.store.run.claimed workerId leaseSeconds current))
    (history :
      after.granted =
        before.store.run.claimOf workerId :: before.granted) :
    after.Owned where
  behind claim member := by
    rw [history] at member
    rw [claimed]
    rcases List.mem_cons.mp member with isNew | isOld
    · rw [isNew]
      exact Nat.le_refl _
    · exact Nat.le_succ_of_le (owned.behind claim isOld)
  owner _ := by
    refine ⟨before.store.run.claimOf workerId, ?_, ?_⟩
    · rw [history]
      rfl
    · unfold Holds
      rw [claimed]
      exact ⟨rfl, rfl⟩

/-- Every transaction keeps the ownership. -/
theorem owned_commit
    {sha256 : String → String}
    {deployment : Deployment}
    {before after : ControlPlane}
    {transaction : Transaction}
    (owned : before.Owned)
    (committed :
      before.commit sha256 deployment transaction = some after) :
    after.Owned := by
  obtain ⟨-, written, -, history⟩ := commit_eq_some.mp committed
  cases granting : transaction.grants before.store with
  | none =>
      rw [granting] at history
      exact
        owned.sameAttempt
          (Transaction.commitStore_sameAttempt granting written) history
  | some claim =>
      cases transaction <;> cases granting
      exact
        owned_of_claimed owned
          (Transaction.commitStore_eq_some.mp written).2 history

/-- Every reachable row is owned by nobody or by the newest claim. -/
theorem owned_of_reachable
    {sha256 : String → String}
    {deployment : Deployment}
    {plane : ControlPlane}
    (reached : (lifecycle sha256 deployment).Reachable plane) :
    plane.Owned := by
  refine reached.invariant Initial.owned ?_
  intro before action after owned step
  cases step with
  | commit committed =>
      exact owned_commit owned committed
  | drift seconds =>
      exact ⟨owned.behind, owned.owner⟩

/-- What commits under a claim commits under the newest claim. -/
theorem commit_newest
    {sha256 : String → String}
    {deployment : Deployment}
    {before after : ControlPlane}
    {transaction : Transaction}
    {claim : ClaimedRun}
    (owned : before.Owned)
    (issued : transaction.issuedUnder = some claim)
    (committed :
      before.commit sha256 deployment transaction = some after) :
    ∃ newest,
      before.granted.head? = some newest ∧
        newest.workerId = claim.workerId ∧
        newest.attemptCount = claim.attemptCount := by
  obtain ⟨-, worker, attempt⟩ :=
    Transaction.commitStore_owner issued
      (commit_eq_some.mp committed).2.1
  obtain ⟨newest, head, sameWorker, sameAttempt⟩ :=
    owned.owner (by simp [worker])
  refine ⟨newest, head, ?_, sameAttempt.symm.trans attempt⟩
  exact Option.some.inj (sameWorker.symm.trans worker)

/-- The token of a claim. -/
def token (claim : ClaimedRun) : String × Nat :=
  (claim.workerId, claim.attemptCount)

/-- The control plane seen as a token authority. -/
def authorityState (plane : ControlPlane) : Fencing.State String Store where
  grants := plane.granted.map token
  value := plane.store

/-- Each transaction is a grant, a write of the newest holder, or its own. -/
theorem commit_authority
    {sha256 : String → String}
    {deployment : Deployment}
    {before after : ControlPlane}
    {transaction : Transaction}
    (owned : before.Owned)
    (committed :
      before.commit sha256 deployment transaction = some after) :
    ∃ action,
      Fencing.Step deployment.maxJobAttempts before.authorityState action
        after.authorityState := by
  obtain ⟨-, written, -, history⟩ := commit_eq_some.mp committed
  cases granting : transaction.grants before.store with
  | some claim =>
      cases transaction <;> cases granting
      obtain ⟨⟨-, below⟩, claimed⟩ :=
        Transaction.commitStore_eq_some.mp written
      rename_i workerId current
      have fresh :
          ∀ earlier ∈ before.authorityState.grants,
            earlier.2 < before.store.run.attemptCount + 1 := by
        intro earlier member
        obtain ⟨claim, inGranted, rfl⟩ := List.mem_map.mp member
        exact Nat.lt_succ_of_le (owned.behind claim inGranted)
      refine ⟨.grant workerId (before.store.run.attemptCount + 1) after.store, ?_⟩
      have image :
          after.authorityState =
            ⟨(workerId, before.store.run.attemptCount + 1) ::
              before.authorityState.grants, after.store⟩ := by
        unfold authorityState
        rw [history]
        rfl
      rw [image]
      exact .grant fresh below after.store
  | none =>
      rw [granting] at history
      have image :
          after.authorityState =
            { before.authorityState with value := after.store } := by
        unfold authorityState
        rw [history]
        rfl
      rw [image]
      cases issued : transaction.issuedUnder with
      | none =>
          exact ⟨_, .administer _ after.store⟩
      | some claim =>
          obtain ⟨newest, head, -, -⟩ :=
            commit_newest owned issued committed
          refine
            ⟨.write newest.workerId newest.attemptCount after.store,
              .write ?_ after.store⟩
          simp [authorityState, head, token]

/-- The control plane simulates the token authority. -/
def fencing
    (sha256 : String → String)
    (deployment : Deployment) :
    Machine.Simulation (lifecycle sha256 deployment)
      (Fencing.authority deployment.maxJobAttempts fun _ => True :
        Machine (Fencing.State String Store)
          (Fencing.Action String Store)) where
  related plane image :=
    plane.Owned ∧ image = authorityState plane
  initial := by
    intro plane initial
    refine ⟨authorityState plane, ⟨?_, trivial⟩, initial.owned, rfl⟩
    simp [authorityState, initial.ungranted]
  step := by
    rintro before action after image ⟨owned, rfl⟩ step
    cases step with
    | commit committed =>
        obtain ⟨action, moved⟩ := commit_authority owned committed
        exact
          .inr ⟨action, _, moved, owned_commit owned committed, rfl⟩
    | drift seconds =>
        exact .inl ⟨⟨owned.behind, owned.owner⟩, rfl⟩

/-- The tokens granted in a reachable state are ordered. -/
theorem ordered_of_reachable
    {sha256 : String → String}
    {deployment : Deployment}
    {plane : ControlPlane}
    (reached : (lifecycle sha256 deployment).Reachable plane) :
    Fencing.Ordered deployment.maxJobAttempts
      (plane.granted.map token) := by
  obtain ⟨image, imageReached, -, same⟩ :=
    (fencing sha256 deployment).reachable reached
  have ordered := Fencing.ordered_of_reachable imageReached
  rw [same] at ordered
  exact ordered

/-- Two granted claims that both hold the row are one claim. -/
theorem holder_unique
    {limit : Nat}
    {plane : ControlPlane}
    {first second : ClaimedRun}
    (ordered : Fencing.Ordered limit (plane.granted.map token))
    (firstGranted : first ∈ plane.granted)
    (secondGranted : second ∈ plane.granted)
    (firstHolds : plane.Holds first)
    (secondHolds : plane.Holds second) :
    first = second := by
  have increasing := List.pairwise_map.mp ordered.increasing
  by_contra different
  have : Std.Symm fun left right : ClaimedRun =>
      left.attemptCount ≠ right.attemptCount :=
    ⟨fun _ _ apart => apart.symm⟩
  have apart :
      plane.granted.Pairwise fun left right =>
        left.attemptCount ≠ right.attemptCount :=
    increasing.imp fun below => Nat.ne_of_gt below
  exact
    apart.forall firstGranted secondGranted different
      (firstHolds.2.symm.trans secondHolds.2)

end ControlPlane

/--
Lease fencing under the row lock, for workers that are slow, crash or reuse
their name: attempts strictly increase up to the limit; what commits under a
claim commits under the newest one, so nothing commits under an earlier
attempt; and no two claims are live at once.
-/
theorem lease_fencing
    {sha256 : String → String}
    {maxJobAttempts jobLeaseSeconds : Nat}
    {locked : RowLock.Locked ControlPlane Transaction}
    (reached :
      (ControlPlane.lockedLifecycle sha256
        (.durable maxJobAttempts jobLeaseSeconds)).Reachable locked) :
    (locked.store.granted.Pairwise fun later earlier =>
        earlier.attemptCount < later.attemptCount) ∧
      (∀ claim ∈ locked.store.granted,
        claim.attemptCount ≤ maxJobAttempts) ∧
      (∀ {after transaction claim},
        transaction.issuedUnder = some claim →
        locked.holder = some transaction →
        (ControlPlane.lockedLifecycle sha256
            (.durable maxJobAttempts jobLeaseSeconds)).step locked
          .commit after →
        (∃ newest,
            locked.store.granted.head? = some newest ∧
              newest.workerId = claim.workerId ∧
              newest.attemptCount = claim.attemptCount) ∧
          ∀ granted ∈ locked.store.granted,
            granted.attemptCount ≤ claim.attemptCount) ∧
      ∀ first ∈ locked.store.granted,
        ∀ second ∈ locked.store.granted,
          locked.store.Live first →
          locked.store.Live second →
          first = second := by
  have planeReached := RowLock.reachable_store reached
  have owned := ControlPlane.owned_of_reachable planeReached
  have ordered := ControlPlane.ordered_of_reachable planeReached
  refine ⟨List.pairwise_map.mp ordered.increasing, ?_, ?_, ?_⟩
  · intro claim granted
    exact ordered.bounded _ (List.mem_map_of_mem granted)
  · intro after transaction claim issued held step
    obtain ⟨plane, holder⟩ := locked
    cases held
    cases step with
    | commit committed =>
        obtain ⟨newest, head, worker, attempt⟩ :=
          ControlPlane.commit_newest owned issued committed
        refine ⟨⟨newest, head, worker, attempt⟩, ?_⟩
        intro granted member
        have headToken :
            (plane.granted.map ControlPlane.token).head? =
              some (ControlPlane.token newest) := by
          simp [head]
        rw [← attempt]
        exact ordered.le_newest headToken (List.mem_map_of_mem member)
  · intro first firstGranted second secondGranted firstLive secondLive
    exact
      ControlPlane.holder_unique ordered firstGranted secondGranted
        ⟨firstLive.2.1, firstLive.2.2.1⟩
        ⟨secondLive.2.1, secondLive.2.2.1⟩

/--
A worker that lost its first lease and claimed the run again under the same name
can commit nothing under the first attempt.
-/
theorem lease_fencing_reused_worker :
    ∃ plane,
      (ControlPlane.rowLock id (.durable 3 60)).execute
          (.admitted "pk" "RUN-1" "INC-1" 0)
          [.commit (.claimNextRun "worker" 0), .drift 60,
            .commit (.claimNextRun "worker" 60)] = some plane ∧
        ∀ {transaction claim after},
          transaction.issuedUnder = some claim →
          claim.attemptCount ≤ 1 →
          ¬ (ControlPlane.lockedLifecycle id (.durable 3 60)).step
              ⟨plane, some transaction⟩ .commit after := by
  refine ⟨_, rfl, ?_⟩
  intro transaction claim after issued early step
  have idle :=
    ControlPlane.reachable_of_execute
      (ControlPlane.admitted_initial "pk" "RUN-1" "INC-1" 0)
      (rfl :
        (ControlPlane.rowLock id (.durable 3 60)).execute
            (.admitted "pk" "RUN-1" "INC-1" 0)
            [.commit (.claimNextRun "worker" 0), .drift 60,
              .commit (.claimNextRun "worker" 60)] = some _)
  have taken := step
  cases taken with
  | commit committed =>
      have holding := idle.step (RowLock.LockedStep.acquire committed)
      obtain ⟨-, notLater⟩ :=
        (lease_fencing holding).2.2.1 issued rfl step
      have second := notLater _ List.mem_cons_self
      exact absurd (Nat.le_trans second early) (by decide)

end IncidentPilot
