import IncidentPilot.ApprovalResume
import IncidentPilot.LeaseFencing

/-!
# The durable record of the pull request

The row of `external_side_effects` and the run are written in transactions of
their own around the GitHub call.  While an attempt is between two of them, the
newest claim is the only one that can write, so what the attempt has recorded is
still there when it goes on.
-/

namespace IncidentPilot

/-- The fenced writes that neither touch a side effect nor resolve the run. -/
def FencedWrite.LeavesSideEffects : FencedWrite → Prop
  | .openSideEffect _ _ => False
  | .recordSideEffect _ _ => False
  | .markStatus _ change => change.status ≠ .resolved
  | _ => True

/-- Only `resume_after_approval` records side effects and resolves runs. -/
def LeavesSideEffects : RowLock.Action Transaction Nat → Prop
  | .commit (.fenced _ _ write) => write.LeavesSideEffects
  | _ => True

/-- The side effects are untouched and the run is not newly resolved. -/
structure Store.Undisturbed (before after : Store) : Prop where
  sideEffects : after.sideEffects = before.sideEffects
  id : after.run.id = before.run.id
  runId : after.run.runId = before.run.runId
  resolved :
    after.run.status = .resolved →
      before.run.status = .resolved ∧
        after.run.result = before.run.result

/-- A store is undisturbed by nothing. -/
theorem Store.Undisturbed.refl (store : Store) :
    store.Undisturbed store :=
  ⟨rfl, rfl, rfl, fun resolved => ⟨resolved, rfl⟩⟩

/-- Another version of the row that is not resolved disturbs nothing. -/
theorem Store.undisturbed_withRun
    {store : Store}
    {run : AgentRun}
    (id : run.id = store.run.id)
    (runId : run.runId = store.run.runId)
    (unresolved : run.status ≠ .resolved) :
    store.Undisturbed (store.withRun run) :=
  ⟨rfl, id, runId, fun resolved => absurd resolved unresolved⟩

/-- A write that leaves the side effects alone disturbs nothing. -/
theorem FencedWrite.apply_undisturbed
    {write : FencedWrite}
    {store after : Store}
    (leaves : write.LeavesSideEffects)
    (applied : write.apply store = .ok after) :
    store.Undisturbed after := by
  cases applies_of_apply applied with
  | check =>
      exact .refl _
  | markRunning active =>
      exact Store.undisturbed_withRun rfl rfl (by simp)
  | @markStatus previousStatus change allowed same =>
      have kept := change.apply_sameAttempt store.run
      refine Store.undisturbed_withRun kept.id kept.runId ?_
      rw [StatusChange.apply_status]
      exact leaves
  | progress =>
      exact ⟨rfl, rfl, rfl, fun resolved => ⟨resolved, rfl⟩⟩
  | investigation inserted =>
      exact ⟨rfl, rfl, rfl, fun resolved => ⟨resolved, rfl⟩⟩
  | artifactFound =>
      exact .refl _
  | artifactInserted inserted =>
      exact ⟨rfl, rfl, rfl, fun resolved => ⟨resolved, rfl⟩⟩
  | openSideEffect opened =>
      cases leaves
  | recordSideEffect recorded =>
      cases leaves

/-- A transaction that leaves the side effects alone disturbs nothing. -/
theorem Transaction.commitStore_undisturbed
    {sha256 : String → String}
    {deployment : Deployment}
    {store after : Store}
    {transaction : Transaction}
    (leaves : LeavesSideEffects (.commit transaction))
    (committed :
      transaction.commitStore sha256 deployment store = some after) :
    store.Undisturbed after := by
  cases commits_of_commitStore committed with
  | claimNextRun claimable =>
      exact
        Store.undisturbed_withRun rfl rfl (by simp [AgentRun.claimed])
  | renewLease sameRun running owner held attempt =>
      exact Store.undisturbed_withRun rfl rfl (by simp [running])
  | retryClaim sameRun running owner held attempt =>
      have same := commitStore_sameAttempt rfl committed
      refine Store.undisturbed_withRun same.id same.runId ?_
      unfold AgentRun.retried
      split <;> simp
  | releaseClaim sameRun owner attempt =>
      exact ⟨rfl, rfl, rfl, fun resolved => ⟨resolved, rfl⟩⟩
  | expireExhaustedRuns exhausted =>
      exact Store.undisturbed_withRun rfl rfl (by simp)
  | @decide loadedResult request updatedAt decidedAt artifact approvals
      chosen waiting inserted =>
      refine ⟨rfl, rfl, rfl, fun resolved => ?_⟩
      cases decision : request.decision <;>
        simp [AgentRun.decided, decision] at resolved
  | fenced underClaim passed applied =>
      exact FencedWrite.apply_undisturbed leaves applied

/-- What the side effect rows of the run say about it. -/
structure Store.Recorded (store : Store) : Prop where
  keyed :
    ∀ row ∈ store.sideEffects,
      ∀ patchHash,
        row.idempotencyKey = sideEffectKey store.run.runId patchHash →
        row.runPk = store.run.id ∧
          row.effectType = "github_pull_request"
  resolved :
    store.run.status = .resolved →
      ∃ row ∈ store.sideEffects,
        row.runPk = store.run.id ∧
          row.effectType = "github_pull_request" ∧
          row.status = .completed ∧
          store.run.result.pullRequest = row.result

/-- What is undisturbed stays recorded. -/
theorem Store.Recorded.undisturbed
    {before after : Store}
    (recorded : before.Recorded)
    (undisturbed : before.Undisturbed after) :
    after.Recorded where
  keyed row member patchHash key := by
    rw [undisturbed.sideEffects] at member
    rw [undisturbed.runId] at key
    rw [undisturbed.id]
    exact recorded.keyed row member patchHash key
  resolved resolved := by
    obtain ⟨earlier, sameResult⟩ := undisturbed.resolved resolved
    rw [undisturbed.sideEffects, undisturbed.id, sameResult]
    exact recorded.resolved earlier

/-- What the row of an attempt's pull request is like at a point. -/
def ResumePoint.Backed (store : Store) : ResumePoint → Prop
  | .fencing _ artifact => Open artifact
  | .calling _ artifact => Open artifact
  | .recording _ artifact _ => Open artifact
  | .resolving _ artifact pullRequest =>
      ∃ row ∈ store.sideEffects,
        row.idempotencyKey =
            sideEffectKey store.run.runId artifact.patchHash ∧
          row.status = .completed ∧
          row.result = some pullRequest
  | _ => True
where
  /-- The row is there and is not completed. -/
  Open (artifact : PatchArtifact) : Prop :=
    ∃ row ∈ store.sideEffects,
      row.idempotencyKey =
          sideEffectKey store.run.runId artifact.patchHash ∧
        row.status ≠ .completed

/-- What is undisturbed backs the same points. -/
theorem ResumePoint.Backed.undisturbed
    {before after : Store}
    {point : ResumePoint}
    (backed : point.Backed before)
    (undisturbed : before.Undisturbed after) :
    point.Backed after := by
  cases point with
  | fencing loaded artifact =>
      unfold ResumePoint.Backed ResumePoint.Backed.Open
      rw [undisturbed.sideEffects, undisturbed.runId]
      exact backed
  | calling loaded artifact =>
      unfold ResumePoint.Backed ResumePoint.Backed.Open
      rw [undisturbed.sideEffects, undisturbed.runId]
      exact backed
  | recording loaded artifact outcome =>
      unfold ResumePoint.Backed ResumePoint.Backed.Open
      rw [undisturbed.sideEffects, undisturbed.runId]
      exact backed
  | resolving loaded artifact pullRequest =>
      unfold ResumePoint.Backed
      rw [undisturbed.sideEffects, undisturbed.runId]
      exact backed
  | _ => trivial

/-- What a committed transaction of an attempt leaves behind. -/
structure RecordStep
    (before after : Store)
    (next : ResumePoint) : Prop where
  recorded : after.Recorded
  backed : next.Backed after
  kept :
    ∀ row ∈ before.sideEffects,
      row.status = .completed → row ∈ after.sideEffects

/-- An undisturbed store is left as it should be. -/
theorem Store.Undisturbed.recordStep
    {before after : Store}
    {next : ResumePoint}
    (undisturbed : before.Undisturbed after)
    (recorded : before.Recorded)
    (backed : next.Backed before) :
    RecordStep before after next where
  recorded := recorded.undisturbed undisturbed
  backed := backed.undisturbed undisturbed
  kept row member _ := by
    rw [undisturbed.sideEffects]
    exact member

/-- Updating a row that is not completed keeps the completed rows. -/
theorem updateSideEffect_kept
    {store : Store}
    {idempotencyKey : String}
    {status : SideEffectStatus}
    {attempts : Nat}
    {result : ExternalSideEffect → Option PullRequest}
    {error : ExternalSideEffect → Option String}
    {target row : ExternalSideEffect}
    (targetMember : target ∈ store.sideEffects)
    (targetKey : target.idempotencyKey = idempotencyKey)
    (unfinished : target.status ≠ .completed)
    (member : row ∈ store.sideEffects)
    (completed : row.status = .completed) :
    row ∈
      (updateSideEffect store idempotencyKey status attempts result
        error).sideEffects := by
  have differentKey : row.idempotencyKey ≠ idempotencyKey := by
    intro sameKey
    have same : row = target :=
      sideEffect_unique member targetMember
        (.inl (sameKey.trans targetKey.symm))
    rw [same] at completed
    exact unfinished completed
  exact mem_updateSideEffect.mpr ⟨row, member, by simp [differentKey]⟩

/-- Updating a row keeps what keys say about the run. -/
theorem updateSideEffect_recorded
    {store : Store}
    {idempotencyKey : String}
    {status : SideEffectStatus}
    {attempts : Nat}
    {result : ExternalSideEffect → Option PullRequest}
    {error : ExternalSideEffect → Option String}
    (recorded : store.Recorded)
    (running : store.run.status = .running) :
    (updateSideEffect store idempotencyKey status attempts result
      error).Recorded where
  keyed row member patchHash key := by
    obtain ⟨old, oldMember, rfl⟩ := mem_updateSideEffect.mp member
    split at key
    · rename_i target
      rw [if_pos target]
      exact recorded.keyed old oldMember patchHash key
    · rename_i other
      rw [if_neg other]
      exact recorded.keyed old oldMember patchHash key
  resolved resolved := by
    change store.run.status = .resolved at resolved
    rw [running] at resolved
    cases resolved

/-- A side effect is opened for a run that has no completed row. -/
theorem openSideEffect_recordStep
    {store after : Store}
    {loaded : LoadedRun}
    {artifact : PatchArtifact}
    (recorded : store.Recorded)
    (running : store.run.status = .running)
    (notCompleted :
      (findSideEffect store
            (sideEffectKey store.run.runId artifact.patchHash)).filter
          (fun effect => effect.status = .completed) =
        none)
    (opened :
      store.openSideEffect "github_pull_request"
          (sideEffectKey store.run.runId artifact.patchHash) =
        .ok after) :
    RecordStep store after (.fencing loaded artifact) := by
  rcases Store.openSideEffect_cases opened with
      ⟨absent, table, inserted, rfl⟩ | ⟨effect, found, rfl⟩
  · refine ⟨⟨?_, ?_⟩, ?_, ?_⟩
    · intro row member patchHash key
      rcases (UniqueTable.mem_insert inserted row).mp member with
          old | rfl
      · exact recorded.keyed row old patchHash key
      · exact ⟨rfl, rfl⟩
    · intro resolved
      change store.run.status = .resolved at resolved
      rw [running] at resolved
      cases resolved
    · exact
        ⟨_, (UniqueTable.mem_insert inserted _).mpr (.inr rfl), rfl,
          by simp⟩
    · intro row member _
      exact UniqueTable.insert_extends inserted row member
  · obtain ⟨effectMember, effectKey⟩ :=
      findSideEffect_eq_some_iff.mp found
    have unfinished : effect.status ≠ .completed := by
      simpa [found] using notCompleted
    refine ⟨updateSideEffect_recorded recorded running, ?_, ?_⟩
    · exact
        ⟨_, mem_updateSideEffect.mpr ⟨effect, effectMember, rfl⟩,
          by simp [effectKey, updateSideEffect],
          by simp [effectKey]⟩
    · intro row member completed
      exact
        updateSideEffect_kept effectMember effectKey unfinished member
          completed

/-- Recording a pull request completes the row that was opened. -/
theorem recordCompleted_recordStep
    {store : Store}
    {loaded : LoadedRun}
    {artifact : PatchArtifact}
    {pullRequest : PullRequest}
    (recorded : store.Recorded)
    (running : store.run.status = .running)
    (opened : ResumePoint.Backed.Open store artifact) :
    RecordStep store
      (store.recordSideEffect
        (sideEffectKey store.run.runId artifact.patchHash)
        (.completed pullRequest))
      (.resolving loaded artifact pullRequest) := by
  obtain ⟨effect, member, key, unfinished⟩ := opened
  refine ⟨updateSideEffect_recorded recorded running, ?_, ?_⟩
  · exact
      ⟨_, mem_updateSideEffect.mpr ⟨effect, member, rfl⟩,
        by simp [key, Store.recordSideEffect, updateSideEffect],
        by simp [key], by simp [key]⟩
  · intro row rowMember completed
    exact
      updateSideEffect_kept member key unfinished rowMember completed

/-- Recording a failure leaves the completed rows alone. -/
theorem recordFailed_recordStep
    {store : Store}
    {artifact : PatchArtifact}
    {error : String}
    {next : ResumePoint}
    (recorded : store.Recorded)
    (running : store.run.status = .running)
    (opened : ResumePoint.Backed.Open store artifact)
    (untracked : ∀ later, next.Backed later) :
    RecordStep store
      (store.recordSideEffect
        (sideEffectKey store.run.runId artifact.patchHash)
        (.failed error))
      next := by
  obtain ⟨effect, member, key, unfinished⟩ := opened
  refine
    ⟨updateSideEffect_recorded recorded running, untracked _, ?_⟩
  intro row rowMember completed
  exact updateSideEffect_kept member key unfinished rowMember completed

/-- Resolving a run reports the completed row it rests on. -/
theorem resolve_recordStep
    {store after : Store}
    {loaded : LoadedRun}
    {artifact : PatchArtifact}
    {effect : ExternalSideEffect}
    {utcnow : Instant}
    (recorded : store.Recorded)
    (member : effect ∈ store.sideEffects)
    (key :
      effect.idempotencyKey =
        sideEffectKey store.run.runId artifact.patchHash)
    (completed : effect.status = .completed)
    (applied :
      (FencedWrite.markStatus loaded.status
          (resolvedChange loaded effect.result utcnow)).apply store =
        .ok after) :
    RecordStep store after (.returned .resolved effect.result) := by
  obtain ⟨run, updated, rfl⟩ := Except.map_eq_ok applied
  obtain ⟨-, -, rfl⟩ := setStatus_eq_ok.mp updated
  obtain ⟨ownRun, ownType⟩ := recorded.keyed effect member _ key
  refine ⟨⟨recorded.keyed, ?_⟩, trivial, fun row rowMember _ => rowMember⟩
  intro resolved
  exact ⟨effect, member, ownRun, ownType, completed, rfl⟩

/-- A committed transaction of an attempt keeps the record. -/
theorem transact_recordStep
    {sha256 : String → String}
    {store after : Store}
    {input : ResumeInput}
    {point next : ResumePoint}
    {write : FencedWrite}
    (recorded : store.Recorded)
    (backed : point.Backed store)
    (running : store.run.status = .running)
    (move :
      point.move sha256 store input = some (.transact write next))
    (applied : write.apply store = .ok after) :
    RecordStep store after next := by
  cases point with
  | entering decision =>
      cases move
      exact
        (FencedWrite.apply_undisturbed (by trivial) applied).recordStep
          recorded trivial
  | guarding decision =>
      cases move
      exact
        (FencedWrite.apply_undisturbed (by trivial) applied).recordStep
          recorded trivial
  | rejecting loaded =>
      cases move
      exact
        (FencedWrite.apply_undisturbed
          (by simp [FencedWrite.LeavesSideEffects, rejectedChange])
          applied).recordStep recorded trivial
  | marking loaded artifact =>
      cases move
      exact
        (FencedWrite.apply_undisturbed
          (by simp [FencedWrite.LeavesSideEffects, creatingChange])
          applied).recordStep recorded trivial
  | opening loaded artifact =>
      simp only [ResumePoint.move] at move
      split at move
      · rename_i effect found
        cases move
        obtain ⟨query, completed⟩ := Option.filter_eq_some_iff.mp found
        obtain ⟨member, key⟩ := findSideEffect_eq_some_iff.mp query
        exact
          resolve_recordStep recorded member key
            (of_decide_eq_true completed) applied
      · rename_i notCompleted
        cases move
        exact
          openSideEffect_recordStep recorded running notCompleted applied
  | fencing loaded artifact =>
      cases move
      exact
        (FencedWrite.apply_undisturbed (by trivial) applied).recordStep
          recorded backed
  | recording loaded artifact outcome =>
      cases outcome with
      | ok pullRequest =>
          cases move
          cases applied
          exact recordCompleted_recordStep recorded running backed
      | failed retryable error =>
          cases move
          cases applied
          refine
            recordFailed_recordStep recorded running backed ?_
          intro later
          cases retryable <;> trivial
      | raised =>
          cases move
  | failing loaded error =>
      cases move
      exact
        (FencedWrite.apply_undisturbed
          (by simp [FencedWrite.LeavesSideEffects, failedChange])
          applied).recordStep recorded trivial
  | resolving loaded artifact pullRequest =>
      cases move
      obtain ⟨effect, member, key, completed, result⟩ := backed
      rw [← result] at applied ⊢
      exact resolve_recordStep recorded member key completed applied
  | choosing =>
      simp only [ResumePoint.move] at move
      split at move <;> cases move
  | selectingRun decision =>
      cases move
  | selectingApproval decision loaded =>
      simp only [ResumePoint.move] at move
      split at move
      · cases move
      · split at move <;> cases move
  | validating decision loaded approval =>
      simp only [ResumePoint.move] at move
      split at move
      · cases move
      · split at move
        · cases move
        · cases decision <;> cases move
  | refreshing artifact =>
      cases move
  | calling loaded artifact =>
      simp only [ResumePoint.move] at move
      split at move <;> cases move
  | idle =>
      cases move
  | executing =>
      cases move
  | returned status pullRequest =>
      cases move
  | raised error =>
      cases move
  | crashed =>
      cases move

/-- Going on without a transaction keeps what backs the attempt. -/
theorem goTo_backed
    {sha256 : String → String}
    {store : Store}
    {input : ResumeInput}
    {point next : ResumePoint}
    (backed : point.Backed store)
    (move : point.move sha256 store input = some (.goTo next)) :
    next.Backed store := by
  cases point with
  | choosing =>
      simp only [ResumePoint.move] at move
      split at move <;> cases move <;> trivial
  | selectingRun decision =>
      cases move
      trivial
  | selectingApproval decision loaded =>
      simp only [ResumePoint.move] at move
      split at move
      · cases move
        trivial
      · split at move <;> cases move <;> trivial
  | validating decision loaded approval =>
      simp only [ResumePoint.move] at move
      split at move
      · cases move
        trivial
      · split at move
        · cases move
          trivial
        · cases decision <;> cases move <;> trivial
  | refreshing artifact =>
      cases move
      trivial
  | opening loaded artifact =>
      simp only [ResumePoint.move] at move
      split at move <;> cases move
  | calling loaded artifact =>
      simp only [ResumePoint.move] at move
      split at move
      · cases move
        trivial
      · cases move
        exact backed
  | recording loaded artifact outcome =>
      cases outcome <;> cases move
  | entering decision =>
      cases move
  | guarding decision =>
      cases move
  | rejecting loaded =>
      cases move
  | marking loaded artifact =>
      cases move
  | fencing loaded artifact =>
      cases move
  | failing loaded error =>
      cases move
  | resolving loaded artifact pullRequest =>
      cases move
  | idle =>
      cases move
  | executing =>
      cases move
  | returned status pullRequest =>
      cases move
  | raised error =>
      cases move
  | crashed =>
      cases move

/--
Attempts run under granted claims, the rows say what they should, and the
attempt of the newest claim finds its row as it left it.
-/
structure ResumeState.Consistent (state : ResumeState) : Prop where
  started :
    ∀ claim,
      claim ∉ state.plane.granted →
        state.attempts claim = .idle ∨ state.attempts claim = .crashed
  recorded : state.plane.store.Recorded
  backed :
    ∀ claim,
      state.plane.granted.head? = some claim →
        (state.attempts claim).Backed state.plane.store

section

variable {sha256 : String → String}
variable {deployment : Deployment}

/-- An attempt that has a next move runs under a granted claim. -/
theorem ResumeState.Consistent.granted_of_move
    {state : ResumeState}
    {claim : ClaimedRun}
    {input : ResumeInput}
    {move : ResumeMove}
    (consistent : state.Consistent)
    (next :
      (state.attempts claim).move sha256 state.plane.store input =
        some move) :
    claim ∈ state.plane.granted := by
  by_contra foreign
  rcases consistent.started claim foreign with idle | crashed
  · rw [idle] at next
    cases next
  · rw [crashed] at next
    cases next

/-- An attempt that commits runs under the newest claim, on a running row. -/
theorem advance_newest
    {state : ResumeState}
    {after : ControlPlane}
    {claim : ClaimedRun}
    {input : ResumeInput}
    {move : ResumeMove}
    {write : FencedWrite}
    (consistent : state.Consistent)
    (reached :
      (ControlPlane.lifecycle sha256 deployment).Reachable state.plane)
    (next :
      (state.attempts claim).move sha256 state.plane.store input =
        some move)
    (committed :
      state.plane.commit sha256 deployment
          (.fenced (some claim) input.current write) =
        some after) :
    state.plane.granted.head? = some claim ∧
      state.plane.store.run.status = .running := by
  have written := (ControlPlane.commit_eq_some.mp committed).2.1
  obtain ⟨-, passed, -⟩ := Transaction.commitStore_eq_some.mp written
  have holds := fence_some_eq_ok.mp passed
  have granted := consistent.granted_of_move next
  have owned := ControlPlane.owned_of_reachable reached
  obtain ⟨newest, head, newestHolds⟩ :=
    owned.owner (by rw [holds.2.1]; simp)
  have same : newest = claim :=
    ControlPlane.holder_unique
      (ControlPlane.ordered_of_reachable reached)
      (List.mem_of_mem_head? head) granted newestHolds
      ⟨holds.2.1, holds.2.2.1⟩
  exact ⟨same ▸ head, holds.2.2.2.2⟩

/-- A claim just granted has not started an attempt. -/
theorem ControlPlane.grant_fresh
    {plane : ControlPlane}
    {workerId : String}
    (owned : plane.Owned) :
    plane.store.run.claimOf workerId ∉ plane.granted := by
  intro member
  exact absurd (owned.behind _ member) (Nat.not_succ_le_self _)

/-- The rest of the system keeps attempts and rows consistent. -/
theorem ResumeState.Consistent.environment
    {state : ResumeState}
    {after : ControlPlane}
    {action : RowLock.Action Transaction Nat}
    (consistent : state.Consistent)
    (owned : state.plane.Owned)
    (leaves : LeavesSideEffects action)
    (moved :
      (ControlPlane.lifecycle sha256 deployment).step state.plane action
        after) :
    ResumeState.Consistent { state with plane := after } := by
  cases moved with
  | drift seconds =>
      exact
        ⟨consistent.started, consistent.recorded, consistent.backed⟩
  | @commit _ transaction committed =>
      obtain ⟨-, written, -, history⟩ :=
        ControlPlane.commit_eq_some.mp committed
      have undisturbed :=
        Transaction.commitStore_undisturbed leaves written
      refine ⟨?_, consistent.recorded.undisturbed undisturbed, ?_⟩
      · intro claim foreign
        apply consistent.started
        intro member
        apply foreign
        change claim ∈ after.granted
        rw [history]
        exact List.mem_append_right _ member
      · intro claim head
        change after.granted.head? = some claim at head
        rw [history] at head
        cases granting : transaction.grants state.plane.store with
        | none =>
            rw [granting] at head
            exact (consistent.backed claim head).undisturbed undisturbed
        | some granted =>
            have same : granted = claim := by
              simpa [granting] using head
            have fresh : claim ∉ state.plane.granted := by
              cases transaction <;> cases granting
              rw [← same]
              exact ControlPlane.grant_fresh owned
            change (state.attempts claim).Backed after.store
            rcases consistent.started claim fresh with idle | crashed
            · rw [idle]
              trivial
            · rw [crashed]
              trivial

/-- An attempt may be put at any point that is backed. -/
theorem ResumeState.Consistent.update
    {state : ResumeState}
    {claim : ClaimedRun}
    {point : ResumePoint}
    (consistent : state.Consistent)
    (started : claim ∉ state.plane.granted → point = .crashed)
    (backed :
      state.plane.granted.head? = some claim →
        point.Backed state.plane.store) :
    ResumeState.Consistent
      { state with
        attempts := Function.update state.attempts claim point } where
  started other foreign := by
    by_cases same : other = claim
    · subst same
      right
      simpa using started foreign
    · simpa [same] using consistent.started other foreign
  recorded := consistent.recorded
  backed other head := by
    by_cases same : other = claim
    · subst same
      simpa using backed head
    · simpa [same] using consistent.backed other head

/-- A committed transaction of an attempt keeps everything consistent. -/
theorem ResumeState.Consistent.transacted
    {state : ResumeState}
    {after : ControlPlane}
    {claim : ClaimedRun}
    {input : ResumeInput}
    {write : FencedWrite}
    {point : ResumePoint}
    (consistent : state.Consistent)
    (reached :
      (ControlPlane.lifecycle sha256 deployment).Reachable state.plane)
    (next :
      (state.attempts claim).move sha256 state.plane.store input =
        some (.transact write point))
    (committed :
      state.plane.commit sha256 deployment
          (.fenced (some claim) input.current write) =
        some after) :
    ResumeState.Consistent
        { plane := after
          attempts := Function.update state.attempts claim point } ∧
      ∀ row ∈ state.plane.store.sideEffects,
        row.status = .completed → row ∈ after.store.sideEffects := by
  obtain ⟨head, running⟩ :=
    advance_newest consistent reached next committed
  obtain ⟨-, written, -, history⟩ :=
    ControlPlane.commit_eq_some.mp committed
  have applied :=
    (Transaction.commitStore_eq_some.mp written).2.2
  have left :=
    transact_recordStep consistent.recorded
      (consistent.backed claim head) running next applied
  refine ⟨⟨?_, left.recorded, ?_⟩, left.kept⟩
  · intro other foreign
    change other ∉ after.granted at foreign
    rw [history] at foreign
    have different : other ≠ claim := by
      rintro rfl
      exact foreign (consistent.granted_of_move next)
    simpa [different] using consistent.started other foreign
  · intro other otherHead
    change after.granted.head? = some other at otherHead
    rw [history] at otherHead
    have same : claim = other :=
      Option.some.inj (head.symm.trans otherHead)
    subst same
    simpa using left.backed

/-- Every step keeps everything consistent, and the completed rows. -/
theorem ResumeStep.consistent
    {before after : ResumeState}
    {action : ResumeAction}
    (consistent : before.Consistent)
    (reached :
      (ControlPlane.lifecycle sha256 deployment).Reachable before.plane)
    (step :
      ResumeStep sha256 deployment LeavesSideEffects before action
        after) :
    after.Consistent ∧
      ∀ row ∈ before.plane.store.sideEffects,
        row.status = .completed →
          row ∈ after.plane.store.sideEffects := by
  cases step with
  | environment moved leaves =>
      refine
        ⟨consistent.environment
            (ControlPlane.owned_of_reachable reached) leaves moved, ?_⟩
      intro row member _
      cases moved with
      | drift seconds => exact member
      | commit committed =>
          have undisturbed :=
            Transaction.commitStore_undisturbed leaves
              (ControlPlane.commit_eq_some.mp committed).2.1
          change row ∈ Store.sideEffects _
          rw [undisturbed.sideEffects]
          exact member
  | @start claim decision granted idle =>
      refine ⟨consistent.update ?_ ?_, fun row member _ => member⟩
      · exact fun foreign => absurd granted foreign
      · cases decision <;> exact fun _ => trivial
  | @advance claim input move after point next performed =>
      have granted := consistent.granted_of_move next
      rcases ResumeMove.perform_cases performed with
          ⟨rfl, rfl | rfl⟩ | ⟨write, rfl, committed⟩
      · refine ⟨consistent.update ?_ ?_, fun row member _ => member⟩
        · exact fun foreign => absurd granted foreign
        · exact fun head => goTo_backed (consistent.backed claim head) next
      · refine ⟨consistent.update ?_ ?_, fun row member _ => member⟩
        · exact fun foreign => absurd granted foreign
        · exact fun _ => trivial
      · exact consistent.transacted reached next committed
  | crash claim =>
      exact
        ⟨consistent.update (fun _ => rfl) (fun _ => trivial),
          fun row member _ => member⟩

/-- A run just admitted has nothing recorded and no attempt. -/
theorem ControlPlane.Initial.consistent
    {state : ResumeState}
    (initial : state.plane.Initial)
    (idle : ∀ claim, state.attempts claim = .idle) :
    state.Consistent where
  started claim _ := .inl (idle claim)
  recorded :=
    { keyed := fun row member patchHash key =>
        absurd key (initial.noKey row member patchHash)
      resolved := by
        obtain ⟨id, runId, incidentPk, startedAt, fresh⟩ :=
          initial.admitted
        intro resolved
        rw [fresh] at resolved
        cases resolved }
  backed claim _ := by
    rw [idle claim]
    trivial

/-- Every reachable state is consistent. -/
theorem consistent_of_reachable
    {state : ResumeState}
    (reached :
      (resumption sha256 deployment LeavesSideEffects).Reachable
        state) :
    state.Consistent := by
  induction reached with
  | initial begins =>
      exact begins.1.consistent begins.2
  | step earlier last inductionHypothesis =>
      exact
        (ResumeStep.consistent inductionHypothesis
          (resumption_plane earlier) last).1

end

end IncidentPilot
