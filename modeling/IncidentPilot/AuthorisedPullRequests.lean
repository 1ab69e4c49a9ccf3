import IncidentPilot.ApiGuarantees
import IncidentPilot.PullRequestApproval

/-!
# From the caller's credential to the pull request

The API, the workers and the attempts to resume runs after their approval, on
one database with any number of runs.  An attempt may belong to a claim of a
worker or to the embedded executor, which has none; attempts of one run may go
on side by side, and each of them may die.  `calls` is a history variable: what
an attempt of a run has set out to ask of GitHub.
-/

namespace IncidentPilot

/-- An attempt to resume a run. -/
structure ResumeAttempt where
  runPk : String
  claim : Option ClaimedRun
  point : ResumePoint

/-- The control plane with its callers, and the attempts on its runs. -/
structure Platform where
  api : ApiPool
  attempts : Nat → Option ResumeAttempt
  calls : List (String × GithubCall)

/-- The rows of all runs. -/
def Platform.world (platform : Platform) : ApiWorld :=
  platform.api.world

/-- The call of GitHub an attempt at this point is about to make. -/
def ResumePoint.call (runId : String) : ResumePoint → Option GithubCall
  | .calling _ artifact => some (githubCall runId artifact)
  | _ => none

/--
A move is made on one of the runs; a transaction that does not commit raises.
-/
def ResumeMove.performOn
    (setup : ApiSetup)
    (world : ApiWorld)
    (row : AgentRun)
    (claim : Option ClaimedRun)
    (input : ResumeInput) : ResumeMove → ApiWorld × ResumePoint
  | .goTo point => (world, point)
  | .transact write next =>
      match
        (Transaction.fenced claim input.current write).commitStore
          setup.sha256 setup.deployment (world.database.storeOf row) with
      | some store => (world.withStore row.id store, next)
      | none => (world, .raised .transaction)

namespace Platform

/-- An attempt stands at a point, in a world that may have changed. -/
def advanced
    (platform : Platform)
    (who : Nat)
    (attempt : ResumeAttempt)
    (row : AgentRun)
    (world : ApiWorld)
    (point : ResumePoint) : Platform where
  api := { platform.api with world := world }
  attempts :=
    Function.update platform.attempts who
      (some { attempt with point := point })
  calls :=
    ((point.call row.runId).map fun call => (row.id, call)).toList ++
      platform.calls

end Platform

/-- The labels of the machine. -/
inductive PlatformAction where
  | api (action : Program.PoolAction ApiCall)
  | start
      (who : Nat)
      (runPk : String)
      (claim : Option ClaimedRun)
      (decision : Option ApprovalDecision)
  | advance (who : Nat) (input : ResumeInput)
  | crash (who : Nat)

/--
The steps of the machine.  An attempt begins with the worker's choice, or with a
decision that the embedded executor or the workflow graph passes on.
-/
inductive PlatformStep (setup : ApiSetup) :
    Platform → PlatformAction → Platform → Prop where
  | api
      {platform : Platform}
      {action : Program.PoolAction ApiCall}
      {after : ApiPool}
      (moved : setup.api.step platform.api action after) :
      PlatformStep setup platform (.api action)
        { platform with api := after }
  | start
      {platform : Platform}
      {who : Nat}
      {runPk : String}
      {row : AgentRun}
      (claim : Option ClaimedRun)
      (decision : Option ApprovalDecision)
      (free : platform.attempts who = none)
      (found : platform.world.database.runOf runPk = some row) :
      PlatformStep setup platform (.start who runPk claim decision)
        { platform with
          attempts :=
            Function.update platform.attempts who
              (some ⟨runPk, claim, decision.elim .choosing .entering⟩) }
  | advance
      {platform : Platform}
      {who : Nat}
      {attempt : ResumeAttempt}
      {row : AgentRun}
      {input : ResumeInput}
      {move : ResumeMove}
      {world : ApiWorld}
      {point : ResumePoint}
      (stands : platform.attempts who = some attempt)
      (found : platform.world.database.runOf attempt.runPk = some row)
      (next :
        attempt.point.move setup.sha256
            (platform.world.database.storeOf row) input =
          some move)
      (performed :
        move.performOn setup platform.world row attempt.claim input =
          (world, point)) :
      PlatformStep setup platform (.advance who input)
        (platform.advanced who attempt row world point)
  | crash
      {platform : Platform}
      {who : Nat}
      {attempt : ResumeAttempt}
      (stands : platform.attempts who = some attempt) :
      PlatformStep setup platform (.crash who)
        { platform with
          attempts :=
            Function.update platform.attempts who
              (some { attempt with point := .crashed }) }

/-- The whole control plane, begun without attempts. -/
def ApiSetup.platform (setup : ApiSetup) :
    Machine Platform PlatformAction where
  initial platform :=
    setup.api.initial platform.api ∧
      (∀ who, platform.attempts who = none) ∧
      platform.calls = []
  step := PlatformStep setup

section

variable {setup : ApiSetup}

/-- A move goes on as it is, it commits its transaction, or it raises. -/
theorem ResumeMove.performOn_cases
    {world after : ApiWorld}
    {row : AgentRun}
    {claim : Option ClaimedRun}
    {input : ResumeInput}
    {move : ResumeMove}
    {point : ResumePoint}
    (performed :
      move.performOn setup world row claim input = (after, point)) :
    (after = world ∧
        (move = .goTo point ∨ point = .raised .transaction)) ∨
      ∃ write store,
        move = .transact write point ∧
          (Transaction.fenced claim input.current write).commitStore
              setup.sha256 setup.deployment
              (world.database.storeOf row) =
            some store ∧
          after = world.withStore row.id store := by
  cases move with
  | goTo target =>
      cases performed
      exact .inl ⟨rfl, .inl rfl⟩
  | transact write next =>
      cases committed :
          (Transaction.fenced claim input.current write).commitStore
            setup.sha256 setup.deployment
            (world.database.storeOf row) with
      | none =>
          simp only [performOn, committed, Prod.mk.injEq] at performed
          exact .inl ⟨performed.1.symm, .inr performed.2.symm⟩
      | some store =>
          simp only [performOn, committed, Prod.mk.injEq] at performed
          obtain ⟨rfl, rfl⟩ := performed
          exact .inr ⟨write, store, rfl, committed, rfl⟩

/-- What a move does to the rows, a worker may do. -/
theorem ResumeMove.performOn_writes
    {world after : ApiWorld}
    {runPk : String}
    {row : AgentRun}
    {claim : Option ClaimedRun}
    {input : ResumeInput}
    {move : ResumeMove}
    {point : ResumePoint}
    (found : world.database.runOf runPk = some row)
    (performed :
      move.performOn setup world row claim input = (after, point)) :
    after = world ∨
      WorkersWrite setup.sha256 setup.deployment world after := by
  rcases ResumeMove.performOn_cases performed with
    ⟨same, -⟩ | ⟨write, store, -, committed, rfl⟩
  · exact .inl same
  · obtain ⟨-, named⟩ := Database.runOf_eq_some found
    exact .inr (.transaction _ rfl (named ▸ found) committed)

/-- Every step is a step of the API and its workers, or leaves them alone. -/
theorem PlatformStep.api_cases
    {before after : Platform}
    {action : PlatformAction}
    (step : PlatformStep setup before action after) :
    after.api = before.api ∨
      ∃ inner, setup.api.step before.api inner after.api := by
  cases step with
  | api moved =>
      exact .inr ⟨_, moved⟩
  | start claim decision free found =>
      exact .inl rfl
  | advance stands found next performed =>
      rcases ResumeMove.performOn_writes found performed with
        rfl | writes
      · exact .inl rfl
      · exact .inr ⟨.other, .other writes⟩
  | crash stands =>
      exact .inl rfl

/-- The API of the platform has been reached by steps of its own. -/
theorem platform_api
    {platform : Platform}
    (reached : setup.platform.Reachable platform) :
    setup.api.Reachable platform.api := by
  induction reached with
  | initial begins =>
      exact .initial begins.1
  | step earlier last inductionHypothesis =>
      rcases last.api_cases with same | ⟨inner, moved⟩
      · rw [same]
        exact inductionHypothesis
      · exact inductionHypothesis.step moved

/-- Every step from a reachable platform makes the rows grow. -/
theorem PlatformStep.grows
    {before after : Platform}
    {action : PlatformAction}
    (reached : setup.api.Reachable before.api)
    (step : PlatformStep setup before action after) :
    before.world.Grows after.world := by
  rcases step.api_cases with same | ⟨inner, moved⟩
  · unfold Platform.world
    rw [same]
    exact .refl _
  · exact
      ((ApiSetup.sound_of_reachable reached).step setup.cooperates moved).2

/-- A query for the primary key of a run finds the run. -/
theorem Database.runOf_of_mem
    {database : Database}
    {run : AgentRun}
    (member : run ∈ database.runs) :
    database.runOf run.id = some run := by
  refine (UniqueTable.find_eq_some_iff ?_).mpr ⟨member, by simp⟩
  intro first second firstNamed secondNamed
  simp only [decide_eq_true_eq] at firstNamed secondNamed
  simp [AgentRun.conflicts, firstNamed, secondNamed]

/-- As the rows grow, so does what a transaction on one run sees. -/
theorem ApiWorld.Grows.storeOf
    {before after : ApiWorld}
    {runPk : String}
    {row : AgentRun}
    (grows : before.Grows after)
    (found : before.database.runOf runPk = some row) :
    ∃ later,
      after.database.runOf runPk = some later ∧
        later.runId = row.runId ∧
        (before.database.storeOf row).Grows
          (after.database.storeOf later) := by
  obtain ⟨member, named⟩ := Database.runOf_eq_some found
  obtain ⟨later, inTable, sameId, sameRunId, -⟩ := grows.runs row member
  have isFound : after.database.runOf later.id = some later :=
    Database.runOf_of_mem inTable
  rw [sameId.trans named] at isFound
  exact
    ⟨later, isFound, sameRunId,
      ⟨sameId, grows.approvals, grows.patchArtifacts, grows.testRuns⟩⟩

/-- What an attempt has found out about its run. -/
def ResumeAttempt.Justified
    (sha256 : String → String)
    (world : ApiWorld)
    (attempt : ResumeAttempt) : Prop :=
  ∃ row,
    world.database.runOf attempt.runPk = some row ∧
      attempt.point.Justified sha256 (world.database.storeOf row)

/-- The call is the one an approved artifact of the run leads to. -/
def ApiWorld.Approves
    (sha256 : String → String)
    (world : ApiWorld)
    (runPk : String)
    (call : GithubCall)
    (artifact : PatchArtifact) : Prop :=
  ∃ row,
    world.database.runOf runPk = some row ∧
      Approved sha256 (world.database.storeOf row) artifact ∧
      call = githubCall row.runId artifact

/-- What every attempt has found out, and what was asked of GitHub. -/
structure Platform.Justified
    (sha256 : String → String)
    (platform : Platform) : Prop where
  attempts :
    ∀ {who attempt},
      platform.attempts who = some attempt →
      attempt.Justified sha256 platform.world
  calls :
    ∀ {runPk call},
      (runPk, call) ∈ platform.calls →
      ∃ artifact, platform.world.Approves sha256 runPk call artifact

/-- What an attempt has found out stays true as the rows grow. -/
theorem ResumeAttempt.Justified.grown
    {sha256 : String → String}
    {before after : ApiWorld}
    {attempt : ResumeAttempt}
    (justified : attempt.Justified sha256 before)
    (grows : before.Grows after) :
    attempt.Justified sha256 after := by
  obtain ⟨row, found, holds⟩ := justified
  obtain ⟨later, isFound, -, storeGrows⟩ := grows.storeOf found
  exact ⟨later, isFound, storeGrows.justified holds⟩

/-- A call for an approved artifact stays one as the rows grow. -/
theorem ApiWorld.Approves.grown
    {sha256 : String → String}
    {before after : ApiWorld}
    {runPk : String}
    {call : GithubCall}
    {artifact : PatchArtifact}
    (approves : before.Approves sha256 runPk call artifact)
    (grows : before.Grows after) :
    after.Approves sha256 runPk call artifact := by
  obtain ⟨row, found, approved, rfl⟩ := approves
  obtain ⟨later, isFound, sameRunId, storeGrows⟩ := grows.storeOf found
  exact ⟨later, isFound, storeGrows.approved approved, by rw [sameRunId]⟩

/-- What a move finds out is true of the rows that it leaves. -/
theorem ResumeMove.performOn_justified
    {world after : ApiWorld}
    {runPk : String}
    {row : AgentRun}
    {claim : Option ClaimedRun}
    {input : ResumeInput}
    {start point : ResumePoint}
    {move : ResumeMove}
    (found : world.database.runOf runPk = some row)
    (justified :
      start.Justified setup.sha256 (world.database.storeOf row))
    (next :
      start.move setup.sha256 (world.database.storeOf row) input =
        some move)
    (performed :
      move.performOn setup world row claim input = (after, point))
    (grows : world.Grows after) :
    ResumeAttempt.Justified setup.sha256 after ⟨runPk, claim, point⟩ := by
  have target := ResumePoint.move_justified justified next
  obtain ⟨later, isFound, -, storeGrows⟩ := grows.storeOf found
  refine ⟨later, isFound, ?_⟩
  rcases ResumeMove.performOn_cases performed with
    ⟨-, rfl | rfl⟩ | ⟨write, store, rfl, -, -⟩
  · exact storeGrows.justified target
  · trivial
  · exact storeGrows.justified target

/-- An attempt that is about to call GitHub has an approved artifact. -/
theorem ResumeAttempt.Justified.approves
    {sha256 : String → String}
    {world : ApiWorld}
    {runPk runId : String}
    {claim : Option ClaimedRun}
    {point : ResumePoint}
    {call : GithubCall}
    (justified :
      ResumeAttempt.Justified sha256 world ⟨runPk, claim, point⟩)
    (named :
      ∀ row, world.database.runOf runPk = some row → row.runId = runId)
    (calls : point.call runId = some call) :
    ∃ artifact, world.Approves sha256 runPk call artifact := by
  obtain ⟨row, found, holds⟩ := justified
  cases point with
  | calling loaded artifact =>
      cases calls
      exact ⟨artifact, row, found, holds, by rw [named row found]⟩
  | _ =>
      cases calls

/-- An attempt that has moved leaves the platform justified. -/
theorem Platform.Justified.advanced
    {sha256 : String → String}
    {platform : Platform}
    {who : Nat}
    {attempt : ResumeAttempt}
    {row : AgentRun}
    {world : ApiWorld}
    {point : ResumePoint}
    (justified : platform.Justified sha256)
    (found : platform.world.database.runOf attempt.runPk = some row)
    (grows : platform.world.Grows world)
    (moved :
      ResumeAttempt.Justified sha256 world
        { attempt with point := point }) :
    (platform.advanced who attempt row world point).Justified sha256 := by
  obtain ⟨later, isFound, sameRunId, -⟩ := grows.storeOf found
  obtain ⟨-, isRun⟩ := Database.runOf_eq_some found
  constructor
  · intro other otherAttempt stands
    by_cases same : other = who
    · subst same
      simp only [Platform.advanced, Function.update_self,
        Option.some.injEq] at stands
      subst stands
      exact moved
    · simp only [Platform.advanced, Function.update_of_ne same] at stands
      exact (justified.attempts stands).grown grows
  · intro runPk call member
    rcases List.mem_append.mp member with isNew | earlier
    · simp only [Option.mem_toList, Option.map_eq_some_iff,
        Prod.mk.injEq] at isNew
      obtain ⟨made, calls, rfl, rfl⟩ := isNew
      rw [isRun]
      refine moved.approves ?_ calls
      intro other otherFound
      rw [isFound] at otherFound
      cases otherFound
      exact sameRunId
    · obtain ⟨artifact, approves⟩ := justified.calls earlier
      exact ⟨artifact, approves.grown grows⟩

/-- A platform stays justified as its rows grow. -/
theorem Platform.Justified.grown
    {sha256 : String → String}
    {platform : Platform}
    {after : ApiPool}
    (justified : platform.Justified sha256)
    (grows : platform.world.Grows after.world) :
    Platform.Justified sha256 { platform with api := after } where
  attempts := fun stands => (justified.attempts stands).grown grows
  calls := by
    intro runPk call member
    obtain ⟨artifact, approves⟩ := justified.calls member
    exact ⟨artifact, approves.grown grows⟩

/-- A point about which nothing is said may be written over any attempt. -/
theorem Platform.Justified.update
    {sha256 : String → String}
    {platform : Platform}
    {who : Nat}
    {attempt : ResumeAttempt}
    (justified : platform.Justified sha256)
    (holds : attempt.Justified sha256 platform.world) :
    Platform.Justified sha256
      { platform with
        attempts :=
          Function.update platform.attempts who (some attempt) } where
  attempts := by
    intro other otherAttempt stands
    by_cases same : other = who
    · subst same
      simp only [Function.update_self, Option.some.injEq] at stands
      subst stands
      exact holds
    · simp only [Function.update_of_ne same] at stands
      exact justified.attempts stands
  calls := justified.calls

/-- Every step leaves the platform justified. -/
theorem PlatformStep.justified
    {before after : Platform}
    {action : PlatformAction}
    (reached : setup.api.Reachable before.api)
    (justified : before.Justified setup.sha256)
    (step : PlatformStep setup before action after) :
    after.Justified setup.sha256 := by
  have grows := step.grows reached
  cases step with
  | api moved =>
      exact justified.grown grows
  | start claim decision free found =>
      refine justified.update ⟨_, found, ?_⟩
      cases decision <;> trivial
  | advance stands found next performed =>
      obtain ⟨row, isFound, holds⟩ := justified.attempts stands
      rw [found] at isFound
      cases isFound
      exact
        justified.advanced found grows
          (ResumeMove.performOn_justified found holds next performed grows)
  | crash stands =>
      obtain ⟨row, found, -⟩ := justified.attempts stands
      exact justified.update ⟨row, found, trivial⟩

/-- In every reachable platform the attempts and the calls are justified. -/
theorem platform_justified
    {platform : Platform}
    (reached : setup.platform.Reachable platform) :
    platform.Justified setup.sha256 := by
  induction reached with
  | initial begins =>
      obtain ⟨-, idle, unasked⟩ := begins
      constructor
      · intro who attempt stands
        rw [idle who] at stands
        cases stands
      · intro runPk call member
        rw [unasked] at member
        cases member
  | step earlier last inductionHypothesis =>
      exact last.justified (platform_api earlier) inductionHypothesis

/-- Later steps keep the rows and the history of a reachable platform. -/
theorem platform_grows
    {platform later : Platform}
    (reached : setup.platform.Reachable platform)
    (leads : setup.platform.Leads platform later) :
    platform.world.Grows later.world := by
  obtain ⟨steps, run⟩ := leads
  induction run with
  | nil =>
      exact .refl _
  | snoc earlier last inductionHypothesis =>
      have reachedMiddle := reached.leads ⟨_, earlier⟩
      exact
        inductionHypothesis.trans
          (PlatformStep.grows (platform_api reachedMiddle) last)

/-- The attempts begin and move at these inputs. -/
inductive PlatformMove where
  | start
      (who : Nat)
      (runPk : String)
      (claim : Option ClaimedRun)
      (decision : Option ApprovalDecision)
  | advance (who : Nat) (input : ResumeInput)

/-- What a move of an attempt leads to, if it may be made. -/
def Platform.perform
    (setup : ApiSetup)
    (platform : Platform) : PlatformMove → Option Platform
  | .start who runPk claim decision =>
      match
        platform.attempts who, platform.world.database.runOf runPk with
      | none, some _ =>
          some
            { platform with
              attempts :=
                Function.update platform.attempts who
                  (some
                    ⟨runPk, claim, decision.elim .choosing .entering⟩) }
      | _, _ => none
  | .advance who input =>
      (platform.attempts who).bind fun attempt =>
        (platform.world.database.runOf attempt.runPk).bind fun row =>
          (attempt.point.move setup.sha256
              (platform.world.database.storeOf row) input).map fun move =>
            let reached :=
              move.performOn setup platform.world row attempt.claim input
            platform.advanced who attempt row reached.1 reached.2

/-- A move that may be made is a step. -/
theorem Platform.leads_of_perform
    {platform after : Platform}
    {move : PlatformMove}
    (performed : platform.perform setup move = some after) :
    setup.platform.Leads platform after := by
  cases move with
  | start who runPk claim decision =>
      cases free : platform.attempts who with
      | some attempt =>
          simp [perform, free] at performed
      | none =>
          cases found : platform.world.database.runOf runPk with
          | none =>
              simp [perform, free, found] at performed
          | some row =>
              simp only [perform, free, found,
                Option.some.injEq] at performed
              subst performed
              exact .single (PlatformStep.start claim decision free found)
  | advance who input =>
      obtain ⟨attempt, stands, rest⟩ :=
        Option.bind_eq_some_iff.mp performed
      obtain ⟨row, found, moved⟩ := Option.bind_eq_some_iff.mp rest
      obtain ⟨move, next, rfl⟩ := Option.map_eq_some_iff.mp moved
      exact .single (PlatformStep.advance stands found next rfl)

/-- Moves made in turn are a path. -/
theorem Platform.leads_of_performs
    {moves : List PlatformMove}
    {platform after : Platform}
    (performed :
      moves.foldlM (Platform.perform setup) platform = some after) :
    setup.platform.Leads platform after := by
  induction moves generalizing platform with
  | nil =>
      cases performed
      exact .refl _
  | cons move rest inductionHypothesis =>
      obtain ⟨middle, first, remaining⟩ :=
        Option.bind_eq_some_iff.mp performed
      exact (leads_of_perform first).trans (inductionHypothesis remaining)

/-- An API that was reached, before any attempt, is a reachable platform. -/
theorem platform_reachable
    {api : ApiPool}
    (reached : setup.api.Reachable api) :
    setup.platform.Reachable ⟨api, fun _ => none, []⟩ := by
  induction reached with
  | initial begins =>
      exact .initial ⟨begins, fun _ => rfl, rfl⟩
  | step earlier last inductionHypothesis =>
      exact inductionHypothesis.step (.api last)

/-- A platform of the small server once moves of its API were made. -/
def Platform.small (api : ApiPool) : Platform :=
  ⟨api, fun _ => none, []⟩

/-- The run, decided on, is claimed again. -/
def untilClaimed
    (decision : ApprovalDecision) :
    List (Program.PoolMove ApiCall (String × Transaction)) :=
  untilWaiting ++ thenDecided decision ++
    [.other ("run-1", .claimNextRun "worker" 1)]

/-- Two attempts under one claim, the first of which GitHub fails. -/
def twoAttempts : List PlatformMove :=
  let claim : ClaimedRun := ⟨"incident-1", "RUN-1", "worker", 2, false⟩
  [.start 0 "run-1" (some claim) none] ++
    List.replicate 11 (.advance 0 ⟨1, 1, .raised⟩) ++
    [.start 1 "run-1" (some claim) (some .approve)] ++
    List.replicate 9 (.advance 1 ⟨1, 1, .raised⟩)

/-- Moves of the API, and then of attempts, reach a platform. -/
theorem Platform.reached_of_moves
    {calls : List (Program.PoolMove ApiCall (String × Transaction))}
    {moves : List PlatformMove}
    {api : ApiPool}
    {platform : Platform}
    (moved : ApiPool.moved (.idle ApiWorld.empty) calls = some api)
    (performed :
      moves.foldlM (perform smallServer) (.small api) = some platform) :
    smallServer.platform.Reachable platform :=
  (platform_reachable (ApiPool.reached_of_moved moved)).leads
    (leads_of_performs performed)

/--
Whatever an attempt has set out to ask of GitHub, a call of the API with a
credential provisioned for an approver or an administrator approved: it was
about the same run, whose incident lets them at it, the approval it left is the
only decision about the run, and GitHub is given the diff and the base of the
immutable artifact, vouched for by a passing test, that the approval is bound to.
-/
theorem pull_request_authorised
    {platform : Platform}
    (reached : setup.platform.Reachable platform)
    {runPk : String}
    {call : GithubCall}
    (made : (runPk, call) ∈ platform.calls) :
    ∃ row artifact approval request principal body scheme token,
      row ∈ platform.world.database.runs ∧
        row.id = runPk ∧
        call = githubCall row.runId artifact ∧
        Validated setup.sha256 (platform.world.database.storeOf row)
          artifact ∧
        (∀ other,
          other ∈ platform.world.database.approvals ∧
              other.runPk = runPk ↔
            other = approval) ∧
        approval.decision = .approve ∧
        approval.payload = binding artifact ∧
        approval.actor = principal.subject ∧
        request ∈ platform.world.received ∧
        request.authorization = some (scheme ++ " " ++ token) ∧
        scheme.toLower = "bearer" ∧
        setup.settings.apiTokens.Provision token principal ∧
        (principal.role = .approver ∨ principal.role = .admin) ∧
        request.request = .submitApproval row.runId body ∧
        body.decision = .approve ∧
        platform.world.Opens principal runPk row.runId := by
  have sound := (ApiSetup.sound_of_reachable (platform_api reached)).stands
  obtain ⟨artifact, row, found, ⟨validated, approval, member, ownRun,
    approves, payload⟩, rfl⟩ := (platform_justified reached).calls made
  obtain ⟨inRuns, rfl⟩ := Database.runOf_eq_some found
  obtain ⟨request, principal, runId, body, heard, speaks, role, asked,
    isOpen, actor, decision, -⟩ := sound.authorised approval member
  obtain ⟨scheme, token, header, bearer, provision⟩ := speaks.credential
  change approval.runPk = row.id at ownRun
  rw [ownRun] at isOpen
  have sameRunId : runId = row.runId := by
    obtain ⟨incident, ⟨⟨run, isRun, named, runNamed, -⟩, -⟩, -⟩ := isOpen
    rw [← runNamed, Database.run_eq_of_id isRun inRuns named]
  subst sameRunId
  have only :
      ∀ other,
        other ∈ platform.world.database.approvals ∧
            other.runPk = row.id ↔
          other = approval := by
    intro other
    constructor
    · rintro ⟨otherMember, otherRun⟩
      have store : other ∈ (platform.world.database.storeOf row).approvals :=
        otherMember
      exact approval_unique store member (otherRun.trans ownRun.symm)
    · rintro rfl
      exact ⟨member, ownRun⟩
  exact
    ⟨row, artifact, approval, request, principal, body, scheme, token,
      inRuns, rfl, rfl, validated, only, approves, payload, actor, heard,
      header, bearer, provision, role, asked, decision.symm.trans approves,
      isOpen⟩

/-- The approver of the small server is behind the calls of its run. -/
theorem pull_request_authorised_small :
    ∃ (platform : Platform) (call : GithubCall) (principal : Principal),
      smallServer.platform.Reachable platform ∧
        ("run-1", call) ∈ platform.calls ∧
        (principal.role = .approver ∨ principal.role = .admin) ∧
        platform.world.Opens principal "run-1" "RUN-1" := by
  have asked :
      (ApiPool.moved (.idle ApiWorld.empty) (untilClaimed .approve)).any
          (fun api =>
            (twoAttempts.foldlM (Platform.perform smallServer)
                (.small api)).any
              fun platform =>
                platform.calls.any fun made =>
                  decide (made.1 = "run-1") &&
                    decide (made.2.runId = "RUN-1")) =
        true := by
    decide +kernel
  obtain ⟨api, moved, goesOn⟩ := (Option.any_eq_true _ _).mp asked
  obtain ⟨platform, performed, holds⟩ :=
    (Option.any_eq_true _ _).mp goesOn
  obtain ⟨⟨runPk, call⟩, made, named⟩ := List.any_eq_true.mp holds
  obtain ⟨isRun, isNamed⟩ := Bool.and_eq_true_iff.mp named
  obtain rfl : runPk = "run-1" := of_decide_eq_true isRun
  have reached := Platform.reached_of_moves moved performed
  obtain ⟨row, artifact, approval, request, principal, body, scheme, token,
    -, -, rfl, -, -, -, -, -, -, -, -, -, role, -, -, isOpen⟩ :=
    pull_request_authorised reached made
  have rowNamed : row.runId = "RUN-1" := of_decide_eq_true isNamed
  exact
    ⟨platform, _, principal, reached, made, role, rowNamed ▸ isOpen⟩

/-- Two artifacts with one key are one artifact. -/
theorem artifact_eq_of_id
    {store : Store}
    {first second : PatchArtifact}
    (firstMember : first ∈ store.patchArtifacts)
    (secondMember : second ∈ store.patchArtifacts)
    (same : first.patchArtifactId = second.patchArtifactId) :
    first = second := by
  refine UniqueTable.eq_of_conflict ?_ firstMember secondMember ?_
  · intro left right
    simp [PatchArtifact.conflicts, eq_comm]
  · simp [PatchArtifact.conflicts, same]

/--
However many attempts a run has had, of however many workers and processes, all
of them asked GitHub for the same: one title and body, one diff, one base, and
one idempotency key.
-/
theorem pull_requests_of_run_agree
    {platform : Platform}
    (reached : setup.platform.Reachable platform)
    {runPk : String}
    {first second : GithubCall}
    (firstMade : (runPk, first) ∈ platform.calls)
    (secondMade : (runPk, second) ∈ platform.calls) :
    first = second := by
  have justified := platform_justified reached
  obtain ⟨artifact, row, found, ⟨validated, approval, member, ownRun, -,
    payload⟩, rfl⟩ := justified.calls firstMade
  obtain ⟨other, otherRow, otherFound, ⟨otherValidated, otherApproval,
    otherMember, otherOwnRun, -, otherPayload⟩, rfl⟩ :=
    justified.calls secondMade
  rw [found] at otherFound
  cases otherFound
  have sameApproval : approval = otherApproval :=
    approval_unique member otherMember (ownRun.trans otherOwnRun.symm)
  subst sameApproval
  have sameKey : artifact.patchArtifactId = other.patchArtifactId :=
    congrArg Binding.patchArtifactId (payload.symm.trans otherPayload)
  rw [artifact_eq_of_id validated.member otherValidated.member sameKey]

/-- The second attempt at the run of the small server repeats the first. -/
theorem pull_requests_of_run_agree_small :
    ∃ (platform : Platform) (first second : GithubCall),
      smallServer.platform.Reachable platform ∧
        platform.calls = [("run-1", second), ("run-1", first)] ∧
        first = second := by
  have asked :
      (ApiPool.moved (.idle ApiWorld.empty) (untilClaimed .approve)).any
          (fun api =>
            (twoAttempts.foldlM (Platform.perform smallServer)
                (.small api)).any
              fun platform =>
                decide
                  (platform.calls.map Prod.fst = ["run-1", "run-1"])) =
        true := by
    decide +kernel
  obtain ⟨api, moved, goesOn⟩ := (Option.any_eq_true _ _).mp asked
  obtain ⟨platform, performed, holds⟩ :=
    (Option.any_eq_true _ _).mp goesOn
  have reached := Platform.reached_of_moves moved performed
  have runs := of_decide_eq_true holds
  obtain ⟨⟨_, second⟩, _, shape, rfl, others⟩ :=
    List.map_eq_cons_iff.mp runs
  obtain ⟨⟨_, first⟩, _, rfl, rfl, none⟩ := List.map_eq_cons_iff.mp others
  obtain rfl := List.map_eq_nil_iff.mp none
  have firstMade : ("run-1", first) ∈ platform.calls := by
    simp [shape]
  have secondMade : ("run-1", second) ∈ platform.calls := by
    simp [shape]
  exact
    ⟨platform, first, second, reached, shape,
      pull_requests_of_run_agree reached firstMade secondMade⟩

/--
A human's rejection keeps a run from GitHub for good: once its incident is
flagged for intervention no attempt at the run has set out on a call, and none
ever will.
-/
theorem rejected_run_asks_nothing
    {platform later : Platform}
    (reached : setup.platform.Reachable platform)
    (leads : setup.platform.Leads platform later)
    {incident : Incident}
    {runPk runId : String}
    (belongs : platform.world.RunOf runPk runId incident)
    (flagged :
      platform.world.incidentStatus incident.id = .needsHumanIntervention)
    (call : GithubCall) :
    (runPk, call) ∉ later.calls := by
  intro made
  have sound := (ApiSetup.sound_of_reachable (platform_api reached)).stands
  have grows := platform_grows reached leads
  obtain ⟨rejectedRunId, rejection, found, rejectionMember, rejects, ofRun,
    named⟩ := sound.rejected incident.id flagged
  have same : found = incident := by
    refine UniqueTable.eq_of_conflict ?_ ofRun.incident belongs.incident ?_
    · intro left right
      simp [Incident.conflicts, eq_comm]
    · simp [Incident.conflicts, named]
  subst same
  have samePk : rejection.runPk = runPk := (ofRun.sameRun sound belongs).1
  obtain ⟨artifact, row, isFound, ⟨-, approval, member, ownRun, approves,
    -⟩, -⟩ := (platform_justified (reached.leads leads)).calls made
  obtain ⟨-, isRun⟩ := Database.runOf_eq_some isFound
  have stillRejected :
      rejection ∈ (later.world.database.storeOf row).approvals :=
    grows.approvals rejection rejectionMember
  have one : rejection = approval :=
    approval_unique stillRejected member
      (samePk.trans (isRun.symm.trans ownRun.symm))
  rw [one, approves] at rejects
  cases rejects

/-- The run of the small server, rejected, asks nothing when it is resumed. -/
theorem rejected_run_asks_nothing_small :
    ∃ platform later : Platform,
      smallServer.platform.Reachable platform ∧
        smallServer.platform.Leads platform later ∧
        (later.attempts 0).isSome = true ∧
        ∀ call, ("run-1", call) ∉ later.calls := by
  have rejected :
      (ApiPool.moved (.idle ApiWorld.empty)
            (untilWaiting ++ thenDecided .reject)).any
          (fun api =>
            decide
                (api.world.incidentStatus "incident-1" =
                  .needsHumanIntervention) &&
              (api.world.database.runs.find fun run =>
                decide (run.id = "run-1") &&
                  decide (run.runId = "RUN-1") &&
                  decide (run.incidentPk = "incident-1")).isSome &&
              (api.world.database.incidents.find fun incident =>
                incident.id = "incident-1").isSome &&
              ([.start 0 "run-1" none (some .approve),
                    .advance 0 ⟨1, 1, .raised⟩].foldlM
                  (Platform.perform smallServer) (.small api)).any
                fun later => (later.attempts 0).isSome) =
        true := by
    decide +kernel
  obtain ⟨api, moved, holds⟩ := (Option.any_eq_true _ _).mp rejected
  simp only [Bool.and_eq_true, decide_eq_true_eq,
    Option.isSome_iff_exists] at holds
  obtain ⟨⟨⟨flagged, run, foundRun⟩, incident, foundIncident⟩, goesOn⟩ :=
    holds
  obtain ⟨later, performed, begun⟩ := (Option.any_eq_true _ _).mp goesOn
  obtain ⟨inRuns, keys⟩ := UniqueTable.find_some foundRun
  obtain ⟨inTable, named⟩ := UniqueTable.find_some foundIncident
  simp only [Bool.and_eq_true, decide_eq_true_eq] at keys named
  obtain ⟨⟨runPk, runId⟩, ofIncident⟩ := keys
  have belongs : api.world.RunOf "run-1" "RUN-1" incident :=
    ⟨⟨run, inRuns, runPk, runId, ofIncident.trans named.symm⟩, inTable⟩
  have reached := platform_reachable (ApiPool.reached_of_moved moved)
  have leads : smallServer.platform.Leads (.small api) later :=
    Platform.leads_of_performs performed
  exact
    ⟨.small api, later, reached, leads, begun,
      rejected_run_asks_nothing reached leads belongs
        (named.symm ▸ flagged)⟩

end

end IncidentPilot
