import IncidentPilot.Library.Answers
import IncidentPilot.PullRequestOnce

/-!
# The head of the pull request that is reported

`acreate_pull_request` checks a commit and then reports a pull request: one it
has listed, one it has opened, or one it found when GitHub refused to open
another.  Others may push to any branch between two of its requests.  Whether the
reported pull request has the head that was checked is read off the exchanges.
-/

namespace IncidentPilot

/-- A request, the repository it was served in, and its answer. -/
abbrev GithubExchange :=
  Program.Exchange Remote GithubRequest GithubAnswer

/-- The pull request that an answer is about, as the attempt reads it. -/
def toldPull : GithubExchange → Option Pull
  | ⟨_, .listPulls _, .answered (pull :: _)⟩ => some pull
  | ⟨_, .createPull .., .answered pull⟩ => some pull
  | _ => none

/-- GitHub opened a pull request. -/
def opensPull : GithubExchange → Bool
  | ⟨_, .createPull .., .answered _⟩ => true
  | _ => false

/-- The tree that GitHub made of the approved changes. -/
def madeTree : GithubExchange → Option String
  | ⟨_, .createTree .., .answered tree⟩ => some tree
  | _ => none

/-- The commit that was read, with its sha. -/
def readCommit : GithubExchange → Option (String × RemoteCommit)
  | ⟨_, .getCommit sha, .answered commit⟩ => some (sha, commit)
  | _ => none

/-- The exchange neither lists nor opens pull requests. -/
def SilentExchange (exchange : GithubExchange) : Prop :=
  toldPull exchange = none ∧ opensPull exchange = false

/-- The last pull request that was told of, by these exchanges or before. -/
def lastTold
    (earlier : Option Pull)
    (exchanges : List GithubExchange) : Option Pull :=
  (exchanges.filterMap toldPull).getLast?.or earlier

/--
The exchanges contain the check of a commit: it was read, and it has the tree
that was made of the approved changes and the approved base as its only parent.
-/
def ChecksOut
    (baseCommitSha : String)
    (exchanges : List GithubExchange)
    (sha : String) : Prop :=
  ∃ read ∈ exchanges.filterMap readCommit,
    read.1 = sha ∧
      read.2.tree ∈ exchanges.filterMap madeTree ∧
      read.2.parents = [baseCommitSha]

instance
    (baseCommitSha : String)
    (exchanges : List GithubExchange)
    (sha : String) :
    Decidable (ChecksOut baseCommitSha exchanges sha) :=
  inferInstanceAs (Decidable (∃ read ∈ _, _))

/--
Requests over a network to a repository in which others push, delete and open
what they like.  Commits are never lost.
-/
def openGithub
    (objects : GithubObjects) :
    Program.Surroundings Remote GithubRequest GithubAnswer where
  serves before request answer after :=
    before.Serves objects request answer after ∨
      (Fault request answer ∧
        (after = before ∨
          ∃ sent, before.Serves objects request sent after))
  interferes before after :=
    ∀ sha commit,
      before.commits sha = some commit →
      after.commits sha = some commit

/-- A request that neither lists nor opens pull requests. -/
def SilentRequest : GithubRequest → Prop
  | .listPulls _ => False
  | .createPull .. => False
  | _ => True

/-- The exchange of a silent request is silent. -/
theorem SilentRequest.silent
    {exchange : GithubExchange}
    (silent : SilentRequest exchange.request) :
    SilentExchange exchange := by
  obtain ⟨before, request, answer⟩ := exchange
  cases request with
  | listPulls head => exact silent.elim
  | createPull title head base body => exact silent.elim
  | _ => exact ⟨rfl, rfl⟩

/-- What was told of last, by some exchanges and then others. -/
theorem lastTold_append
    (earlier : Option Pull)
    (first second : List GithubExchange) :
    lastTold earlier (first ++ second) =
      lastTold (lastTold earlier first) second := by
  simp [lastTold, List.filterMap_append, List.getLast?_append,
    Option.or_assoc]

/-- Silent exchanges tell of nothing. -/
theorem lastTold_silent
    {earlier : Option Pull}
    {exchanges : List GithubExchange}
    (silent : ∀ exchange ∈ exchanges, SilentExchange exchange) :
    lastTold earlier exchanges = earlier := by
  have none : exchanges.filterMap toldPull = [] :=
    List.filterMap_eq_nil_iff.mpr fun exchange member =>
      (silent exchange member).1
  simp [lastTold, none]

/-- More exchanges contain the same checks. -/
theorem ChecksOut.mono
    {baseCommitSha sha : String}
    {exchanges more : List GithubExchange}
    (checks : ChecksOut baseCommitSha exchanges sha)
    (contains : exchanges ⊆ more) :
    ChecksOut baseCommitSha more sha := by
  obtain ⟨read, member, same, made, parents⟩ := checks
  refine ⟨read, ?_, same, ?_, parents⟩
  · obtain ⟨exchange, inside, reads⟩ := List.mem_filterMap.mp member
    exact List.mem_filterMap.mpr ⟨exchange, contains inside, reads⟩
  · obtain ⟨exchange, inside, makes⟩ := List.mem_filterMap.mp made
    exact List.mem_filterMap.mpr ⟨exchange, contains inside, makes⟩

/--
What exchanges say about the pull request that is reported in the end: it is the
last that was told of, and it has the head that was checked, unless it was opened
just now with the head its branch had.
-/
structure Reports
    (branch remoteRef : String)
    (earlier : Option Pull)
    (exchanges : List GithubExchange)
    (pull : Pull) : Prop where
  told : lastTold earlier exchanges = some pull
  head :
    (pull.headSha = remoteRef ∧
        ∀ exchange ∈ exchanges, opensPull exchange = false) ∨
      ((∃ exchange ∈ exchanges, opensPull exchange = true) ∧
        ∀ exchange ∈ exchanges,
          opensPull exchange = true →
          exchange.before.refs branch = some pull.headSha)

/-- Exchanges that opened nothing say nothing about the head. -/
theorem Reports.prepend
    {branch remoteRef : String}
    {earlier : Option Pull}
    {first second : List GithubExchange}
    {pull : Pull}
    (reports :
      Reports branch remoteRef (lastTold earlier first) second pull)
    (unopened : ∀ exchange ∈ first, opensPull exchange = false) :
    Reports branch remoteRef earlier (first ++ second) pull where
  told := by rw [lastTold_append, reports.told]
  head := by
    rcases reports.head with ⟨same, none⟩ | ⟨⟨opened, member, opens⟩, all⟩
    · left
      refine ⟨same, fun exchange member => ?_⟩
      rcases List.mem_append.mp member with inFirst | inSecond
      · exact unopened exchange inFirst
      · exact none exchange inSecond
    · right
      refine
        ⟨⟨opened, List.mem_append_right _ member, opens⟩,
          fun exchange member opens => ?_⟩
      rcases List.mem_append.mp member with inFirst | inSecond
      · rw [unopened exchange inFirst] at opens
        cases opens
      · exact all exchange inSecond opens

/-- Silent exchanges say nothing about the pull request. -/
theorem Reports.prepend_silent
    {branch remoteRef : String}
    {earlier : Option Pull}
    {first second : List GithubExchange}
    {pull : Pull}
    (reports : Reports branch remoteRef earlier second pull)
    (silent : ∀ exchange ∈ first, SilentExchange exchange) :
    Reports branch remoteRef earlier (first ++ second) pull :=
  Reports.prepend ((lastTold_silent silent).symm ▸ reports)
    fun exchange member => (silent exchange member).2

section

variable {objects : GithubObjects}

/-- Silent requests make silent exchanges. -/
theorem yields_silent
    {Value : Type}
    {program : GithubProgram Value}
    (asks : program.Asks SilentRequest) :
    program.Yields (openGithub objects) fun exchanges _ =>
      ∀ exchange ∈ exchanges, SilentExchange exchange :=
  (Program.Yields.of_asks asks).mono
    fun _ _ silent exchange member => (silent exchange member).silent

/-- Requests about objects are silent. -/
theorem AboutObjects.silent
    (request : GithubRequest)
    (about : AboutObjects request) :
    SilentRequest request := by
  cases request with
  | listPulls head => exact about.elim
  | createPull title head base body => exact about.elim
  | _ => trivial

/-- A submitted tree was made in the exchanges of its submission. -/
theorem submitPatch_made
    (tools : PatchTools)
    (patchDiff : String)
    (authorize : Bool)
    (baseTree : String) :
    (submitPatch tools patchDiff authorize baseTree).Yields
      (openGithub objects) fun exchanges tree =>
        tree ∈ exchanges.filterMap madeTree := by
  have grows :
      ∀ (earlier later : List GithubExchange) (tree : String),
        tree ∈ later.filterMap madeTree →
        tree ∈ (earlier ++ later).filterMap madeTree := by
    intro earlier later tree member
    rw [List.filterMap_append]
    exact List.mem_append_right _ member
  unfold submitPatch
  refine .bind_last (fun baseFiles => ?_) grows
  split
  · trivial
  · split
    · trivial
    · split
      · trivial
      · refine .bind_last (fun before => ?_) grows
        split
        · trivial
        · split
          · refine .bind_last (fun changes => ?_) grows
            refine .bind_last (fun _ => ?_) grows
            intro before answer after serves
            cases answer with
            | answered tree => exact List.mem_cons_self
            | refused status => trivial
            | lost transient message => trivial
          · trivial

/-- A commit that was read is in the exchanges of its reading. -/
theorem getCommit_read (sha : String) :
    (getCommit sha).Yields (openGithub objects) fun exchanges commit =>
      (sha, commit) ∈ exchanges.filterMap readCommit := by
  intro before answer after serves
  cases answer with
  | answered commit => exact List.mem_cons_self
  | refused status => trivial
  | lost transient message => trivial

/-- A listing tells of its first pull request. -/
theorem getPulls_told
    (branch : String)
    (earlier : Option Pull) :
    (getPulls branch).Yields (openGithub objects) fun exchanges found =>
      lastTold earlier exchanges = found.head?.or earlier ∧
        ∀ exchange ∈ exchanges, opensPull exchange = false := by
  intro before answer after serves
  cases answer with
  | answered found =>
      cases found with
      | nil => exact ⟨rfl, by simp [opensPull]⟩
      | cons pull rest => exact ⟨rfl, by simp [opensPull]⟩
  | refused status => trivial
  | lost transient message => trivial

/-- The second query tells of the pull request that is reconciled. -/
theorem requeryPulls_told
    (branch : String)
    (existing : List Pull) :
    (requeryPulls branch existing).Yields (openGithub objects)
      fun exchanges found =>
        lastTold existing.head? exchanges = found.head? ∧
          ∀ exchange ∈ exchanges, opensPull exchange = false := by
  cases existing with
  | nil =>
      refine (getPulls_told branch none).mono ?_
      rintro exchanges found ⟨told, unopened⟩
      exact ⟨told.trans Option.or_none, unopened⟩
  | cons pull rest =>
      exact ⟨rfl, by simp⟩

/-- A pull request that is opened has the head its branch has. -/
theorem openPull_reports
    (call : GithubCall)
    (authorize : Bool)
    (branch remoteRef : String)
    (earlier : Option Pull) :
    (openPull call authorize branch remoteRef).Yields
      (openGithub objects) (Reports branch remoteRef earlier) := by
  unfold openPull
  refine .bind ((yields_silent (authorizeWrite_asks authorize trivial)).mono
    fun authorized _ silent => ?_)
  intro before answer after serves
  have unopened : ∀ exchange ∈ authorized, opensPull exchange = false :=
    fun exchange member => (silent exchange member).2
  cases answer with
  | answered pull =>
      have headed : before.refs branch = some pull.headSha := by
        rcases serves with served | ⟨fault, -⟩
        · rcases served with
            ⟨opened, -, held, -, -, -, ⟨⟩, -⟩ | ⟨-, ⟨⟩, -⟩
          exact held
        · exact fault.elim
      refine Reports.prepend ⟨rfl, .inr ⟨⟨_, List.mem_cons_self, rfl⟩, ?_⟩⟩
        unopened
      intro exchange member opens
      rw [List.mem_singleton.mp member]
      exact headed
  | lost transient message => trivial
  | refused status =>
      dsimp only
      split
      · refine .bind ((getPulls_told branch earlier).mono ?_)
        rintro exchanges found ⟨told, silently⟩
        cases found with
        | nil => trivial
        | cons pull rest =>
            dsimp only
            split
            · rename_i same
              refine Reports.prepend ⟨?_, .inl ⟨same, ?_⟩⟩ unopened
              · rw [lastTold_silent silent]
                simpa [lastTold, toldPull] using told
              · simpa [opensPull] using silently
            · trivial
      · trivial

/-- The pull request that is reconciled was checked or is opened. -/
theorem reconcilePull_reports
    (call : GithubCall)
    (authorize : Bool)
    (branch remoteRef : String)
    (existing : List Pull) :
    (reconcilePull call authorize branch remoteRef existing).Yields
      (openGithub objects)
      (Reports branch remoteRef existing.head?) := by
  cases existing with
  | nil => exact openPull_reports call authorize branch remoteRef none
  | cons pull rest =>
      unfold reconcilePull
      dsimp only
      split
      · rename_i same
        exact ⟨rfl, .inl ⟨same, by simp⟩⟩
      · trivial

/-- What a result says about the exchanges that led to it. -/
def PullRequestResult.Reported
    (call : GithubCall)
    (branch : String)
    (earlier : Option Pull)
    (exchanges : List GithubExchange)
    (result : PullRequestResult) : Prop :=
  ∃ remoteRef pull,
    Reports branch remoteRef earlier exchanges pull ∧
      ChecksOut call.baseCommitSha exchanges remoteRef ∧
      result.prNumber = some pull.number ∧
      result.prUrl = pull.htmlUrl

/-- Publishing reports the pull request it reconciled. -/
theorem publish_reported
    (tools : PatchTools)
    (call : GithubCall)
    (authorize : Bool)
    (branch : String)
    (existing : List Pull) :
    (publish tools call authorize branch existing).Yields
      (openGithub objects) fun exchanges result =>
        result.Reported call branch existing.head? exchanges := by
  unfold publish
  have reads (sha : String) : (getCommit sha).Asks SilentRequest :=
    ⟨trivial, raiseForStatus_asks⟩
  refine .bind ((yields_silent (reads call.baseCommitSha)).mono ?_)
  intro based baseCommit basedSilent
  have submits :=
    (submitPatch_strict tools call.patchDiff authorize
      baseCommit.tree).asks.mono AboutObjects.silent
  refine
    .bind
      (((yields_silent submits).and
        (submitPatch_made tools call.patchDiff authorize
          baseCommit.tree)).mono ?_)
  rintro submitted tree ⟨submittedSilent, made⟩
  refine
    .bind
      ((yields_silent
        (ensureBranch_asks call authorize tree trivial trivial
          (fun _ _ _ => trivial) fun _ => trivial)).mono ?_)
  intro ensured remoteRef ensuredSilent
  refine
    .bind
      (((yields_silent (reads remoteRef)).and
        (getCommit_read remoteRef)).mono ?_)
  rintro checked remoteCommit ⟨checkedSilent, read⟩
  split
  · trivial
  · rename_i approved
    obtain ⟨sameTree, soleParent⟩ := not_or.mp approved
    refine .bind ((requeryPulls_told branch existing).mono ?_)
    rintro queried found ⟨told, unopened⟩
    refine
      .bind
        ((reconcilePull_reports call authorize branch remoteRef
          found).mono ?_)
    intro reconciled pull reports
    have queriedReports :
        Reports branch remoteRef existing.head?
          (queried ++ (reconciled ++ [])) pull := by
      rw [List.append_nil]
      exact Reports.prepend (told.symm ▸ reports) unopened
    refine ⟨remoteRef, pull, ?_, ?_, rfl, rfl⟩
    · exact
        (((queriedReports.prepend_silent checkedSilent).prepend_silent
          ensuredSilent).prepend_silent submittedSilent).prepend_silent
          basedSilent
    · refine
        ⟨(remoteRef, remoteCommit), ?_, rfl, ?_, not_not.mp soleParent⟩
      · simp only [List.filterMap_append, List.mem_append]
        exact .inr (.inr (.inr (.inl read)))
      · rw [not_not.mp sameTree]
        simp only [List.filterMap_append, List.mem_append]
        exact .inr (.inl made)

/-- An enabled integration that succeeds reports what it reconciled. -/
theorem acreatePullRequest_reported
    (tools : PatchTools)
    (sha256 : String → String)
    {integration : GithubIntegration}
    (enabled : integration.enabled = true)
    (call : GithubCall)
    (authorize : Bool) :
    (acreatePullRequest tools sha256 integration call authorize).Yields
      (openGithub objects) fun exchanges result =>
        result.ok = true →
        result.Reported call
          (pullRequestBranch sha256 call.runId call.patchDiff) none
          exchanges := by
  unfold acreatePullRequest
  simp only [enabled, if_true]
  refine .handle ?_ fun exchanges error ok => nomatch ok
  unfold attemptPullRequest
  split
  · refine .bind ((getPulls_told _ none).mono ?_)
    rintro listed existing ⟨told, unopened⟩
    have based : (getRef baseBranch).Asks SilentRequest :=
      ⟨trivial, raiseForStatus_asks⟩
    refine .bind ((yields_silent based).mono ?_)
    intro read base silent
    split
    · refine (publish_reported tools call authorize _ existing).mono ?_
      rintro published result
        ⟨remoteRef, pull, reports, checks, number, url⟩ -
      rw [Option.or_none] at told
      refine ⟨remoteRef, pull, ?_, ?_, number, url⟩
      · exact
          Reports.prepend
            (told.symm ▸ reports.prepend_silent silent) unopened
      · refine checks.mono fun exchange member => ?_
        exact List.mem_append_right _ (List.mem_append_right _ member)
    · trivial
  · trivial

/--
Whatever others do to the repository between its requests, an attempt that
succeeds reports a pull request whose head it has checked if and only if, when
GitHub opened that pull request for it, the branch still had a head it has
checked.  A pull request that was there before always has the checked head.
-/
theorem reported_head_checked_iff
    {tools : PatchTools}
    {sha256 : String → String}
    {integration : GithubIntegration}
    {call : GithubCall}
    {authorize : Bool}
    {world final : Remote}
    {exchanges : List GithubExchange}
    {result : PullRequestResult}
    (enabled : integration.enabled = true)
    (execution :
      Program.Execution (openGithub objects)
        (acreatePullRequest tools sha256 integration call authorize)
        world exchanges (.returned result) final)
    (ok : result.ok = true) :
    ∃ pull,
      lastTold none exchanges = some pull ∧
        result.prNumber = some pull.number ∧
        result.prUrl = pull.htmlUrl ∧
        (ChecksOut call.baseCommitSha exchanges pull.headSha ↔
          ∀ exchange ∈ exchanges,
            opensPull exchange = true →
            ∃ sha,
              exchange.before.refs
                  (pullRequestBranch sha256 call.runId call.patchDiff) =
                some sha ∧
              ChecksOut call.baseCommitSha exchanges sha) := by
  obtain ⟨remoteRef, pull, reports, checks, number, url⟩ :=
    (acreatePullRequest_reported tools sha256 enabled call
      authorize).returned execution ok
  refine ⟨pull, reports.told, number, url, ?_⟩
  rcases reports.head with ⟨same, none⟩ | ⟨⟨opened, member, opens⟩, all⟩
  · refine iff_of_true (same ▸ checks) ?_
    intro exchange member opens
    rw [none exchange member] at opens
    cases opens
  · constructor
    · intro checked exchange inside opening
      exact ⟨pull.headSha, all exchange inside opening, checked⟩
    · intro headed
      obtain ⟨sha, held, checked⟩ := headed opened member opens
      rw [all opened member opens] at held
      cases held
      exact checked

end

/-- Somebody pushes a commit of their own to a branch. -/
def Remote.pushOther (remote : Remote) (branch : String) : Remote :=
  if remote.commits "pushed" = none then
    { remote.storeCommit "pushed" ⟨"other", []⟩ with
      refs := Function.update remote.refs branch (some "pushed") }
  else
    remote

/-- A push loses no commit. -/
theorem Remote.pushOther_commits
    (remote : Remote)
    {branch sha : String}
    {commit : RemoteCommit}
    (held : remote.commits sha = some commit) :
    (remote.pushOther branch).commits sha = some commit := by
  unfold pushOther
  split
  · rename_i fresh
    exact storeCommit_commits fresh held
  · exact held

/-- The branch of the sample run. -/
def sampleBranch : String :=
  pullRequestBranch id "RUN-1" "diff"

/-- Before some requests somebody pushes to the branch of the sample run. -/
def pushedBefore
    (pushes : GithubRequest → Bool)
    (remote : Remote)
    (request : GithubRequest) : Remote :=
  if pushes request = true then remote.pushOther sampleBranch else remote

/-- An attempt of the sample run, with its exchanges. -/
def recordedAttempt (pushes : GithubRequest → Bool) :
    Option
      (List GithubExchange ×
        Program.Outcome GithubError PullRequestResult × Remote) :=
  (acreatePullRequest samplePatchTools id sampleIntegration
    (sampleCall sampleSha) true).record (pushedBefore pushes)
      (Remote.respond sampleObjects) (sampleRemote sampleSha)

/-- What is recorded is an execution in an open repository. -/
theorem recordedAttempt_execution
    {pushes : GithubRequest → Bool}
    {exchanges : List GithubExchange}
    {outcome : Program.Outcome GithubError PullRequestResult}
    {final : Remote}
    (recorded :
      recordedAttempt pushes = some (exchanges, outcome, final)) :
    Program.Execution (openGithub sampleObjects)
      (acreatePullRequest samplePatchTools id sampleIntegration
        (sampleCall sampleSha) true)
      (sampleRemote sampleSha) exchanges outcome final := by
  refine Program.execution_of_record ?_ ?_ recorded
  · intro remote request sha commit held
    unfold pushedBefore
    split
    · exact remote.pushOther_commits held
    · exact held
  · intro before request answer after responded
    exact .inl (Remote.serves_of_respond responded)

/-- How a recorded attempt ended, and whether the reported head was checked. -/
def recordedHead (pushes : GithubRequest → Bool) : Option (Bool × Bool) :=
  (recordedAttempt pushes).bind fun ended =>
    match ended.2.1 with
    | .returned result =>
        (lastTold none ended.1).map fun pull =>
          (result.ok, decide (ChecksOut sampleSha ended.1 pull.headSha))
    | _ => none

/-- What a recorded attempt comes to, read off its execution. -/
theorem execution_of_recordedHead
    {pushes : GithubRequest → Bool}
    {ok checked : Bool}
    (recorded : recordedHead pushes = some (ok, checked)) :
    ∃ exchanges result final pull,
      Program.Execution (openGithub sampleObjects)
          (acreatePullRequest samplePatchTools id sampleIntegration
            (sampleCall sampleSha) true)
          (sampleRemote sampleSha) exchanges (.returned result) final ∧
        result.ok = ok ∧
        lastTold none exchanges = some pull ∧
        decide (ChecksOut sampleSha exchanges pull.headSha) =
          checked := by
  obtain ⟨⟨exchanges, outcome, final⟩, attempted, ended⟩ :=
    Option.bind_eq_some_iff.mp recorded
  cases outcome with
  | returned result =>
      obtain ⟨pull, told, ⟨⟩⟩ := Option.map_eq_some_iff.mp ended
      exact
        ⟨exchanges, result, final, pull,
          recordedAttempt_execution attempted, rfl, told, rfl⟩
  | raised error => cases ended
  | died => cases ended

/-- An attempt that nobody disturbs reports the head it has checked. -/
theorem reported_head_checked_iff_undisturbed :
    ∃ (exchanges : List GithubExchange) (pull : Pull),
      lastTold none exchanges = some pull ∧
        ChecksOut sampleSha exchanges pull.headSha ∧
        ∀ exchange ∈ exchanges,
          opensPull exchange = true →
          ∃ sha,
            exchange.before.refs sampleBranch = some sha ∧
              ChecksOut sampleSha exchanges sha := by
  have recorded : recordedHead (fun _ => false) = some (true, true) := by
    decide +kernel
  obtain ⟨exchanges, result, final, pull, execution, ok, told, checked⟩ :=
    execution_of_recordedHead recorded
  obtain ⟨reported, sameTold, -, -, checkedIff⟩ :=
    reported_head_checked_iff rfl execution ok
  rw [told] at sameTold
  cases sameTold
  have isChecked := of_decide_eq_true checked
  exact ⟨exchanges, pull, told, isChecked, checkedIff.mp isChecked⟩

/-- Somebody pushes to the branch just before the pull request is opened. -/
def pushesBeforeOpening : GithubRequest → Bool
  | .createPull .. => true
  | _ => false

/-- An attempt may report a pull request whose head nobody has checked. -/
theorem reported_head_unchecked :
    ¬ ∀ exchanges result final,
      Program.Execution (openGithub sampleObjects)
          (acreatePullRequest samplePatchTools id sampleIntegration
            (sampleCall sampleSha) true)
          (sampleRemote sampleSha) exchanges (.returned result) final →
        result.ok = true →
        ∃ pull,
          lastTold none exchanges = some pull ∧
            ChecksOut sampleSha exchanges pull.headSha := by
  intro always
  have recorded :
      recordedHead pushesBeforeOpening = some (true, false) := by
    decide +kernel
  obtain ⟨exchanges, result, final, pull, execution, ok, told, unchecked⟩ :=
    execution_of_recordedHead recorded
  obtain ⟨reported, sameTold, checked⟩ :=
    always exchanges result final execution ok
  rw [told] at sameTold
  cases sameTold
  exact of_decide_eq_false unchecked checked

end IncidentPilot
