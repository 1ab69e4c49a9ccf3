import IncidentPilot.ApprovedTree
import IncidentPilot.Library.Machine
import Mathlib.Data.List.Count

/-!
# One branch and one pull request

Attempts for one run, patch and base, one after the other, over a network that
loses requests and answers.  A reference is created at most once, because GitHub
does not create one that exists.  A pull request is created at most once,
because an attempt only asks for one after it has seen that there is none, in
any state.
-/

namespace IncidentPilot

/-- A pull request with this number and address is listed for a branch. -/
def Listed (branch : String) (pull : Pull) (remote : Remote) : Prop :=
  ∃ listed ∈ remote.pullsOf branch,
    listed.number = pull.number ∧ listed.htmlUrl = pull.htmlUrl

/-- Requests of an attempt other than the one that opens a pull request. -/
def Branching (branch : String) : GithubRequest → Prop
  | .createPull .. => False
  | .createRef created _ => created = branch
  | _ => True

/-- A pull request is only asked for when the branch has none. -/
def AskedOnce (branch : String) (remote : Remote) :
    GithubRequest → Prop
  | .createPull _ head _ _ => head = branch ∧ remote.pullsOf branch = []
  | .createRef created _ => created = branch
  | _ => True

/-- Every other request is fine at any time. -/
theorem Branching.askedOnce
    {branch : String}
    {remote : Remote}
    {request : GithubRequest}
    (branching : Branching branch request) :
    AskedOnce branch remote request := by
  cases request with
  | createPull title head base body =>
      exact branching.elim
  | createRef created sha =>
      exact branching
  | _ =>
      trivial

/-- The branch was created at most once, and has at most one pull request. -/
structure Once (branch : String) (remote : Remote) : Prop where
  created : remote.createdRefs.count branch ≤ 1
  present :
    remote.refs branch = none → remote.createdRefs.count branch = 0
  single : (remote.pullsOf branch).length ≤ 1

/-- What a served request may change. -/
theorem Remote.serves_cases
    {objects : GithubObjects}
    {before after : Remote}
    {request : GithubRequest}
    {answer : GithubAnswer request}
    (serves : before.Serves objects request answer after) :
    after = before ∨
      (∃ sha commit,
        before.commits sha = none ∧
          after = before.storeCommit sha commit) ∨
      (∃ branch sha,
        request = .createRef branch sha ∧
          before.refs branch = none ∧
          after = before.storeRef branch sha) ∨
      (∃ title base body pull,
        request = .createPull title pull.head base body ∧
          before.refs pull.head = some pull.headSha ∧
          after = before.storePull pull) := by
  cases request with
  | createCommit message tree parents =>
      obtain ⟨sha, fresh, -, rfl⟩ := serves
      exact .inr (.inl ⟨sha, _, fresh, rfl⟩)
  | createRef branch sha =>
      obtain ⟨absent, -, rfl⟩ | ⟨-, -, rfl⟩ := serves
      · exact .inr (.inr (.inl ⟨branch, sha, rfl, absent, rfl⟩))
      · exact .inl rfl
  | createPull title head base body =>
      obtain ⟨pull, rfl, held, -, -, -, -, rfl⟩ | ⟨-, -, rfl⟩ := serves
      · exact .inr (.inr (.inr ⟨title, base, body, pull, rfl, held, rfl⟩))
      · exact .inl rfl
  | _ =>
      exact .inl serves.2

/-- What a request over the network may change. -/
theorem unreliableGithub_serves
    {objects : GithubObjects}
    {branch : String}
    {before after : Remote}
    {request : GithubRequest}
    {answer : GithubAnswer request}
    (serves :
      (unreliableGithub objects branch).serves before request answer
        after) :
    after = before ∨
      ∃ sent, before.Serves objects request sent after := by
  obtain sent | ⟨-, untouched | sent⟩ := serves
  · exact .inr ⟨answer, sent⟩
  · exact .inl untouched
  · exact .inr sent

/-- A pull request that was closed or left alone is still there. -/
theorem Pull.exists_closedFrom
    {earlier later : List Pull}
    {pull : Pull}
    (closed : List.Forall₂ Pull.ClosedFrom earlier later)
    (member : pull ∈ earlier) :
    ∃ kept ∈ later, pull.ClosedFrom kept := by
  induction closed with
  | nil =>
      cases member
  | cons first _ inductionHypothesis =>
      rcases List.mem_cons.mp member with rfl | inRest
      · exact ⟨_, List.mem_cons_self, first⟩
      · obtain ⟨kept, keptMember, same⟩ := inductionHypothesis inRest
        exact ⟨kept, List.mem_cons_of_mem _ keptMember, same⟩

/-- A pull request that is there was there before, and perhaps open. -/
theorem Pull.exists_before
    {earlier later : List Pull}
    {pull : Pull}
    (closed : List.Forall₂ Pull.ClosedFrom earlier later)
    (member : pull ∈ later) :
    ∃ original ∈ earlier, original.ClosedFrom pull := by
  induction closed with
  | nil =>
      cases member
  | cons first _ inductionHypothesis =>
      rcases List.mem_cons.mp member with rfl | inRest
      · exact ⟨_, List.mem_cons_self, first⟩
      · obtain ⟨original, originalMember, same⟩ :=
          inductionHypothesis inRest
        exact ⟨original, List.mem_cons_of_mem _ originalMember, same⟩

namespace Listed

variable {branch : String} {pull : Pull}

/-- A listed pull request is listed. -/
theorem of_mem
    {remote : Remote}
    (member : pull ∈ remote.pullsOf branch) :
    Listed branch pull remote :=
  ⟨pull, member, rfl, rfl⟩

/-- Other people leave the listing. -/
theorem disturbed
    {before after : Remote}
    (listed : Listed branch pull before)
    (disturbed : Remote.Disturbed branch before after) :
    Listed branch pull after := by
  obtain ⟨earlier, member, number, url⟩ := listed
  obtain ⟨later, laterMember, closed⟩ :=
    Pull.exists_closedFrom disturbed.ownPulls member
  exact
    ⟨later, laterMember, closed.number.trans number,
      closed.htmlUrl.trans url⟩

/-- No request removes a pull request. -/
theorem served
    {objects : GithubObjects}
    {before after : Remote}
    {request : GithubRequest}
    {answer : GithubAnswer request}
    (listed : Listed branch pull before)
    (serves :
      (unreliableGithub objects branch).serves before request answer
        after) :
    Listed branch pull after := by
  obtain rfl | ⟨sent, sends⟩ := unreliableGithub_serves serves
  · exact listed
  · obtain rfl | ⟨sha, commit, -, rfl⟩ | ⟨created, sha, -, -, rfl⟩ |
        ⟨title, base, body, opened, -, -, rfl⟩ :=
      Remote.serves_cases sends
    · exact listed
    · exact listed
    · exact listed
    · obtain ⟨earlier, member, same⟩ := listed
      refine ⟨earlier, ?_, same⟩
      rw [Remote.pullsOf, Remote.storePull, List.filter_cons]
      split
      · exact List.mem_cons_of_mem _ member
      · exact member

end Listed

/-- A branch without pull requests stays so while none is asked for. -/
theorem pullsOf_nil_served
    {objects : GithubObjects}
    {branch : String}
    {before after : Remote}
    {request : GithubRequest}
    {answer : GithubAnswer request}
    (none : before.pullsOf branch = [])
    (branching : Branching branch request)
    (serves :
      (unreliableGithub objects branch).serves before request answer
        after) :
    after.pullsOf branch = [] := by
  obtain rfl | ⟨sent, sends⟩ := unreliableGithub_serves serves
  · exact none
  · obtain rfl | ⟨sha, commit, -, rfl⟩ | ⟨created, sha, -, -, rfl⟩ |
        ⟨title, base, body, opened, rfl, -, rfl⟩ :=
      Remote.serves_cases sends
    · exact none
    · exact none
    · exact none
    · exact branching.elim

/-- Nobody else opens a pull request for the branch. -/
theorem pullsOf_nil_disturbed
    {branch : String}
    {before after : Remote}
    (none : before.pullsOf branch = [])
    (disturbed : Remote.Disturbed branch before after) :
    after.pullsOf branch = [] := by
  have shape := disturbed.ownPulls
  rw [none] at shape
  exact List.forall₂_nil_left_iff.mp shape

namespace Once

variable {branch : String}

/-- Other people do not break it. -/
theorem disturbed
    {before after : Remote}
    (once : Once branch before)
    (disturbed : Remote.Disturbed branch before after) :
    Once branch after where
  created := disturbed.creations ▸ once.created
  present absent := by
    rw [disturbed.creations]
    exact once.present (disturbed.ownRef ▸ absent)
  single := disturbed.ownPulls.length_eq ▸ once.single

/-- The requests of an attempt do not break it. -/
theorem served
    {objects : GithubObjects}
    {before after : Remote}
    {request : GithubRequest}
    {answer : GithubAnswer request}
    (once : Once branch before)
    (asked : AskedOnce branch before request)
    (serves :
      (unreliableGithub objects branch).serves before request answer
        after) :
    Once branch after := by
  obtain rfl | ⟨sent, sends⟩ := unreliableGithub_serves serves
  · exact once
  · obtain rfl | ⟨sha, commit, -, rfl⟩ | ⟨created, sha, rfl, absent, rfl⟩ |
        ⟨title, base, body, opened, rfl, -, rfl⟩ :=
      Remote.serves_cases sends
    · exact once
    · exact ⟨once.created, once.present, once.single⟩
    · obtain rfl : created = branch := asked
      have never := once.present absent
      refine ⟨?_, ?_, once.single⟩
      · simp [Remote.storeRef, never]
      · intro stillAbsent
        simp [Remote.storeRef] at stillAbsent
    · obtain ⟨rfl, none⟩ := asked
      refine ⟨once.created, once.present, ?_⟩
      rw [Remote.storePull_pullsOf, none]
      rfl

end Once

section

variable {branch : String} {kind : GithubRequest → Prop}

/-- Authorizing a write asks for nothing else. -/
theorem authorizeWrite_asks
    (authorize : Bool)
    (authorizes : kind .authorize) :
    (authorizeWrite authorize).Asks kind :=
  (authorizeWrite_strict authorize authorizes).asks

/-- Reading a reply asks for nothing. -/
theorem raiseForStatus_asks
    {Body : Type}
    (reply : Reply Body) :
    (raiseForStatus reply).Asks kind :=
  (raiseForStatus_strict reply).asks

/-- Requests about objects open nothing. -/
theorem AboutObjects.branching
    {request : GithubRequest}
    (about : AboutObjects request) :
    Branching branch request := by
  cases request with
  | createPull title head base body =>
      exact about.elim
  | createRef created sha =>
      exact about.elim
  | _ =>
      trivial

/-- What ensuring the branch asks for. -/
theorem ensureBranch_asks
    (call : GithubCall)
    (authorize : Bool)
    (tree : String)
    (authorizes : kind .authorize)
    (reads : kind (.getRef branch))
    (commits :
      ∀ message tree parents, kind (.createCommit message tree parents))
    (creates : ∀ sha, kind (.createRef branch sha)) :
    (ensureBranch call authorize branch tree).Asks kind := by
  have rereads : (getRef branch).Asks kind :=
    ⟨reads, raiseForStatus_asks⟩
  refine ⟨reads, fun reply => ?_⟩
  cases reply with
  | answered sha =>
      trivial
  | lost transient message =>
      trivial
  | refused status =>
      simp only
      split
      · refine .bind ?_ fun commit => ?_
        · exact
            .bind (authorizeWrite_asks authorize authorizes) fun _ =>
              ⟨commits _ _ _, raiseForStatus_asks⟩
        · refine
            .bind (authorizeWrite_asks authorize authorizes) fun _ => ?_
          refine ⟨creates commit, fun created => ?_⟩
          cases created with
          | answered body =>
              exact rereads
          | lost transient message =>
              trivial
          | refused status =>
              simp only
              split
              · exact rereads
              · trivial
      · trivial

/-- What the second query asks for. -/
theorem requeryPulls_asks
    (existing : List Pull)
    (lists : kind (.listPulls branch)) :
    (requeryPulls branch existing).Asks kind := by
  unfold requeryPulls
  split
  · exact ⟨lists, raiseForStatus_asks⟩
  · trivial

end

section

variable {objects : GithubObjects} {branch : String}

/-- A program that opens nothing keeps what requests and people preserve. -/
theorem keeps_of_asks
    {Value : Type}
    {program : GithubProgram Value}
    {remote : Remote}
    {invariant : Remote → Prop}
    (asks : program.Asks (Branching branch))
    (interference :
      ∀ before after,
        invariant before →
        Remote.Disturbed branch before after →
        invariant after)
    (service :
      ∀ before request answer after,
        invariant before →
        Branching branch request →
        (unreliableGithub objects branch).serves before request answer
          after →
        invariant after)
    (holds : invariant remote) :
    Program.Keeps (unreliableGithub objects branch)
      (AskedOnce branch) program remote
      (fun _ => invariant) (fun _ _ => True) :=
  ((asks.keeps remote).frame interference service holds).mono
    (fun _ _ branching => branching.askedOnce)
    (fun _ _ kept => kept.2)
    (fun _ _ _ => trivial)

/-- A program that opens nothing keeps the pull requests it knows listed. -/
theorem keeps_listed
    {Value : Type}
    {program : GithubProgram Value}
    {remote : Remote}
    {existing : List Pull}
    (asks : program.Asks (Branching branch))
    (known : ∀ pull ∈ existing, Listed branch pull remote) :
    Program.Keeps (unreliableGithub objects branch)
      (AskedOnce branch) program remote
      (fun _ after => ∀ pull ∈ existing, Listed branch pull after)
      (fun _ _ => True) :=
  keeps_of_asks asks
    (fun _ _ held disturbed pull member =>
      (held pull member).disturbed disturbed)
    (fun _ _ _ _ held _ serves pull member =>
      (held pull member).served serves)
    known

/-- A program that opens nothing leaves a branch without pull requests. -/
theorem keeps_pullsOf_nil
    {Value : Type}
    {program : GithubProgram Value}
    {remote : Remote}
    (asks : program.Asks (Branching branch))
    (none : remote.pullsOf branch = []) :
    Program.Keeps (unreliableGithub objects branch)
      (AskedOnce branch) program remote
      (fun _ after => after.pullsOf branch = []) (fun _ _ => True) :=
  keeps_of_asks asks
    (fun _ _ held => pullsOf_nil_disturbed held)
    (fun _ _ _ _ held => pullsOf_nil_served held)
    none

/-- An answered listing is the listing. -/
theorem getPulls_keeps
    (remote : Remote) :
    Program.Keeps (unreliableGithub objects branch)
      (AskedOnce branch) (getPulls branch) remote
      (fun pulls after => pulls = after.pullsOf branch)
      (fun _ _ => True) := by
  refine .ask fun disturbed _ => ⟨trivial, ?_⟩
  rintro answer served (⟨rfl, rfl⟩ | ⟨fault, -⟩)
  · exact .done rfl
  · cases answer with
    | answered pulls =>
        exact fault.elim
    | refused status =>
        exact .raise trivial
    | lost transient message =>
        exact .raise trivial

/-- Opening a pull request returns one that is listed. -/
theorem openPull_keeps
    (call : GithubCall)
    (authorize : Bool)
    (remoteRef : String)
    {remote : Remote}
    (none : remote.pullsOf branch = []) :
    Program.Keeps (unreliableGithub objects branch)
      (AskedOnce branch) (openPull call authorize branch remoteRef)
      remote
      (fun pull => Listed branch pull) (fun _ _ => True) := by
  refine .bind ((keeps_pullsOf_nil (authorizeWrite_asks authorize trivial)
    none).mono (fun _ _ => id) ?_ (fun _ _ => id))
  intro _ authorized stillNone
  refine .ask fun disturbed interfered =>
    ⟨⟨rfl, pullsOf_nil_disturbed stillNone interfered⟩, ?_⟩
  intro answer served serves
  cases answer with
  | answered pull =>
      obtain (⟨opened, rfl, -, -, -, -, same, rfl⟩ | ⟨-, same, -⟩) |
          ⟨fault, -⟩ := serves
      · cases same
        refine .done (.of_mem ?_)
        rw [Remote.storePull_pullsOf]
        exact List.mem_cons_self
      · cases same
      · exact fault.elim
  | lost transient message =>
      exact .raise trivial
  | refused status =>
      simp only
      split
      · refine .bind ((getPulls_keeps served).mono (fun _ _ => id) ?_
          (fun _ _ => id))
        rintro found reread rfl
        split
        · rename_i pull rest listing
          split
          · refine .done (.of_mem ?_)
            rw [listing]
            exact List.mem_cons_self
          · exact .raise trivial
        · exact .raise trivial
      · exact .raise trivial

/-- The pull request an attempt settles on is listed. -/
theorem reconcilePull_keeps
    (call : GithubCall)
    (authorize : Bool)
    (remoteRef : String)
    {existing : List Pull}
    {remote : Remote}
    (known : ∀ pull ∈ existing, Listed branch pull remote)
    (none : existing = [] → remote.pullsOf branch = []) :
    Program.Keeps (unreliableGithub objects branch)
      (AskedOnce branch)
      (reconcilePull call authorize branch remoteRef existing) remote
      (fun pull => Listed branch pull) (fun _ _ => True) := by
  unfold reconcilePull
  cases existing with
  | nil =>
      exact openPull_keeps call authorize remoteRef (none rfl)
  | cons pull rest =>
      simp only
      split
      · exact .done (known pull List.mem_cons_self)
      · exact .raise trivial

/-- After the second query an empty list means that there is none. -/
theorem requeryPulls_keeps
    {existing : List Pull}
    {remote : Remote}
    (known : ∀ pull ∈ existing, Listed branch pull remote) :
    Program.Keeps (unreliableGithub objects branch)
      (AskedOnce branch) (requeryPulls branch existing) remote
      (fun found after =>
        (∀ pull ∈ found, Listed branch pull after) ∧
          (found = [] → after.pullsOf branch = []))
      (fun _ _ => True) := by
  unfold requeryPulls
  split
  · refine (getPulls_keeps remote).mono (fun _ _ => id) ?_ (fun _ _ => id)
    rintro found after rfl
    exact ⟨fun pull => Listed.of_mem, id⟩
  · exact .done ⟨known, fun empty => by cases empty⟩

/-- A result that is `ok` is about a listed pull request. -/
def PullRequestResult.About
    (branch : String)
    (remote : Remote)
    (result : PullRequestResult) : Prop :=
  result.ok = true →
    ∃ pull,
      Listed branch pull remote ∧
        result.prUrl = pull.htmlUrl ∧
        result.prNumber = some pull.number

/-- Publishing returns a listed pull request. -/
theorem publish_keeps
    (tools : PatchTools)
    (call : GithubCall)
    (authorize : Bool)
    {existing : List Pull}
    {remote : Remote}
    (known : ∀ pull ∈ existing, Listed branch pull remote) :
    Program.Keeps (unreliableGithub objects branch)
      (AskedOnce branch)
      (publish tools call authorize branch existing) remote
      (fun result after => result.About branch after)
      (fun _ _ => True) := by
  unfold publish
  have reads (sha : String) : (getCommit sha).Asks (Branching branch) :=
    ⟨trivial, raiseForStatus_asks⟩
  refine .bind ((keeps_listed (reads call.baseCommitSha) known).mono
    (fun _ _ => id) ?_ (fun _ _ => id))
  intro baseCommit based known
  have submits :=
    (submitPatch_strict tools call.patchDiff authorize
      baseCommit.tree).asks
  refine .bind ((keeps_listed (submits.mono fun _ =>
    AboutObjects.branching) known).mono (fun _ _ => id) ?_
    (fun _ _ => id))
  intro tree submitted known
  refine .bind ((keeps_listed (ensureBranch_asks call authorize tree
    trivial trivial (fun _ _ _ => trivial) (fun _ => rfl)) known).mono
    (fun _ _ => id) ?_ (fun _ _ => id))
  intro remoteRef ensured known
  refine .bind ((keeps_listed (reads remoteRef) known).mono
    (fun _ _ => id) ?_ (fun _ _ => id))
  intro remoteCommit read known
  split
  · exact .raise trivial
  · refine .bind ((requeryPulls_keeps known).mono (fun _ _ => id) ?_
      (fun _ _ => id))
    rintro found queried ⟨known, none⟩
    refine .bind ((reconcilePull_keeps call authorize remoteRef known
      none).mono (fun _ _ => id) ?_ (fun _ _ => id))
    intro pull reconciled listed
    exact .done fun _ => ⟨pull, listed, rfl, rfl⟩

/-- An attempt asks for a pull request at most when there is none. -/
theorem acreatePullRequest_keeps
    (tools : PatchTools)
    (sha256 : String → String)
    {integration : GithubIntegration}
    (enabled : integration.enabled = true)
    (call : GithubCall)
    (authorize : Bool)
    (remote : Remote)
    (own : pullRequestBranch sha256 call.runId call.patchDiff = branch) :
    Program.Keeps (unreliableGithub objects branch)
      (AskedOnce branch)
      (acreatePullRequest tools sha256 integration call authorize)
      remote
      (fun result after => result.About branch after)
      (fun _ _ => False) := by
  unfold acreatePullRequest
  simp only [enabled, if_true, own]
  have attempted :
      Program.Keeps (unreliableGithub objects branch)
        (AskedOnce branch)
        (attemptPullRequest tools call authorize branch) remote
        (fun result after => result.About branch after)
        (fun _ _ => True) := by
    unfold attemptPullRequest
    split
    · refine .bind ((getPulls_keeps remote).mono (fun _ _ => id) ?_
        (fun _ _ => id))
      rintro existing listed rfl
      have reads : (getRef baseBranch).Asks (Branching branch) :=
        ⟨trivial, raiseForStatus_asks⟩
      refine .bind ((keeps_listed reads fun pull =>
        Listed.of_mem).mono (fun _ _ => id) ?_ (fun _ _ => id))
      intro base read known
      split
      · exact publish_keeps tools call authorize known
      · exact .raise trivial
    · exact .raise trivial
  refine .handle (attempted.mono (fun _ _ => id) (fun _ _ => id) ?_)
  intro error middle _
  exact .done fun ok => by cases ok

end

/-- GitHub, and the results of the attempts so far. -/
structure PullRequestAttempts where
  remote : Remote
  results : List PullRequestResult

/-- What an attempt hands to its caller, if it lives to. -/
def attemptResults :
    Program.Outcome GithubError PullRequestResult →
      List PullRequestResult
  | .returned result => [result]
  | .raised _ => []
  | .died => []

/-- The labels of a sequence of attempts. -/
inductive AttemptAction where
  | attempt (call : GithubCall) (authorize : Bool)
  | others

/-- One attempt after the other, for one run, patch and base. -/
inductive AttemptStep
    (tools : PatchTools)
    (sha256 : String → String)
    (objects : GithubObjects)
    (integration : GithubIntegration)
    (runId patchDiff baseCommitSha : String) :
    PullRequestAttempts →
      AttemptAction →
      PullRequestAttempts →
      Prop where
  | attempt
      {before : PullRequestAttempts}
      {call : GithubCall}
      {authorize : Bool}
      {exchanges :
        List (Program.Exchange Remote GithubRequest GithubAnswer)}
      {outcome : Program.Outcome GithubError PullRequestResult}
      {remote : Remote}
      (sameRun : call.runId = runId)
      (samePatch : call.patchDiff = patchDiff)
      (sameBase : call.baseCommitSha = baseCommitSha)
      (execution :
        Program.Execution
          (unreliableGithub objects
            (pullRequestBranch sha256 runId patchDiff))
          (acreatePullRequest tools sha256 integration call authorize)
          before.remote exchanges outcome remote) :
      AttemptStep tools sha256 objects integration runId patchDiff
        baseCommitSha before (.attempt call authorize)
        ⟨remote, attemptResults outcome ++ before.results⟩
  | others
      {before : PullRequestAttempts}
      {remote : Remote}
      (disturbed :
        Remote.Disturbed (pullRequestBranch sha256 runId patchDiff)
          before.remote remote) :
      AttemptStep tools sha256 objects integration runId patchDiff
        baseCommitSha before .others { before with remote := remote }

/-- Sequences of attempts, from a repository that has nothing of them. -/
def pullRequestAttempts
    (tools : PatchTools)
    (sha256 : String → String)
    (objects : GithubObjects)
    (integration : GithubIntegration)
    (runId patchDiff baseCommitSha : String) :
    Machine PullRequestAttempts AttemptAction where
  initial state :=
    let branch := pullRequestBranch sha256 runId patchDiff
    state.remote.refs branch = none ∧
      state.remote.createdRefs.count branch = 0 ∧
      state.remote.pullsOf branch = [] ∧
      state.results = []
  step :=
    AttemptStep tools sha256 objects integration runId patchDiff
      baseCommitSha

/-- One branch, one pull request, and every result about it. -/
structure PullRequestAttempts.Sound
    (branch : String)
    (state : PullRequestAttempts) : Prop where
  once : Once branch state.remote
  results : ∀ result ∈ state.results, result.About branch state.remote

section

variable {tools : PatchTools} {sha256 : String → String}
variable {objects : GithubObjects} {integration : GithubIntegration}
variable {runId patchDiff baseCommitSha : String}

/-- A step keeps the attempts sound. -/
theorem AttemptStep.sound
    {before after : PullRequestAttempts}
    {action : AttemptAction}
    (enabled : integration.enabled = true)
    (step :
      AttemptStep tools sha256 objects integration runId patchDiff
        baseCommitSha before action after)
    (sound :
      before.Sound (pullRequestBranch sha256 runId patchDiff)) :
    after.Sound (pullRequestBranch sha256 runId patchDiff) := by
  cases step with
  | others disturbed =>
      refine ⟨sound.once.disturbed disturbed, ?_⟩
      intro result member ok
      obtain ⟨pull, listed, same⟩ := sound.results result member ok
      exact ⟨pull, listed.disturbed disturbed, same⟩
  | attempt sameRun samePatch sameBase execution =>
      obtain ⟨permitted, ends⟩ :=
        acreatePullRequest_keeps tools sha256 enabled _ _ _
          (by rw [sameRun, samePatch]) _ _ _ execution
      refine ⟨?_, ?_⟩
      · exact
          execution.preserves
            (fun _ _ once disturbed => once.disturbed disturbed)
            (fun _ _ _ _ once asked serves => once.served asked serves)
            permitted sound.once
      · intro result member ok
        rcases List.mem_append.mp member with isNew | isOld
        · rename_i outcome remote
          cases outcome with
          | returned value =>
              obtain rfl := List.mem_singleton.mp isNew
              exact ends ok
          | raised error =>
              cases isNew
          | died =>
              cases isNew
        · obtain ⟨pull, listed, same⟩ := sound.results result isOld ok
          refine ⟨pull, ?_, same⟩
          exact
            execution.preserves
              (fun _ _ held disturbed => held.disturbed disturbed)
              (fun _ _ _ _ held _ serves => held.served serves)
              permitted listed

/-- Every sequence of attempts is sound. -/
theorem pullRequestAttempts_sound
    {state : PullRequestAttempts}
    (enabled : integration.enabled = true)
    (reachable :
      (pullRequestAttempts tools sha256 objects integration runId
        patchDiff baseCommitSha).Reachable state) :
    state.Sound (pullRequestBranch sha256 runId patchDiff) := by
  refine reachable.invariant ?_ ?_
  · rintro start ⟨-, never, none, noResult⟩
    refine ⟨⟨?_, fun _ => never, ?_⟩, ?_⟩
    · rw [never]
      exact Nat.zero_le 1
    · rw [none]
      exact Nat.zero_le 1
    · rw [noResult]
      simp
  · intro before action after sound step
    exact AttemptStep.sound enabled step sound

/--
In every sequence of attempts the branch is created at most once, at most one
pull request is opened for it, and every successful attempt returns that one.
-/
theorem one_branch_one_pull_request
    {state : PullRequestAttempts}
    (enabled : integration.enabled = true)
    (reachable :
      (pullRequestAttempts tools sha256 objects integration runId
        patchDiff baseCommitSha).Reachable state) :
    let branch := pullRequestBranch sha256 runId patchDiff
    state.remote.createdRefs.count branch ≤ 1 ∧
      (state.remote.pullsOf branch).length ≤ 1 ∧
      ∀ result ∈ state.results,
        result.ok = true →
        ∃ pull,
          state.remote.pullsOf branch = [pull] ∧
            result.prUrl = pull.htmlUrl ∧
            result.prNumber = some pull.number := by
  obtain ⟨⟨created, -, single⟩, results⟩ :=
    pullRequestAttempts_sound enabled reachable
  refine ⟨created, single, fun result member ok => ?_⟩
  obtain ⟨pull, ⟨listed, isListed, number, url⟩, sameUrl, sameNumber⟩ :=
    results result member ok
  obtain ⟨only, isOnly⟩ :=
    List.length_eq_one_iff.mp
      (Nat.le_antisymm single (List.length_pos_of_mem isListed))
  rw [isOnly] at isListed
  obtain rfl := List.mem_singleton.mp isListed
  exact
    ⟨listed, isOnly, sameUrl.trans url.symm,
      sameNumber.trans (congrArg some number.symm)⟩

/-- One attempt after the other, alone with a GitHub that runs. -/
def attemptsAlone
    (tools : PatchTools)
    (sha256 : String → String)
    (objects : GithubObjects)
    (integration : GithubIntegration)
    (call : GithubCall)
    (state : PullRequestAttempts) :
    List (GithubRequest → Bool) → Option PullRequestAttempts
  | [] => some state
  | loses :: rest =>
      match
        (acreatePullRequest tools sha256 integration call true).run
          (Remote.respondOver objects loses) state.remote with
      | none => none
      | some (outcome, remote) =>
          attemptsAlone tools sha256 objects integration call
            ⟨remote, attemptResults outcome ++ state.results⟩ rest

/-- Attempts alone with GitHub lead to reachable states. -/
theorem attemptsAlone_reachable
    {call : GithubCall}
    {state final : PullRequestAttempts}
    {losses : List (GithubRequest → Bool)}
    (reachable :
      (pullRequestAttempts tools sha256 objects integration call.runId
        call.patchDiff call.baseCommitSha).Reachable state)
    (ran :
      attemptsAlone tools sha256 objects integration call state losses =
        some final) :
    (pullRequestAttempts tools sha256 objects integration call.runId
      call.patchDiff call.baseCommitSha).Reachable final := by
  induction losses generalizing state with
  | nil =>
      cases ran
      exact reachable
  | cons loses rest inductionHypothesis =>
      simp only [attemptsAlone] at ran
      split at ran
      · cases ran
      · rename_i outcome remote alone
        obtain ⟨exchanges, execution⟩ :=
          Program.execution_of_run
            (Remote.Disturbed.refl
              (pullRequestBranch sha256 call.runId call.patchDiff))
            (fun _ _ _ _ => Remote.serves_of_respondOver) alone
        exact
          inductionHypothesis
            (reachable.step (.attempt rfl rfl rfl execution)) ran

end

/-- The network loses the answer to the request for a pull request. -/
def losesPullRequest : GithubRequest → Bool
  | .createPull .. => true
  | _ => false

/-- The sample repository, before any attempt. -/
theorem sampleRemote_initial :
    (pullRequestAttempts samplePatchTools id sampleObjects
      sampleIntegration (sampleCall sampleSha).runId
      (sampleCall sampleSha).patchDiff
      (sampleCall sampleSha).baseCommitSha).Reachable
      ⟨sampleRemote sampleSha, []⟩ := by
  refine .initial ⟨?_, rfl, rfl, rfl⟩
  decide +kernel

/-- An attempt that lost its answer, and one that found the pull request. -/
theorem one_branch_one_pull_request_retried :
    ∃ state : PullRequestAttempts,
      state.results.map PullRequestResult.ok = [true, false] ∧
        (state.remote.pullsOf
          (pullRequestBranch id "RUN-1" "diff")).length ≤ 1 := by
  have retried :
      (attemptsAlone samplePatchTools id sampleObjects sampleIntegration
          (sampleCall sampleSha) ⟨sampleRemote sampleSha, []⟩
          [losesPullRequest, fun _ => false]).map
          (fun state => state.results.map PullRequestResult.ok) =
        some [true, false] := by
    decide +kernel
  obtain ⟨state, ran, results⟩ := Option.map_eq_some_iff.mp retried
  exact
    ⟨state, results,
      (one_branch_one_pull_request (by decide)
        (attemptsAlone_reachable sampleRemote_initial ran)).2.1⟩

end IncidentPilot
