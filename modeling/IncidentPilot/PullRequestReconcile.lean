import IncidentPilot.PullRequestOnce

/-!
# Reconciliation after a lost response

What an attempt has established when it asks for a pull request, and that it is
still so whenever a later attempt runs.  A later attempt whose requests are all
answered therefore finds the pull request; but it only gets that far when the
base branch has not moved, because it compares the base branch first.
-/

namespace IncidentPilot

/-- The branch stays where it is once it exists, and commits stay. -/
structure Remote.Retains
    (branch : String)
    (before after : Remote) : Prop where
  ref :
    ∀ sha, before.refs branch = some sha → after.refs branch = some sha
  commit :
    ∀ sha commit,
      before.commits sha = some commit →
      after.commits sha = some commit

namespace Remote

/-- Other people retain it. -/
theorem Disturbed.retains
    {branch : String}
    {before after : Remote}
    (disturbed : Disturbed branch before after) :
    before.Retains branch after where
  ref _ held := disturbed.ownRef.trans held
  commit := disturbed.commits

/-- A served request retains it. -/
theorem serves_retains
    {objects : GithubObjects}
    (branch : String)
    {before after : Remote}
    {request : GithubRequest}
    {answer : GithubAnswer request}
    (serves : before.Serves objects request answer after) :
    before.Retains branch after := by
  obtain rfl | ⟨sha, commit, fresh, rfl⟩ | ⟨created, sha, -, absent, rfl⟩ |
      ⟨title, base, body, opened, -, -, rfl⟩ :=
    serves_cases serves
  · exact ⟨fun _ => id, fun _ _ => id⟩
  · exact ⟨fun _ => id, fun _ _ => storeCommit_commits fresh⟩
  · refine ⟨fun other held => ?_, fun _ _ => id⟩
    have different : branch ≠ created := by
      rintro rfl
      rw [absent] at held
      cases held
    simp [storeRef, Function.update_of_ne different, held]
  · exact ⟨fun _ => id, fun _ _ => id⟩

/-- A request over the network retains it. -/
theorem unreliable_retains
    {objects : GithubObjects}
    {branch : String}
    {before after : Remote}
    {request : GithubRequest}
    {answer : GithubAnswer request}
    (serves :
      (unreliableGithub objects branch).serves before request answer
        after) :
    before.Retains branch after := by
  obtain rfl | ⟨sent, sends⟩ := unreliableGithub_serves serves
  · exact ⟨fun _ => id, fun _ _ => id⟩
  · exact serves_retains branch sends

end Remote

/-- Over the network, an answered commit is the one stored under its sha. -/
theorem getCommit_network
    {objects : GithubObjects}
    {branch : String}
    {surroundings :
      Program.Surroundings Remote GithubRequest GithubAnswer}
    {permits : GithubRequest → Prop}
    (network :
      ∀ before request answer after,
        surroundings.serves before request answer after →
        (unreliableGithub objects branch).serves before request answer
          after)
    (sha : String)
    (permitted : permits (.getCommit sha))
    (remote : Remote) :
    Program.Keeps surroundings (fun _ => permits) (getCommit sha) remote
      (fun commit after => after.commits sha = some commit)
      (fun _ _ => True) := by
  refine .ask fun disturbed _ => ⟨permitted, ?_⟩
  intro answer served serves
  obtain ⟨rfl, rfl⟩ | ⟨fault, -⟩ := network _ _ _ _ serves
  · cases held : served.commits sha with
    | none =>
        exact .raise trivial
    | some commit =>
        exact .done held
  · obtain ⟨error, raised⟩ := raiseForStatus_failed fault
    rw [raised]
    exact .raise trivial

section

variable (tools : PatchTools) (objects : GithubObjects)
variable (patchDiff baseCommitSha branch : String)

/--
The branch stands at a commit with the approved tree, whose only parent is the
base commit.
-/
structure ApprovedHead (remote : Remote) (sha : String) : Prop where
  immutableBase : isCommitSha baseCommitSha = true
  ref : remote.refs branch = some sha
  commit :
    ∃ baseCommit tree,
      remote.commits baseCommitSha = some baseCommit ∧
        approvedTree tools objects patchDiff baseCommit.tree =
          .returned tree ∧
        remote.commits sha = some ⟨tree, [baseCommitSha]⟩

/-- A pull request is only asked for when the branch is the approved one. -/
def AskedApproved (remote : Remote) : GithubRequest → Prop
  | .createPull _ head _ _ =>
      head = branch ∧
        ∃ sha,
          ApprovedHead tools objects patchDiff baseCommitSha branch remote sha
  | _ => True

/-- Every pull request of the branch is for the approved commit. -/
def Vouched (remote : Remote) : Prop :=
  ∀ pull ∈ remote.pullsOf branch,
    ApprovedHead tools objects patchDiff baseCommitSha branch remote
      pull.headSha

end

section

variable {tools : PatchTools} {objects : GithubObjects}
variable {patchDiff baseCommitSha branch : String}

/-- Every other request may be asked at any time. -/
theorem Branching.askedApproved
    {remote : Remote}
    {request : GithubRequest}
    (branching : Branching branch request) :
    AskedApproved tools objects patchDiff baseCommitSha branch remote
      request := by
  cases request with
  | createPull title head base body =>
      exact branching.elim
  | _ =>
      trivial

/-- An approved branch stays approved. -/
theorem ApprovedHead.retained
    {before after : Remote}
    {sha : String}
    (approved :
      ApprovedHead tools objects patchDiff baseCommitSha branch before sha)
    (retains : before.Retains branch after) :
    ApprovedHead tools objects patchDiff baseCommitSha branch after sha := by
  obtain ⟨immutableBase, ref, baseCommit, tree, based, submitted, held⟩ :=
    approved
  exact
    ⟨immutableBase, retains.ref _ ref, baseCommit, tree,
      retains.commit _ _ based, submitted, retains.commit _ _ held⟩

/-- A pull request opened for the approved branch is vouched for. -/
theorem Vouched.served
    {before after : Remote}
    {request : GithubRequest}
    {answer : GithubAnswer request}
    (vouched :
      Vouched tools objects patchDiff baseCommitSha branch before)
    (asked :
      AskedApproved tools objects patchDiff baseCommitSha branch before
        request)
    (serves :
      (unreliableGithub objects branch).serves before request answer
        after) :
    Vouched tools objects patchDiff baseCommitSha branch after := by
  have retains := Remote.unreliable_retains serves
  intro pull member
  obtain rfl | ⟨sent, sends⟩ := unreliableGithub_serves serves
  · exact vouched pull member
  · obtain rfl | ⟨sha, commit, -, rfl⟩ | ⟨created, sha, -, -, rfl⟩ |
        ⟨title, base, body, opened, rfl, held, rfl⟩ :=
      Remote.serves_cases sends
    · exact vouched pull member
    · exact (vouched pull member).retained retains
    · exact (vouched pull member).retained retains
    · obtain ⟨own, sha, approved⟩ := asked
      rw [← own, Remote.storePull_pullsOf] at member
      rcases List.mem_cons.mp member with rfl | older
      · have same := approved.ref
        rw [← own, held] at same
        cases same
        exact approved.retained retains
      · exact (vouched pull (own ▸ older)).retained retains

/-- Other people leave what was vouched for. -/
theorem Vouched.disturbed
    {before after : Remote}
    (vouched :
      Vouched tools objects patchDiff baseCommitSha branch before)
    (disturbed : Remote.Disturbed branch before after) :
    Vouched tools objects patchDiff baseCommitSha branch after := by
  intro pull member
  obtain ⟨earlier, earlierMember, closed⟩ :=
    Pull.exists_before disturbed.ownPulls member
  rw [closed.headSha]
  exact (vouched earlier earlierMember).retained disturbed.retains

/-- A program that opens nothing keeps what is retained. -/
theorem keeps_retained
    {Value : Type}
    {program : GithubProgram Value}
    {remote : Remote}
    {returns : Value → Remote → Prop}
    (stable : Remote → Prop)
    (keeps :
      Program.Keeps (unreliableGithub objects branch)
        (fun _ => Branching branch) program remote returns
        (fun _ _ => True))
    (retained :
      ∀ before after,
        stable before → before.Retains branch after → stable after)
    (holds : stable remote) :
    Program.Keeps (unreliableGithub objects branch)
      (AskedApproved tools objects patchDiff baseCommitSha branch)
      program remote
      (fun value after => returns value after ∧ stable after)
      (fun _ _ => True) :=
  (keeps.frame
    (fun _ _ held disturbed => retained _ _ held disturbed.retains)
    (fun _ _ _ _ held _ serves =>
      retained _ _ held (Remote.unreliable_retains serves))
    holds).mono
    (fun _ _ branching => branching.askedApproved)
    (fun _ _ => id)
    (fun _ _ _ => trivial)

/-- An answered reference is where the branch stands. -/
theorem getRef_keeps
    (remote : Remote) :
    Program.Keeps (unreliableGithub objects branch)
      (fun _ => Branching branch) (getRef branch) remote
      (fun sha after => after.refs branch = some sha)
      (fun _ _ => True) := by
  refine .ask fun disturbed _ => ⟨trivial, ?_⟩
  rintro answer served (⟨rfl, rfl⟩ | ⟨fault, -⟩)
  · cases held : served.refs branch with
    | none =>
        exact .raise trivial
    | some sha =>
        exact .done held
  · obtain ⟨error, raised⟩ := raiseForStatus_failed fault
    rw [raised]
    exact .raise trivial

/-- An answered commit is the one stored under its sha. -/
theorem getCommit_keeps
    (sha : String)
    (remote : Remote) :
    Program.Keeps (unreliableGithub objects branch)
      (fun _ => Branching branch) (getCommit sha) remote
      (fun commit after => after.commits sha = some commit)
      (fun _ _ => True) :=
  getCommit_network (fun _ _ _ _ => id) sha trivial remote

/-- The branch, found or created, is where the reference says. -/
theorem ensureBranch_keeps
    (call : GithubCall)
    (authorize : Bool)
    (tree : String)
    (remote : Remote) :
    Program.Keeps (unreliableGithub objects branch)
      (fun _ => Branching branch)
      (ensureBranch call authorize branch tree) remote
      (fun sha after => after.refs branch = some sha)
      (fun _ _ => True) := by
  refine .ask fun disturbed _ => ⟨trivial, ?_⟩
  intro reply served serves
  cases reply with
  | answered sha =>
      refine .done ?_
      obtain ⟨same, rfl⟩ | ⟨fault, -⟩ := serves
      · cases held : served.refs branch with
        | none =>
            rw [held] at same
            cases same
        | some found =>
            rw [held] at same
            cases same
            rfl
      · exact fault.elim
  | lost transient message =>
      exact .raise trivial
  | refused status =>
      simp only
      split
      · have posted :
            (postCommit authorize call.title tree
              [call.baseCommitSha]).Asks (Branching branch) :=
          .bind (authorizeWrite_asks authorize trivial) fun _ =>
            ⟨trivial, raiseForStatus_asks⟩
        refine .bind ((posted.keeps served).mono (fun _ _ => id) ?_
          (fun _ _ => id))
        intro commit stored _
        refine .bind (((authorizeWrite_asks authorize trivial).keeps stored).mono
          (fun _ _ => id) ?_ (fun _ _ => id))
        intro _ authorized _
        refine .ask fun again _ => ⟨rfl, ?_⟩
        intro created next _
        cases created with
        | answered body =>
            exact getRef_keeps next
        | lost transient message =>
            exact .raise trivial
        | refused status =>
            simp only
            split
            · exact getRef_keeps next
            · exact .raise trivial
      · exact .raise trivial

/-- A pull request is only asked for while the head is approved. -/
theorem openPull_approved
    (call : GithubCall)
    (authorize : Bool)
    (remoteRef : String)
    {remote : Remote}
    {sha : String}
    (approved :
      ApprovedHead tools objects patchDiff baseCommitSha branch remote
        sha) :
    Program.Keeps (unreliableGithub objects branch)
      (AskedApproved tools objects patchDiff baseCommitSha branch)
      (openPull call authorize branch remoteRef) remote
      (fun _ _ => True) (fun _ _ => True) := by
  refine .bind ((keeps_retained
    (fun remote =>
      ApprovedHead tools objects patchDiff baseCommitSha branch remote
        sha)
    ((authorizeWrite_asks authorize trivial).keeps remote)
    (fun _ _ held => held.retained) approved).mono
    (fun _ _ => id) ?_ (fun _ _ => id))
  rintro _ authorized ⟨-, approved⟩
  refine .ask fun disturbed interfered =>
    ⟨⟨rfl, sha, approved.retained interfered.retains⟩, ?_⟩
  intro answer served _
  have listing : (getPulls branch).Asks (Branching branch) :=
    ⟨trivial, raiseForStatus_asks⟩
  cases answer with
  | answered pull =>
      exact .done trivial
  | lost transient message =>
      exact .raise trivial
  | refused status =>
      simp only
      split
      · refine .bind ((listing.keeps served).mono
          (fun _ _ branching => branching.askedApproved) ?_
          (fun _ _ => id))
        intro found reread _
        split
        · split
          · exact .done trivial
          · exact .raise trivial
        · exact .raise trivial
      · exact .raise trivial

/-- So is it when the attempt first looks for an existing one. -/
theorem reconcilePull_approved
    (call : GithubCall)
    (authorize : Bool)
    (remoteRef : String)
    (existing : List Pull)
    {remote : Remote}
    {sha : String}
    (approved :
      ApprovedHead tools objects patchDiff baseCommitSha branch remote
        sha) :
    Program.Keeps (unreliableGithub objects branch)
      (AskedApproved tools objects patchDiff baseCommitSha branch)
      (reconcilePull call authorize branch remoteRef existing) remote
      (fun _ _ => True) (fun _ _ => True) := by
  unfold reconcilePull
  split
  · split
    · exact .done trivial
    · exact .raise trivial
  · exact openPull_approved call authorize remoteRef approved

/-- What submitting a patch returns is the approved tree. -/
theorem submitPatch_keeps
    (tools : PatchTools)
    (patchDiff : String)
    (authorize : Bool)
    (baseTree : String)
    (remote : Remote) :
    Program.Keeps (unreliableGithub objects branch)
      (fun _ => Branching branch)
      (submitPatch tools patchDiff authorize baseTree) remote
      (fun tree _ =>
        approvedTree tools objects patchDiff baseTree = .returned tree)
      (fun _ _ => True) := by
  have strict := submitPatch_strict tools patchDiff authorize baseTree
  refine (strict.keeps_returned
    (fun _ _ _ _ => unreliableGithub_objects) remote).mono
    (fun _ _ about => about.branching) ?_ (fun _ _ => id)
  intro tree final evaluated
  rw [← submitPatch_evaluate tools objects patchDiff authorize]
  exact evaluated

/-- Publishing asks for a pull request only while the head is approved. -/
theorem publish_approved
    {call : GithubCall}
    (authorize : Bool)
    (existing : List Pull)
    (remote : Remote)
    (immutableBase : isCommitSha call.baseCommitSha = true) :
    Program.Keeps (unreliableGithub objects branch)
      (AskedApproved tools objects call.patchDiff call.baseCommitSha
        branch)
      (publish tools call authorize branch existing) remote
      (fun _ _ => True) (fun _ _ => True) := by
  unfold publish
  refine .bind ((getCommit_keeps call.baseCommitSha remote).mono
    (fun _ _ branching => branching.askedApproved) ?_ (fun _ _ => id))
  intro baseCommit read based
  refine .bind ((keeps_retained
    (fun remote =>
      remote.commits call.baseCommitSha = some baseCommit)
    (submitPatch_keeps tools call.patchDiff authorize baseCommit.tree
      read)
    (fun _ _ held retains => retains.commit _ _ held) based).mono
    (fun _ _ => id) ?_ (fun _ _ => id))
  rintro tree submitted ⟨evaluated, based⟩
  refine .bind ((keeps_retained
    (fun remote =>
      remote.commits call.baseCommitSha = some baseCommit)
    (ensureBranch_keeps call authorize tree submitted)
    (fun _ _ held retains => retains.commit _ _ held) based).mono
    (fun _ _ => id) ?_ (fun _ _ => id))
  rintro remoteRef ensured ⟨ref, based⟩
  refine .bind ((keeps_retained
    (fun remote =>
      remote.refs branch = some remoteRef ∧
        remote.commits call.baseCommitSha = some baseCommit)
    (getCommit_keeps remoteRef ensured)
    (fun _ _ held retains =>
      ⟨retains.ref _ held.1, retains.commit _ _ held.2⟩)
    ⟨ref, based⟩).mono (fun _ _ => id) ?_ (fun _ _ => id))
  rintro remoteCommit read ⟨held, ref, based⟩
  split
  · exact .raise trivial
  · rename_i same
    rw [not_or, not_not, not_not] at same
    obtain ⟨sameTree, sameParents⟩ := same
    have approved :
        ApprovedHead tools objects call.patchDiff call.baseCommitSha
          branch read remoteRef := by
      refine
        ⟨immutableBase, ref, baseCommit, tree, based, evaluated, ?_⟩
      rw [held, ← sameTree, ← sameParents]
    refine .bind ((keeps_retained
      (fun remote =>
        ApprovedHead tools objects call.patchDiff call.baseCommitSha
          branch remote remoteRef)
      ((requeryPulls_asks existing trivial).keeps read)
      (fun _ _ held => held.retained) approved).mono (fun _ _ => id) ?_
      (fun _ _ => id))
    rintro found queried ⟨-, approved⟩
    refine .bind ((reconcilePull_approved call authorize remoteRef found
      approved).mono (fun _ _ => id) ?_ (fun _ _ => id))
    intro pull reconciled _
    exact .done trivial

/-- An attempt asks for a pull request only while the head is approved. -/
theorem acreatePullRequest_approved
    {sha256 : String → String}
    {integration : GithubIntegration}
    (enabled : integration.enabled = true)
    (call : GithubCall)
    (authorize : Bool)
    (remote : Remote)
    (own : pullRequestBranch sha256 call.runId call.patchDiff = branch) :
    Program.Keeps (unreliableGithub objects branch)
      (AskedApproved tools objects call.patchDiff call.baseCommitSha
        branch)
      (acreatePullRequest tools sha256 integration call authorize)
      remote
      (fun _ _ => True) (fun _ _ => True) := by
  unfold acreatePullRequest
  simp only [enabled, if_true, own]
  have attempted :
      Program.Keeps (unreliableGithub objects branch)
        (AskedApproved tools objects call.patchDiff call.baseCommitSha
          branch)
        (attemptPullRequest tools call authorize branch) remote
        (fun _ _ => True) (fun _ _ => True) := by
    unfold attemptPullRequest
    have listing : (getPulls branch).Asks (Branching branch) :=
      ⟨trivial, raiseForStatus_asks⟩
    have reads : (getRef baseBranch).Asks (Branching branch) :=
      ⟨trivial, raiseForStatus_asks⟩
    split
    · rename_i immutableBase
      refine .bind ((listing.keeps remote).mono
        (fun _ _ branching => branching.askedApproved) ?_
        (fun _ _ => id))
      intro existing listed _
      refine .bind ((reads.keeps listed).mono
        (fun _ _ branching => branching.askedApproved) ?_
        (fun _ _ => id))
      intro base read _
      split
      · exact publish_approved authorize existing read immutableBase
      · exact .raise trivial
    · exact .raise trivial
  refine .handle (attempted.mono (fun _ _ => id) (fun _ _ => id) ?_)
  intro error middle _
  exact .done trivial

end

/-- In every sequence of attempts the pull requests are vouched for. -/
theorem pullRequestAttempts_vouched
    {tools : PatchTools}
    {sha256 : String → String}
    {objects : GithubObjects}
    {integration : GithubIntegration}
    {runId patchDiff baseCommitSha : String}
    {state : PullRequestAttempts}
    (enabled : integration.enabled = true)
    (reachable :
      (pullRequestAttempts tools sha256 objects integration runId
        patchDiff baseCommitSha).Reachable state) :
    Vouched tools objects patchDiff baseCommitSha
      (pullRequestBranch sha256 runId patchDiff) state.remote := by
  induction reachable with
  | initial begins =>
      obtain ⟨-, -, none, -⟩ := begins
      intro pull member
      rw [none] at member
      cases member
  | step earlier step vouched =>
    cases step with
    | others disturbed =>
        exact vouched.disturbed disturbed
    | attempt sameRun samePatch sameBase execution =>
        subst sameRun samePatch sameBase
        obtain ⟨permitted, -⟩ :=
          acreatePullRequest_approved enabled _ _ _ rfl _ _ _ execution
        exact
          execution.preserves
            (fun _ _ held disturbed => held.disturbed disturbed)
            (fun _ _ _ _ held asked serves => held.served asked serves)
            permitted vouched

/-- The base branch stands at the base commit when the request reads it. -/
def BaseUnmoved
    (baseCommitSha : String)
    (remote : Remote)
    (request : GithubRequest) : Prop :=
  request = .getRef baseBranch →
    remote.refs baseBranch = some baseCommitSha

/-- Requests that are all answered, while the base branch does not move. -/
def settledGithub
    (objects : GithubObjects)
    (branch baseCommitSha : String) :
    Program.Surroundings Remote GithubRequest GithubAnswer where
  serves before request answer after :=
    before.Serves objects request answer after ∧
      BaseUnmoved baseCommitSha before request
  interferes := Remote.Disturbed branch

section

variable {tools : PatchTools} {objects : GithubObjects}
variable {patchDiff baseCommitSha branch tree : String}
variable {baseCommit : RemoteCommit} {pull : Pull}

/--
The branch stands at a commit of the tree on the base, and one pull request,
open or not, is for that commit.
-/
structure Published
    (branch baseCommitSha tree : String)
    (baseCommit : RemoteCommit)
    (pull : Pull)
    (remote : Remote) : Prop where
  ref : remote.refs branch = some pull.headSha
  based : remote.commits baseCommitSha = some baseCommit
  head : remote.commits pull.headSha = some ⟨tree, [baseCommitSha]⟩
  only :
    ∃ current,
      remote.pullsOf branch = [current] ∧ pull.ClosedFrom current

/-- Settled, requests about objects have their one answer. -/
theorem settledGithub_objects
    {before after : Remote}
    {request : GithubRequest}
    {answer : GithubAnswer request}
    (about : AboutObjects request)
    (serves :
      (settledGithub objects branch baseCommitSha).serves before request
        answer after) :
    answer = objectAnswer objects request :=
  Remote.serves_objects about serves.1

/-- A published branch stays published. -/
theorem Published.disturbed
    {before after : Remote}
    (published :
      Published branch baseCommitSha tree baseCommit pull before)
    (disturbed : Remote.Disturbed branch before after) :
    Published branch baseCommitSha tree baseCommit pull after := by
  obtain ⟨ref, based, head, current, only, closed⟩ := published
  refine
    ⟨disturbed.ownRef.trans ref, disturbed.commits _ _ based,
      disturbed.commits _ _ head, ?_⟩
  have shape := disturbed.ownPulls
  rw [only] at shape
  cases later : after.pullsOf branch with
  | nil =>
      rw [later] at shape
      cases shape
  | cons next rest =>
      rw [later] at shape
      cases shape with
      | cons again none =>
          cases none
          exact ⟨next, rfl, closed.trans again⟩

/-- Requests other than the one for a pull request leave it published. -/
theorem Published.served
    {before after : Remote}
    {request : GithubRequest}
    {answer : GithubAnswer request}
    (published :
      Published branch baseCommitSha tree baseCommit pull before)
    (branching : Branching branch request)
    (serves : before.Serves objects request answer after) :
    Published branch baseCommitSha tree baseCommit pull after := by
  have retains := Remote.serves_retains branch serves
  refine
    ⟨retains.ref _ published.ref, retains.commit _ _ published.based,
      retains.commit _ _ published.head, ?_⟩
  obtain rfl | ⟨sha, commit, -, rfl⟩ | ⟨created, sha, -, -, rfl⟩ |
      ⟨title, base, body, opened, rfl, -, rfl⟩ :=
    Remote.serves_cases serves
  · exact published.only
  · exact published.only
  · exact published.only
  · exact branching.elim

/-- A listing answers with the one pull request. -/
theorem getPulls_published
    {remote : Remote}
    (published :
      Published branch baseCommitSha tree baseCommit pull remote) :
    Program.Keeps (settledGithub objects branch baseCommitSha)
      (fun _ _ => True) (getPulls branch) remote
      (fun found after =>
        (∃ current, found = [current] ∧ pull.ClosedFrom current) ∧
          Published branch baseCommitSha tree baseCommit pull after)
      (fun _ _ => False) := by
  refine .ask fun disturbed interfered => ⟨trivial, ?_⟩
  rintro answer served ⟨⟨rfl, rfl⟩, -⟩
  have published := published.disturbed interfered
  exact .done ⟨published.only, published⟩

/-- The base branch is found where it should be. -/
theorem getRef_baseBranch
    {remote : Remote}
    (published :
      Published branch baseCommitSha tree baseCommit pull remote) :
    Program.Keeps (settledGithub objects branch baseCommitSha)
      (fun _ _ => True) (getRef baseBranch) remote
      (fun sha after =>
        sha = baseCommitSha ∧
          Published branch baseCommitSha tree baseCommit pull after)
      (fun _ _ => False) := by
  refine .ask fun disturbed interfered => ⟨trivial, ?_⟩
  rintro answer served ⟨⟨rfl, rfl⟩, unmoved⟩
  rw [unmoved rfl]
  exact .done ⟨rfl, published.disturbed interfered⟩

/-- A commit that is there is found. -/
theorem getCommit_published
    {remote : Remote}
    {sha : String}
    {commit : RemoteCommit}
    (held : remote.commits sha = some commit)
    (published :
      Published branch baseCommitSha tree baseCommit pull remote) :
    Program.Keeps (settledGithub objects branch baseCommitSha)
      (fun _ _ => True) (getCommit sha) remote
      (fun found after =>
        found = commit ∧
          Published branch baseCommitSha tree baseCommit pull after)
      (fun _ _ => False) := by
  refine .ask fun disturbed interfered => ⟨trivial, ?_⟩
  rintro answer served ⟨⟨rfl, rfl⟩, -⟩
  rw [interfered.commits _ _ held]
  exact .done ⟨rfl, published.disturbed interfered⟩

/-- The approved patch gives the approved tree again. -/
theorem submitPatch_published
    {remote : Remote}
    {baseTree : String}
    (authorize : Bool)
    (approved :
      approvedTree tools objects patchDiff baseTree = .returned tree)
    (published :
      Published branch baseCommitSha tree baseCommit pull remote) :
    Program.Keeps (settledGithub objects branch baseCommitSha)
      (fun _ _ => True)
      (submitPatch tools patchDiff authorize baseTree) remote
      (fun found after =>
        found = tree ∧
          Published branch baseCommitSha tree baseCommit pull after)
      (fun _ _ => False) := by
  rw [← submitPatch_evaluate tools objects patchDiff authorize]
    at approved
  have again :
      Program.Keeps (settledGithub objects branch baseCommitSha)
        (fun _ => AboutObjects)
        (submitPatch tools patchDiff authorize baseTree) remote
        (fun found _ => found = tree) (fun _ _ => False) :=
    (submitPatch_strict tools patchDiff authorize
      baseTree).keeps_evaluate
      (fun _ _ _ _ => settledGithub_objects) approved remote
  refine (again.frame
    (fun _ _ held disturbed => Published.disturbed held disturbed)
    (fun _ _ _ _ held about serves =>
      Published.served held about.branching serves.1)
    published).mono (fun _ _ _ => trivial) (fun _ _ => id) ?_
  intro error final raised
  exact raised.1

/-- A branch that exists is not created again. -/
theorem ensureBranch_published
    {remote : Remote}
    (call : GithubCall)
    (authorize : Bool)
    (submitted : String)
    (published :
      Published branch baseCommitSha tree baseCommit pull remote) :
    Program.Keeps (settledGithub objects branch baseCommitSha)
      (fun _ _ => True)
      (ensureBranch call authorize branch submitted) remote
      (fun sha after =>
        sha = pull.headSha ∧
          Published branch baseCommitSha tree baseCommit pull after)
      (fun _ _ => False) := by
  refine .ask fun disturbed interfered => ⟨trivial, ?_⟩
  rintro answer served ⟨⟨rfl, rfl⟩, -⟩
  have published := published.disturbed interfered
  rw [published.ref]
  exact .done ⟨rfl, published⟩

/-- A result is about a pull request. -/
def PullRequestResult.Names
    (result : PullRequestResult)
    (pull : Pull) : Prop :=
  result.ok = true ∧
    result.prUrl = pull.htmlUrl ∧
    result.prNumber = some pull.number

/-- Publishing again returns the pull request that is there. -/
theorem publish_published
    {call : GithubCall}
    {current : Pull}
    {remote : Remote}
    (authorize : Bool)
    (approved :
      approvedTree tools objects call.patchDiff baseCommit.tree =
        .returned tree)
    (closed : pull.ClosedFrom current)
    (published :
      Published branch call.baseCommitSha tree baseCommit pull remote) :
    Program.Keeps (settledGithub objects branch call.baseCommitSha)
      (fun _ _ => True)
      (publish tools call authorize branch [current]) remote
      (fun result _ => result.Names pull) (fun _ _ => False) := by
  unfold publish
  refine .bind ((getCommit_published published.based published).mono
    (fun _ _ => id) ?_ (fun _ _ => id))
  rintro found based ⟨rfl, published⟩
  refine .bind ((submitPatch_published authorize approved published).mono
    (fun _ _ => id) ?_ (fun _ _ => id))
  rintro found submitted ⟨rfl, published⟩
  refine .bind ((ensureBranch_published call authorize found
    published).mono (fun _ _ => id) ?_ (fun _ _ => id))
  rintro remoteRef ensured ⟨rfl, published⟩
  refine .bind ((getCommit_published published.head published).mono
    (fun _ _ => id) ?_ (fun _ _ => id))
  rintro remoteCommit read ⟨rfl, published⟩
  rw [if_neg (by simp)]
  refine .bind (.done ?_)
  refine .bind ?_
  simp only [reconcilePull, closed.headSha, if_true]
  exact .done (.done ⟨rfl, closed.htmlUrl, by simp [closed.number]⟩)

/-- A later attempt returns the pull request while the base has not moved. -/
theorem acreatePullRequest_published
    {sha256 : String → String}
    {integration : GithubIntegration}
    {call : GithubCall}
    {remote : Remote}
    (enabled : integration.enabled = true)
    (authorize : Bool)
    (own : pullRequestBranch sha256 call.runId call.patchDiff = branch)
    (immutableBase : isCommitSha call.baseCommitSha = true)
    (approved :
      approvedTree tools objects call.patchDiff baseCommit.tree =
        .returned tree)
    (published :
      Published branch call.baseCommitSha tree baseCommit pull remote) :
    Program.Keeps (settledGithub objects branch call.baseCommitSha)
      (fun _ _ => True)
      (acreatePullRequest tools sha256 integration call authorize)
      remote
      (fun result _ => result.Names pull) (fun _ _ => False) := by
  unfold acreatePullRequest
  simp only [enabled, if_true, own]
  have attempted :
      Program.Keeps (settledGithub objects branch call.baseCommitSha)
        (fun _ _ => True)
        (attemptPullRequest tools call authorize branch) remote
        (fun result _ => result.Names pull) (fun _ _ => False) := by
    unfold attemptPullRequest
    rw [if_pos immutableBase]
    refine .bind ((getPulls_published published).mono
      (fun _ _ => id) ?_ (fun _ _ => id))
    rintro existing listed ⟨⟨current, rfl, closed⟩, published⟩
    refine .bind ((getRef_baseBranch published).mono
      (fun _ _ => id) ?_ (fun _ _ => id))
    rintro base read ⟨rfl, published⟩
    rw [if_pos rfl]
    exact publish_published authorize approved closed published
  exact
    .handle
      (attempted.mono (fun _ _ => id) (fun _ _ => id)
        fun _ _ => False.elim)

/-- The branch of a run is not the base branch. -/
theorem pullRequestBranch_ne_baseBranch
    (sha256 : String → String)
    (runId patchDiff : String) :
    pullRequestBranch sha256 runId patchDiff ≠ baseBranch := by
  intro same
  have letters := congrArg (fun text => text.toList.head?) same
  simp [pullRequestBranch, baseBranch] at letters

/-- Requests other than the one that reads the base branch. -/
def PastBase (request : GithubRequest) : Prop :=
  request ≠ .getRef baseBranch

/-- Publishing does not read the base branch. -/
theorem publish_asks
    (tools : PatchTools)
    (call : GithubCall)
    (authorize : Bool)
    (existing : List Pull)
    (own : branch ≠ baseBranch) :
    (publish tools call authorize branch existing).Asks PastBase := by
  have commits (sha : String) : (getCommit sha).Asks PastBase :=
    ⟨by simp [PastBase], raiseForStatus_asks⟩
  have lists : (getPulls branch).Asks PastBase :=
    ⟨by simp [PastBase], raiseForStatus_asks⟩
  have authorizes : PastBase .authorize := by simp [PastBase]
  unfold publish
  refine .bind (commits _) fun baseCommit => ?_
  refine .bind ?_ fun tree => ?_
  · refine (submitPatch_strict tools call.patchDiff authorize
      baseCommit.tree).asks.mono ?_
    rintro request about rfl
    exact about
  · refine .bind ?_ fun remoteRef => ?_
    · exact
        ensureBranch_asks call authorize tree authorizes
          (by simpa [PastBase] using own) (by simp [PastBase])
          (by simp [PastBase])
    · refine .bind (commits _) fun remoteCommit => ?_
      split
      · trivial
      · refine
          .bind (requeryPulls_asks existing (by simp [PastBase]))
            fun found => ?_
        refine .bind ?_ fun pull => trivial
        unfold reconcilePull
        split
        · split <;> trivial
        · refine
            .bind (authorizeWrite_asks authorize authorizes) fun _ => ?_
          refine ⟨by simp [PastBase], fun reply => ?_⟩
          cases reply with
          | answered pull =>
              trivial
          | lost transient message =>
              trivial
          | refused status =>
              simp only
              split
              · refine .bind lists fun found => ?_
                split
                · split <;> trivial
                · trivial
              · trivial

/-- What comes after the base branch was read where it should be. -/
theorem publish_baseUnmoved
    (call : GithubCall)
    (authorize : Bool)
    (existing : List Pull)
    (remote : Remote)
    (other : branch ≠ baseBranch) :
    Program.Ensures (reliableGithub objects branch)
      (publish tools call authorize branch existing) remote
      fun exchanges _ _ =>
        ∀ exchange ∈ exchanges,
          BaseUnmoved call.baseCommitSha exchange.before
            exchange.request := by
  refine Program.Ensures.mono
    ((publish_asks tools call authorize existing other).keeps remote) ?_
  rintro exchanges outcome final ⟨past, -⟩ exchange member same
  exact (past exchange member same).elim

/-- An attempt that does not raise read the base branch where it should be. -/
theorem attemptPullRequest_baseUnmoved
    (call : GithubCall)
    (authorize : Bool)
    (remote : Remote)
    (other : branch ≠ baseBranch) :
    Program.Ensures (reliableGithub objects branch)
      (attemptPullRequest tools call authorize branch) remote
      fun exchanges outcome _ =>
        ∀ result,
          outcome = .returned result →
          ∀ exchange ∈ exchanges,
            BaseUnmoved call.baseCommitSha exchange.before
              exchange.request := by
  have lists : (getPulls branch).Asks PastBase :=
    ⟨by simp [PastBase], raiseForStatus_asks⟩
  unfold attemptPullRequest
  split
  · refine Program.Ensures.bind
      (Program.Ensures.mono (lists.keeps remote) ?_)
    rintro earlier outcome listed ⟨past, -⟩
    cases outcome with
    | died =>
        intro result returned
        cases returned
    | raised error =>
        intro result returned
        cases returned
    | returned existing =>
        refine Program.Ensures.bind (Program.Ensures.ask ?_ ?_)
        · intro result returned
          cases returned
        · rintro disturbed answer served - ⟨rfl, rfl⟩
          cases stands : served.refs baseBranch with
          | none =>
              refine Program.Ensures.raise ?_
              intro result returned
              cases returned
          | some base =>
              refine Program.Ensures.done ?_
              simp only
              split
              · rename_i same
                refine Program.Ensures.mono
                  (publish_baseUnmoved call authorize existing served
                    other) ?_
                intro later outcome final unmoved result _
                refine List.forall_mem_append.mpr ⟨?_, ?_⟩
                · intro exchange member isBase
                  exact (past exchange member isBase).elim
                · refine List.forall_mem_cons.mpr ⟨?_, unmoved⟩
                  intro _
                  exact same ▸ stands
              · refine Program.Ensures.raise ?_
                intro result returned
                cases returned
  · refine Program.Ensures.raise ?_
    intro result returned
    cases returned

/-- A successful attempt has read the base branch where it should be. -/
theorem acreatePullRequest_baseUnmoved
    {sha256 : String → String}
    {integration : GithubIntegration}
    (enabled : integration.enabled = true)
    (call : GithubCall)
    (authorize : Bool)
    (remote : Remote)
    (own : pullRequestBranch sha256 call.runId call.patchDiff = branch) :
    Program.Ensures (reliableGithub objects branch)
      (acreatePullRequest tools sha256 integration call authorize)
      remote
      fun exchanges outcome _ =>
        ∀ result,
          outcome = .returned result →
          result.ok = true →
          ∀ exchange ∈ exchanges,
            BaseUnmoved call.baseCommitSha exchange.before
              exchange.request := by
  unfold acreatePullRequest
  simp only [enabled, if_true, own]
  have other : branch ≠ baseBranch :=
    own ▸ pullRequestBranch_ne_baseBranch sha256 _ _
  refine Program.Ensures.handle (Program.Ensures.mono
    (attemptPullRequest_baseUnmoved call authorize remote other) ?_)
  intro earlier outcome middle unmoved
  cases outcome with
  | returned result =>
      intro same returned _
      cases returned
      exact unmoved result rfl
  | raised error =>
      refine Program.Ensures.done ?_
      intro result returned ok
      cases returned
      cases ok
  | died =>
      intro result returned
      cases returned

end

/--
Once a pull request was created, a later attempt whose requests are all answered
returns it if and only if it reads the base branch at the base commit.
-/
theorem reconciles_iff_base_unmoved
    {tools : PatchTools}
    {sha256 : String → String}
    {objects : GithubObjects}
    {integration : GithubIntegration}
    {call : GithubCall}
    {authorize : Bool}
    {state : PullRequestAttempts}
    {pull : Pull}
    {exchanges :
      List (Program.Exchange Remote GithubRequest GithubAnswer)}
    {outcome : Program.Outcome GithubError PullRequestResult}
    {final : Remote}
    (enabled : integration.enabled = true)
    (reachable :
      (pullRequestAttempts tools sha256 objects integration call.runId
        call.patchDiff call.baseCommitSha).Reachable state)
    (created :
      pull ∈
        state.remote.pullsOf
          (pullRequestBranch sha256 call.runId call.patchDiff))
    (execution :
      Program.Execution
        (reliableGithub objects
          (pullRequestBranch sha256 call.runId call.patchDiff))
        (acreatePullRequest tools sha256 integration call authorize)
        state.remote exchanges outcome final)
    (lives : outcome ≠ .died) :
    (∃ result, outcome = .returned result ∧ result.Names pull) ↔
      ∀ exchange ∈ exchanges,
        exchange.request = .getRef baseBranch →
        exchange.before.refs baseBranch = some call.baseCommitSha := by
  constructor
  · rintro ⟨result, returned, ok, -⟩
    exact
      acreatePullRequest_baseUnmoved enabled call authorize state.remote
        rfl _ _ _ execution result returned ok
  · intro unmoved
    obtain ⟨⟨-, -, single⟩, -⟩ :=
      pullRequestAttempts_sound enabled reachable
    obtain ⟨immutableBase, ref, baseCommit, tree, based, approved, head⟩ :=
      pullRequestAttempts_vouched enabled reachable pull created
    obtain ⟨only, isOnly⟩ :=
      List.length_eq_one_iff.mp
        (Nat.le_antisymm single (List.length_pos_of_mem created))
    rw [isOnly] at created
    obtain rfl := List.mem_singleton.mp created
    have settled :
        Program.Execution
          (settledGithub objects
            (pullRequestBranch sha256 call.runId call.patchDiff)
            call.baseCommitSha)
          (acreatePullRequest tools sha256 integration call authorize)
          state.remote exchanges outcome final :=
      execution.restrict fun exchange member served serves =>
        ⟨serves, unmoved exchange member⟩
    obtain ⟨-, ends⟩ :=
      acreatePullRequest_published enabled authorize rfl immutableBase
        approved ⟨ref, based, head, pull, isOnly, .refl pull⟩ _ _ _
        settled
    cases outcome with
    | returned result =>
        exact ⟨result, rfl, ends⟩
    | raised error =>
        exact ends.elim
    | died =>
        exact (lives rfl).elim

/-- An attempt of the sample run with a GitHub that answers everything. -/
def answeredAttempt
    (remote : Remote) :
    Option (Program.Outcome GithubError PullRequestResult × Remote) :=
  (acreatePullRequest samplePatchTools id sampleIntegration
    (sampleCall sampleSha) true).run (Remote.respond sampleObjects) remote

/-- It is an execution whose requests are all answered. -/
theorem answeredAttempt_execution
    {remote final : Remote}
    {outcome : Program.Outcome GithubError PullRequestResult}
    (ran : answeredAttempt remote = some (outcome, final)) :
    ∃ exchanges,
      Program.Execution
        (reliableGithub sampleObjects
          (pullRequestBranch id "RUN-1" "diff"))
        (acreatePullRequest samplePatchTools id sampleIntegration
          (sampleCall sampleSha) true)
        remote exchanges outcome final :=
  Program.execution_of_run
    (Remote.Disturbed.refl (pullRequestBranch id "RUN-1" "diff"))
    (fun _ _ _ _ => Remote.serves_of_respond) ran

/-- The sample run, after an attempt that lost the answer to its last request. -/
def lostAttempt : Option PullRequestAttempts :=
  attemptsAlone samplePatchTools id sampleObjects sampleIntegration
    (sampleCall sampleSha) ⟨sampleRemote sampleSha, []⟩
    [losesPullRequest]

/-- The next attempt of the sample run finds the pull request. -/
theorem reconciles_iff_base_unmoved_lost :
    ∃ (state : PullRequestAttempts) (pull : Pull)
      (exchanges :
        List (Program.Exchange Remote GithubRequest GithubAnswer))
      (outcome : Program.Outcome GithubError PullRequestResult),
      state.results.map PullRequestResult.ok = [false] ∧
        ((∃ result, outcome = .returned result ∧ result.Names pull) ↔
          ∀ exchange ∈ exchanges,
            exchange.request = .getRef baseBranch →
            exchange.before.refs baseBranch = some sampleSha) := by
  have sample :
      (lostAttempt.map fun state =>
        (state.results.map PullRequestResult.ok,
          (state.remote.pullsOf
            (pullRequestBranch id "RUN-1" "diff")).length,
          (answeredAttempt state.remote).map fun ended =>
            (attemptResults ended.1).map PullRequestResult.ok)) =
        some ([false], 1, some [true]) := by
    decide +kernel
  obtain ⟨state, ran, shape⟩ := Option.map_eq_some_iff.mp sample
  simp only [Prod.mk.injEq] at shape
  obtain ⟨results, one, answered⟩ := shape
  obtain ⟨⟨outcome, final⟩, alone, returned⟩ :=
    Option.map_eq_some_iff.mp answered
  obtain ⟨pull, isOnly⟩ := List.length_eq_one_iff.mp one
  obtain ⟨exchanges, execution⟩ := answeredAttempt_execution alone
  refine ⟨state, pull, exchanges, outcome, results, ?_⟩
  refine
    reconciles_iff_base_unmoved (by decide)
      (attemptsAlone_reachable sampleRemote_initial ran)
      (by rw [sampleCall, isOnly]; exact List.mem_singleton_self pull)
      execution ?_
  rintro rfl
  cases returned

/-- Somebody pushes to the base branch. -/
def Remote.moveBase (remote : Remote) (sha : String) : Remote :=
  { remote with refs := Function.update remote.refs baseBranch (some sha) }

/-- A push to the base branch is what other people do. -/
theorem Remote.moveBase_disturbed
    (remote : Remote)
    (sha : String)
    {branch : String}
    (other : branch ≠ baseBranch) :
    Remote.Disturbed branch remote (remote.moveBase sha) where
  ownRef := Function.update_of_ne other _ _
  ownPulls := (Remote.Disturbed.refl branch remote).ownPulls
  commits _ _ := id
  creations := rfl

/--
An attempt created the pull request and lost the answer; somebody pushed to the
base branch; the next attempt, all of whose requests are answered, fails.
-/
theorem moved_base_is_not_reconciled :
    ∃ (state : PullRequestAttempts) (pull : Pull)
      (exchanges :
        List (Program.Exchange Remote GithubRequest GithubAnswer))
      (result : PullRequestResult) (final : Remote),
      (pullRequestAttempts samplePatchTools id sampleObjects
          sampleIntegration "RUN-1" "diff" sampleSha).Reachable state ∧
        state.results.map PullRequestResult.ok = [false] ∧
        pull ∈
          state.remote.pullsOf (pullRequestBranch id "RUN-1" "diff") ∧
        Program.Execution
          (reliableGithub sampleObjects
            (pullRequestBranch id "RUN-1" "diff"))
          (acreatePullRequest samplePatchTools id sampleIntegration
            (sampleCall sampleSha) true)
          state.remote exchanges (.returned result) final ∧
        ¬result.Names pull := by
  have sample :
      (lostAttempt.map fun state =>
        (state.results.map PullRequestResult.ok,
          (state.remote.pullsOf
            (pullRequestBranch id "RUN-1" "diff")).length,
          (answeredAttempt (state.remote.moveBase "pushed")).map
            fun ended =>
              (attemptResults ended.1).map PullRequestResult.ok)) =
        some ([false], 1, some [false]) := by
    decide +kernel
  obtain ⟨state, ran, shape⟩ := Option.map_eq_some_iff.mp sample
  simp only [Prod.mk.injEq] at shape
  obtain ⟨results, one, answered⟩ := shape
  obtain ⟨⟨outcome, final⟩, alone, returned⟩ :=
    Option.map_eq_some_iff.mp answered
  obtain ⟨pull, isOnly⟩ := List.length_eq_one_iff.mp one
  obtain ⟨exchanges, execution⟩ := answeredAttempt_execution alone
  have pushed :=
    (attemptsAlone_reachable sampleRemote_initial ran).step
      (.others
        (state.remote.moveBase_disturbed "pushed"
          (pullRequestBranch_ne_baseBranch id "RUN-1" "diff")))
  cases outcome with
  | raised error =>
      cases returned
  | died =>
      cases returned
  | returned result =>
      refine ⟨_, pull, exchanges, result, final, pushed, results, ?_,
        execution, ?_⟩
      · change pull ∈ state.remote.pullsOf _
        rw [isOnly]
        exact List.mem_singleton_self pull
      · rintro ⟨ok, -⟩
        simp [attemptResults, ok] at returned

end IncidentPilot
