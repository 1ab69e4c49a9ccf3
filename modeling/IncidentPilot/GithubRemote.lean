import IncidentPilot.GithubIntegration
import Mathlib.Logic.Function.Basic

/-!
# GitHub, as the attempts see it

The references, commits and pull requests of the repository, how each request is
served, and what other people may do meanwhile.  Blobs and trees are immutable
and named by their content.  `createdRefs` is a history variable.
-/

namespace IncidentPilot

/-- What GitHub stores of the repository that changes. -/
structure Remote where
  refs : String → Option String
  commits : String → Option RemoteCommit
  pulls : List Pull
  createdRefs : List String

/-- The blobs and trees, and the names of new ones. -/
structure GithubObjects where
  tree : String → Option RemoteTree
  blob : String → Option ByteArray
  blobSha : ByteArray → String
  treeSha : String → List TreeChange → Option String

/-- The body of a found object, or the status of a missing one. -/
def Reply.ofOption {Body : Type} (status : Nat) :
    Option Body → Reply Body
  | none => .refused status
  | some body => .answered body

/-- A reply that carries no body. -/
def Reply.Failed {Body : Type} : Reply Body → Prop
  | .answered _ => False
  | .refused _ => True
  | .lost .. => True

namespace Remote

/-- The pull requests with a head, in every state, newest first. -/
def pullsOf (remote : Remote) (head : String) : List Pull :=
  remote.pulls.filter fun pull => decide (pull.head = head)

/-- A commit is stored under its sha. -/
def storeCommit
    (remote : Remote)
    (sha : String)
    (commit : RemoteCommit) : Remote :=
  { remote with
    commits := Function.update remote.commits sha (some commit) }

/-- A branch is created. -/
def storeRef (remote : Remote) (branch sha : String) : Remote :=
  { remote with
    refs := Function.update remote.refs branch (some sha)
    createdRefs := branch :: remote.createdRefs }

/-- A pull request is opened. -/
def storePull (remote : Remote) (pull : Pull) : Remote :=
  { remote with pulls := pull :: remote.pulls }

/-- How GitHub serves a request that reaches it, with the answer it sends. -/
def Serves
    (objects : GithubObjects)
    (before : Remote) :
    (request : GithubRequest) → GithubAnswer request → Remote → Prop
  | .authorize, answer, after => answer = .ok () ∧ after = before
  | .listPulls head, answer, after =>
      answer = .answered (before.pullsOf head) ∧ after = before
  | .getRef branch, answer, after =>
      answer = .ofOption 404 (before.refs branch) ∧ after = before
  | .getCommit sha, answer, after =>
      answer = .ofOption 404 (before.commits sha) ∧ after = before
  | .getTree sha, answer, after =>
      answer = .ofOption 404 (objects.tree sha) ∧ after = before
  | .getBlob sha, answer, after =>
      answer = .ofOption 404 (objects.blob sha) ∧ after = before
  | .createBlob content, answer, after =>
      answer = .answered (objects.blobSha content) ∧ after = before
  | .createTree baseTree changes, answer, after =>
      answer = .ofOption 422 (objects.treeSha baseTree changes) ∧
        after = before
  | .createCommit _ tree parents, answer, after =>
      ∃ sha,
        before.commits sha = none ∧
          answer = .answered sha ∧
          after = before.storeCommit sha ⟨tree, parents⟩
  | .createRef branch sha, answer, after =>
      (before.refs branch = none ∧
          answer = .answered () ∧
          after = before.storeRef branch sha) ∨
        (before.refs branch ≠ none ∧
          answer = .refused 422 ∧
          after = before)
  | .createPull _ head _ _, answer, after =>
      (∃ pull,
          pull.head = head ∧
            before.refs head = some pull.headSha ∧
            pull.isOpen = true ∧
            (∀ other ∈ before.pullsOf head, other.isOpen = false) ∧
            (∀ other ∈ before.pulls, other.number ≠ pull.number) ∧
            answer = .answered pull ∧
            after = before.storePull pull) ∨
        ((before.refs head = none ∨
            ∃ other ∈ before.pullsOf head, other.isOpen = true) ∧
          answer = .refused 422 ∧
          after = before)

end Remote

/-- An answer a fault puts in the place of the one GitHub sends. -/
def Fault : (request : GithubRequest) → GithubAnswer request → Prop
  | .authorize, .ok () => False
  | .authorize, .error _ => True
  | .listPulls _, answer => answer.Failed
  | .getRef _, answer => answer.Failed
  | .getCommit _, answer => answer.Failed
  | .getTree _, answer => answer.Failed
  | .getBlob _, answer => answer.Failed
  | .createBlob _, answer => answer.Failed
  | .createTree .., answer => answer.Failed
  | .createCommit .., answer => answer.Failed
  | .createRef .., answer => answer.Failed
  | .createPull .., answer => answer.Failed

/-- The answer of a request whose own answer is lost. -/
def lostAnswer : (request : GithubRequest) → GithubAnswer request
  | .authorize => .error "lease expired or superseded"
  | .listPulls _ => .lost true "timed out"
  | .getRef _ => .lost true "timed out"
  | .getCommit _ => .lost true "timed out"
  | .getTree _ => .lost true "timed out"
  | .getBlob _ => .lost true "timed out"
  | .createBlob _ => .lost true "timed out"
  | .createTree .. => .lost true "timed out"
  | .createCommit .. => .lost true "timed out"
  | .createRef .. => .lost true "timed out"
  | .createPull .. => .lost true "timed out"

/-- A lost answer is a fault. -/
theorem lostAnswer_fault
    (request : GithubRequest) :
    Fault request (lostAnswer request) := by
  cases request <;> trivial

/-- A pull request that has at most been closed. -/
structure Pull.ClosedFrom (earlier later : Pull) : Prop where
  number : later.number = earlier.number
  htmlUrl : later.htmlUrl = earlier.htmlUrl
  head : later.head = earlier.head
  headSha : later.headSha = earlier.headSha
  isOpen : later.isOpen = true → earlier.isOpen = true

/--
What other people do: anything, except that nobody writes or deletes one branch
or opens a pull request for it.  Commits are never lost.
-/
structure Remote.Disturbed
    (branch : String)
    (before after : Remote) : Prop where
  ownRef : after.refs branch = before.refs branch
  ownPulls :
    List.Forall₂ Pull.ClosedFrom (before.pullsOf branch)
      (after.pullsOf branch)
  commits :
    ∀ sha commit,
      before.commits sha = some commit →
      after.commits sha = some commit
  creations :
    after.createdRefs.count branch = before.createdRefs.count branch

/--
Requests over a network.  A fault may keep a request from GitHub or an answer
from the attempt: the attempt sees a status or an error, and the request may
have had its effect or not.
-/
def unreliableGithub
    (objects : GithubObjects)
    (branch : String) :
    Program.Surroundings Remote GithubRequest GithubAnswer where
  serves before request answer after :=
    before.Serves objects request answer after ∨
      (Fault request answer ∧
        (after = before ∨
          ∃ sent, before.Serves objects request sent after))
  interferes := Remote.Disturbed branch

/-- Requests that are all answered. -/
def reliableGithub
    (objects : GithubObjects)
    (branch : String) :
    Program.Surroundings Remote GithubRequest GithubAnswer where
  serves := Remote.Serves objects
  interferes := Remote.Disturbed branch

namespace Pull.ClosedFrom

/-- A pull request that is left alone. -/
theorem refl (pull : Pull) : pull.ClosedFrom pull :=
  ⟨rfl, rfl, rfl, rfl, id⟩

/-- One change and then another. -/
theorem trans
    {first second third : Pull}
    (left : first.ClosedFrom second)
    (right : second.ClosedFrom third) :
    first.ClosedFrom third where
  number := right.number.trans left.number
  htmlUrl := right.htmlUrl.trans left.htmlUrl
  head := right.head.trans left.head
  headSha := right.headSha.trans left.headSha
  isOpen open_ := left.isOpen (right.isOpen open_)

end Pull.ClosedFrom

namespace Remote

/-- Nothing happens. -/
theorem Disturbed.refl (branch : String) (remote : Remote) :
    Disturbed branch remote remote where
  ownRef := rfl
  ownPulls := List.forall₂_same.mpr fun pull _ => .refl pull
  commits _ _ := id
  creations := rfl

@[simp] theorem storeCommit_refs
    (remote : Remote)
    (sha : String)
    (commit : RemoteCommit) :
    (remote.storeCommit sha commit).refs = remote.refs :=
  rfl

@[simp] theorem storeCommit_pullsOf
    (remote : Remote)
    (sha head : String)
    (commit : RemoteCommit) :
    (remote.storeCommit sha commit).pullsOf head =
      remote.pullsOf head :=
  rfl

@[simp] theorem storeRef_pullsOf
    (remote : Remote)
    (branch sha head : String) :
    (remote.storeRef branch sha).pullsOf head = remote.pullsOf head :=
  rfl

@[simp] theorem storePull_refs
    (remote : Remote)
    (pull : Pull) :
    (remote.storePull pull).refs = remote.refs :=
  rfl

@[simp] theorem storePull_commits
    (remote : Remote)
    (pull : Pull) :
    (remote.storePull pull).commits = remote.commits :=
  rfl

@[simp] theorem storeRef_commits
    (remote : Remote)
    (branch sha : String) :
    (remote.storeRef branch sha).commits = remote.commits :=
  rfl

/-- A new pull request of a head comes first. -/
theorem storePull_pullsOf
    (remote : Remote)
    (pull : Pull) :
    (remote.storePull pull).pullsOf pull.head =
      pull :: remote.pullsOf pull.head := by
  simp [storePull, pullsOf]

/-- A stored commit keeps the others. -/
theorem storeCommit_commits
    {remote : Remote}
    {sha other : String}
    {commit stored : RemoteCommit}
    (fresh : remote.commits sha = none)
    (held : remote.commits other = some stored) :
    (remote.storeCommit sha commit).commits other = some stored := by
  have different : other ≠ sha := by
    rintro rfl
    rw [fresh] at held
    cases held
  simp [storeCommit, Function.update_of_ne different, held]

/-- A GitHub that runs: how it serves a request that reaches it. -/
def respond
    (objects : GithubObjects)
    (before : Remote) :
    (request : GithubRequest) → Option (GithubAnswer request × Remote)
  | .authorize => some (.ok (), before)
  | .listPulls head => some (.answered (before.pullsOf head), before)
  | .getRef branch => some (.ofOption 404 (before.refs branch), before)
  | .getCommit sha => some (.ofOption 404 (before.commits sha), before)
  | .getTree sha => some (.ofOption 404 (objects.tree sha), before)
  | .getBlob sha => some (.ofOption 404 (objects.blob sha), before)
  | .createBlob content =>
      some (.answered (objects.blobSha content), before)
  | .createTree baseTree changes =>
      some (.ofOption 422 (objects.treeSha baseTree changes), before)
  | .createCommit _ tree parents =>
      let sha := "commit of " ++ tree
      if before.commits sha = none then
        some (.answered sha, before.storeCommit sha ⟨tree, parents⟩)
      else
        none
  | .createRef branch sha =>
      if before.refs branch = none then
        some (.answered (), before.storeRef branch sha)
      else
        some (.refused 422, before)
  | .createPull _ head _ _ =>
      match before.refs head with
      | none => some (.refused 422, before)
      | some sha =>
          let number := before.pulls.length + 1
          let pull : Pull :=
            ⟨number, "/pull/" ++ toString number, head, sha, true⟩
          if ∃ other ∈ before.pullsOf head, other.isOpen = true then
            some (.refused 422, before)
          else if ∀ other ∈ before.pulls, other.number ≠ number then
            some (.answered pull, before.storePull pull)
          else
            none

/-- The GitHub that runs serves as GitHub does. -/
theorem serves_of_respond
    {objects : GithubObjects}
    {before after : Remote}
    {request : GithubRequest}
    {answer : GithubAnswer request}
    (responds :
      before.respond objects request = some (answer, after)) :
    before.Serves objects request answer after := by
  cases request with
  | createCommit message tree parents =>
      obtain ⟨fresh, same⟩ := Option.ite_none_right_eq_some.mp responds
      cases same
      exact ⟨_, fresh, rfl, rfl⟩
  | createRef branch sha =>
      simp only [respond] at responds
      split at responds
      · rename_i absent
        cases responds
        exact .inl ⟨absent, rfl, rfl⟩
      · rename_i present
        cases responds
        exact .inr ⟨present, rfl, rfl⟩
  | createPull title head base body =>
      simp only [respond] at responds
      split at responds
      · rename_i absent
        cases responds
        exact .inr ⟨.inl absent, rfl, rfl⟩
      · rename_i sha held
        split at responds
        · rename_i taken
          cases responds
          exact .inr ⟨.inr taken, rfl, rfl⟩
        · rename_i free
          split at responds
          · rename_i fresh
            cases responds
            refine .inl ⟨_, rfl, held, rfl, ?_, fresh, rfl, rfl⟩
            intro other member
            by_contra isOpen
            exact free ⟨other, member, Bool.not_eq_false _ ▸ isOpen⟩
          · cases responds
  | _ =>
      cases responds
      exact ⟨rfl, rfl⟩

/-- A GitHub that runs, over a network that loses some answers. -/
def respondOver
    (objects : GithubObjects)
    (loses : GithubRequest → Bool)
    (before : Remote)
    (request : GithubRequest) : Option (GithubAnswer request × Remote) :=
  match before.respond objects request with
  | none => none
  | some (answer, after) =>
      if loses request = true then
        some (lostAnswer request, after)
      else
        some (answer, after)

/-- A lost answer is a fault of the network. -/
theorem serves_of_respondOver
    {objects : GithubObjects}
    {branch : String}
    {loses : GithubRequest → Bool}
    {before after : Remote}
    {request : GithubRequest}
    {answer : GithubAnswer request}
    (responds :
      before.respondOver objects loses request = some (answer, after)) :
    (unreliableGithub objects branch).serves before request answer
      after := by
  unfold respondOver at responds
  split at responds
  · cases responds
  · rename_i sent after responded
    have serves := serves_of_respond responded
    split at responds
    · cases responds
      exact .inr ⟨lostAnswer_fault request, .inr ⟨sent, serves⟩⟩
    · cases responds
      exact .inl serves

end Remote

/-- A repository whose base branch stands at a commit with one tree. -/
def sampleRemote (baseCommitSha : String) : Remote where
  refs := Function.update (fun _ => none) baseBranch (some baseCommitSha)
  commits :=
    Function.update (fun _ => none) baseCommitSha (some ⟨"tree", []⟩)
  pulls := []
  createdRefs := []

/-- Its objects: an empty tree, and one patched tree. -/
def sampleObjects : GithubObjects where
  tree _ := some ⟨false, []⟩
  blob _ := none
  blobSha _ := "blob"
  treeSha _ _ := some "patched"

/-- Tools for which every text is a patch that creates one file. -/
def samplePatchTools : PatchTools where
  jsonLoads _ := none
  lower text := text
  upper text := text
  numstat text := if text = "" then none else some [⟨some 1, some 0, "a"⟩]
  gitApply files _ := .ok (files.write "a" "a".toUTF8)
  jsonLoads_empty := rfl
  numstat_empty := rfl

/-- An enabled integration. -/
def sampleIntegration : GithubIntegration :=
  .init "token" "owner/repo" true

/-- An approved call. -/
def sampleCall (baseCommitSha : String) : GithubCall where
  runId := "RUN-1"
  title := "title"
  body := "body"
  patchDiff := "diff"
  baseCommitSha := baseCommitSha
  idempotencyKey := "key"

/-- A commit sha. -/
def sampleSha : String := "0123456789012345678901234567890123456789"

end IncidentPilot
