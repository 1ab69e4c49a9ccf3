import IncidentPilot.Library.Interaction
import IncidentPilot.ApprovalResume
import IncidentPilot.SandboxPatch
import Mathlib.Data.List.Sort

/-!
# Creating a pull request

`github/integration.py`.  An attempt is a program that asks requests of GitHub,
in the order of the source.  A request without an answer, or with a status other
than success, raises; the attempt turns every error into a failed result.
-/

namespace IncidentPilot

/-- `PullRequestResult.details`. -/
inductive PullRequestDetails where
  | empty
  | dryRun (baseCommitSha : String)
  | created
      (baseSha treeSha commitSha : String)
      (deduplicated : Bool)
  | failure (retryable : Bool)
  deriving Repr, DecidableEq

/-- `PullRequestResult`. -/
structure PullRequestResult where
  ok : Bool
  mode : String
  prUrl : String := ""
  prNumber : Option Nat := none
  branch : String := ""
  error : Option String := none
  details : PullRequestDetails := .empty
  deriving Repr, DecidableEq

/-- The attributes of a `GitHubIntegration` that its calls read. -/
structure GithubIntegration where
  requestedEnabled : Bool
  enabled : Bool
  created : List PullRequestResult
  resultsByKey : List (String × PullRequestResult)
  deriving Repr, DecidableEq

namespace GithubIntegration

/-- `GitHubIntegration.__init__`. -/
def init (token repo : String) (enabled : Bool) : GithubIntegration where
  requestedEnabled := enabled
  enabled := enabled && token ≠ "" && repo ≠ ""
  created := []
  resultsByKey := []

/-- `create_pull_request` of an integration that is not enabled. -/
def createPullRequest
    (integration : GithubIntegration)
    (call : GithubCall) : PullRequestResult × GithubIntegration :=
  match integration.resultsByKey.lookup call.idempotencyKey with
  | some result => (result, integration)
  | none =>
      if integration.requestedEnabled = true then
        ({ ok := false
           mode := "real"
           error :=
             some "enabled GitHub integration requires token and repo" },
          integration)
      else
        let number := integration.created.length + 1
        let result : PullRequestResult :=
          { ok := true
            mode := "mock"
            prUrl :=
              "https://example.invalid/mock-repo/pull/" ++ toString number
            prNumber := some number
            branch := "incidentpilot/" ++ call.runId
            details := .dryRun call.baseCommitSha }
        (result,
          { integration with
            created := integration.created ++ [result]
            resultsByKey :=
              if call.idempotencyKey = "" then
                integration.resultsByKey
              else
                (call.idempotencyKey, result) ::
                  integration.resultsByKey })

end GithubIntegration

/-- The attributes of a pull request that are read. -/
structure Pull where
  number : Nat
  htmlUrl : String
  head : String
  headSha : String
  isOpen : Bool
  deriving Repr, DecidableEq

/-- A commit object. -/
structure RemoteCommit where
  tree : String
  parents : List String
  deriving Repr, DecidableEq

/-- An entry of a recursive tree listing. -/
structure TreeEntry where
  path : String
  kind : String
  mode : String
  sha : String
  deriving Repr, DecidableEq

/-- A recursive tree listing. -/
structure RemoteTree where
  truncated : Bool
  entries : List TreeEntry
  deriving Repr, DecidableEq

/-- An item of a new tree; `none` deletes its path. -/
structure TreeChange where
  path : String
  mode : String
  kind : String
  sha : Option String
  deriving Repr, DecidableEq

/-- The requests of an attempt, and the callback that authorizes its writes. -/
inductive GithubRequest where
  | authorize
  | listPulls (head : String)
  | getRef (branch : String)
  | getCommit (sha : String)
  | getTree (sha : String)
  | getBlob (sha : String)
  | createBlob (content : ByteArray)
  | createTree (baseTree : String) (changes : List TreeChange)
  | createCommit (message tree : String) (parents : List String)
  | createRef (branch sha : String)
  | createPull (title head base body : String)

/--
What comes back: the body of a success, another status, or a transport error,
which is transient when it is a timeout or a network error.
-/
inductive Reply (Body : Type) where
  | answered (body : Body)
  | refused (status : Nat)
  | lost (transient : Bool) (message : String)

/-- The answers to each request. -/
@[reducible] def GithubAnswer : GithubRequest → Type
  | .authorize => Except String Unit
  | .listPulls _ => Reply (List Pull)
  | .getRef _ => Reply String
  | .getCommit _ => Reply RemoteCommit
  | .getTree _ => Reply RemoteTree
  | .getBlob _ => Reply ByteArray
  | .createBlob _ => Reply String
  | .createTree .. => Reply String
  | .createCommit .. => Reply String
  | .createRef .. => Reply Unit
  | .createPull .. => Reply Pull

/-- The exceptions an attempt catches. -/
inductive GithubError where
  | value (message : String)
  | status (code : Nat)
  | transport (transient : Bool) (message : String)
  deriving Repr, DecidableEq

namespace GithubError

/-- Whether the caller may retry. -/
def retryable : GithubError → Bool
  | value _ => false
  | status code => decide (code = 429) || decide (500 ≤ code)
  | transport transient _ => transient

/-- The text that is persisted. -/
def text : GithubError → String
  | value message => message
  | status code => "GitHub HTTP " ++ toString code
  | transport _ message => message

end GithubError

/-- Programs that talk to GitHub. -/
abbrev GithubProgram := Program GithubRequest GithubAnswer GithubError

/-- `response.raise_for_status()` and `response.json()`. -/
def raiseForStatus {Body : Type} : Reply Body → GithubProgram Body
  | .answered body => .done body
  | .refused status => .raise (.status status)
  | .lost transient message => .raise (.transport transient message)

/-- `if authorize is not None: await authorize()`. -/
def authorizeWrite (authorize : Bool) : GithubProgram Unit :=
  if authorize = true then
    .ask .authorize fun
      | .ok () => .done ()
      | .error message => .raise (.value message)
  else
    .done ()

/-- `get("/pulls", params=params)`. -/
def getPulls (head : String) : GithubProgram (List Pull) :=
  .ask (.listPulls head) raiseForStatus

/-- `get` of a reference. -/
def getRef (branch : String) : GithubProgram String :=
  .ask (.getRef branch) raiseForStatus

/-- `get` of a commit. -/
def getCommit (sha : String) : GithubProgram RemoteCommit :=
  .ask (.getCommit sha) raiseForStatus

/-- `get` of a recursive tree. -/
def getTree (sha : String) : GithubProgram RemoteTree :=
  .ask (.getTree sha) raiseForStatus

/-- `get` of a blob. -/
def getBlob (sha : String) : GithubProgram ByteArray :=
  .ask (.getBlob sha) raiseForStatus

/-- `post` of a blob. -/
def postBlob
    (authorize : Bool)
    (content : ByteArray) : GithubProgram String := do
  authorizeWrite authorize
  .ask (.createBlob content) raiseForStatus

/-- `post` of a tree. -/
def postTree
    (authorize : Bool)
    (baseTree : String)
    (changes : List TreeChange) : GithubProgram String := do
  authorizeWrite authorize
  .ask (.createTree baseTree changes) raiseForStatus

/-- `post` of a commit. -/
def postCommit
    (authorize : Bool)
    (message tree : String)
    (parents : List String) : GithubProgram String := do
  authorizeWrite authorize
  .ask (.createCommit message tree parents) raiseForStatus

/-- The default of `base_branch`, which no caller overrides. -/
def baseBranch : String := "main"

/-- The branch of a run and a patch. -/
def pullRequestBranch
    (sha256 : String → String)
    (runId patchDiff : String) : String :=
  "incidentpilot/" ++ runId ++ "-" ++
    String.ofList ((hashPatch sha256 patchDiff).toList.take 12)

/-- A full lower case commit sha. -/
def isCommitSha (sha : String) : Bool :=
  decide (sha.length = 40) &&
    sha.toList.all fun char => "0123456789abcdef".toList.contains char

/-- The declared paths that the base tree has are downloaded, in turn. -/
def downloadBlobs
    (entries : List TreeEntry) :
    Files → List String → GithubProgram Files
  | files, [] => .done files
  | files, relative :: rest =>
      match
        entries.reverse.find? fun entry =>
          decide (entry.path = relative) with
      | none => downloadBlobs entries files rest
      | some entry =>
          if entry.kind ≠ "blob" ∨ entry.mode ≠ "100644" then
            .raise (.value "unsupported base file type or mode")
          else do
            let blob ← getBlob entry.sha
            downloadBlobs entries
              (files.write (forwardSlashes relative) blob) rest

/-- A path is a directory when a file lies under it. -/
def Files.isDirectory (files : Files) (path : String) : Bool :=
  files.any fun file => startsWith file.1 (path ++ "/")

/-- The new content of a path is uploaded, unless the path was deleted. -/
def uploadBlob
    (authorize : Bool)
    (after : Files)
    (relative : String) : GithubProgram (Option String) :=
  match after.read relative with
  | some content => do
      let sha ← postBlob authorize content
      .done (some sha)
  | none =>
      if after.isDirectory relative = true then
        .raise (.value ("Is a directory: " ++ relative))
      else
        .done none

/-- The changes of the paths, in turn. -/
def uploadBlobs
    (authorize : Bool)
    (after : Files) :
    List String → GithubProgram (List TreeChange)
  | [] => .done []
  | relative :: rest => do
      let sha ← uploadBlob authorize after relative
      let changes ← uploadBlobs authorize after rest
      .done (⟨relative, "100644", "blob", sha⟩ :: changes)

/-- The approved patch is applied to a base tree and submitted as a tree. -/
def submitPatch
    (tools : PatchTools)
    (patchDiff : String)
    (authorize : Bool)
    (baseTree : String) : GithubProgram String := do
  let baseFiles ← getTree baseTree
  if baseFiles.truncated = true then
    .raise (.value "base tree is truncated")
  else
    match patchPaths tools patchDiff with
    | .error message => .raise (.value message)
    | .ok paths =>
        if looksLikeJson patchDiff = true then
          .raise (.value "real GitHub requires a unified diff")
        else do
          let before ← downloadBlobs baseFiles.entries [] paths
          match tools.gitApply before patchDiff with
          | .error failure =>
              .raise
                (.value
                  ("approved patch does not apply: " ++
                    String.ofList (failure.stderr.toList.take 300)))
          | .ok after =>
              if ChangesExactly paths before after then do
                let changes ←
                  uploadBlobs authorize after
                    (paths.insertionSort (· ≤ ·))
                postTree authorize baseTree changes
              else
                .raise
                  (.value "final change paths differ from approval")

/-- The branch is created, unless it is there already. -/
def ensureBranch
    (call : GithubCall)
    (authorize : Bool)
    (branch tree : String) : GithubProgram String :=
  .ask (.getRef branch) fun reply =>
    match reply with
    | .refused status =>
        if status = 404 then do
          let commit ←
            postCommit authorize call.title tree [call.baseCommitSha]
          authorizeWrite authorize
          .ask (.createRef branch commit) fun created =>
            match created with
            | .answered () => getRef branch
            | .refused status =>
                if status = 422 then
                  getRef branch
                else
                  .raise (.status status)
            | .lost transient message =>
                .raise (.transport transient message)
        else
          .raise (.status status)
    | .answered sha => .done sha
    | .lost transient message => .raise (.transport transient message)

/-- The pull request is opened, or found when GitHub has one already. -/
def openPull
    (call : GithubCall)
    (authorize : Bool)
    (branch remoteRef : String) : GithubProgram Pull := do
  authorizeWrite authorize
  .ask (.createPull call.title branch baseBranch call.body) fun reply =>
    match reply with
    | .answered pull => .done pull
    | .refused status =>
        if status = 422 then do
          let found ← getPulls branch
          match found with
          | pull :: _ =>
              if pull.headSha = remoteRef then
                .done pull
              else
                .raise (.value "PR conflict could not be reconciled")
          | [] => .raise (.value "PR conflict could not be reconciled")
        else
          .raise (.status status)
    | .lost transient message => .raise (.transport transient message)

/-- The pull request of the branch: one that exists, or a new one. -/
def reconcilePull
    (call : GithubCall)
    (authorize : Bool)
    (branch remoteRef : String)
    (existing : List Pull) : GithubProgram Pull :=
  match existing with
  | pull :: _ =>
      if pull.headSha = remoteRef then
        .done pull
      else
        .raise (.value "existing PR head differs from approved artifact")
  | [] => openPull call authorize branch remoteRef

/-- The listing is repeated when it was empty: another recovery may be done. -/
def requeryPulls
    (branch : String)
    (existing : List Pull) : GithubProgram (List Pull) :=
  match existing with
  | [] => getPulls branch
  | pull :: rest => .done (pull :: rest)

/-- What is done once the base branch has been found unchanged. -/
def publish
    (tools : PatchTools)
    (call : GithubCall)
    (authorize : Bool)
    (branch : String)
    (existing : List Pull) : GithubProgram PullRequestResult := do
  let baseCommit ← getCommit call.baseCommitSha
  let tree ← submitPatch tools call.patchDiff authorize baseCommit.tree
  let remoteRef ← ensureBranch call authorize branch tree
  let remoteCommit ← getCommit remoteRef
  if remoteCommit.tree ≠ tree ∨
      remoteCommit.parents ≠ [call.baseCommitSha] then
    .raise (.value "remote branch differs from approved artifact")
  else do
    let existing ← requeryPulls branch existing
    let pull ← reconcilePull call authorize branch remoteRef existing
    .done
      { ok := true
        mode := "real"
        prUrl := pull.htmlUrl
        prNumber := some pull.number
        branch := branch
        details :=
          .created call.baseCommitSha tree remoteRef (!existing.isEmpty) }

/-- The body of the `try` statement of `acreate_pull_request`. -/
def attemptPullRequest
    (tools : PatchTools)
    (call : GithubCall)
    (authorize : Bool)
    (branch : String) : GithubProgram PullRequestResult :=
  if isCommitSha call.baseCommitSha = true then do
    let existing ← getPulls branch
    let base ← getRef baseBranch
    if base = call.baseCommitSha then
      publish tools call authorize branch existing
    else
      .raise
        (.value "approved base commit is stale; revalidation required")
  else
    .raise
      (.value "approved artifact has no immutable git base commit")

/-- The result of an attempt that raised. -/
def failedPullRequest
    (branch : String)
    (error : GithubError) : PullRequestResult where
  ok := false
  mode := "real"
  branch := branch
  error := some error.text
  details := .failure error.retryable

/-- `acreate_pull_request`. -/
def acreatePullRequest
    (tools : PatchTools)
    (sha256 : String → String)
    (integration : GithubIntegration)
    (call : GithubCall)
    (authorize : Bool) : GithubProgram PullRequestResult :=
  let branch := pullRequestBranch sha256 call.runId call.patchDiff
  if integration.enabled = true then
    (attemptPullRequest tools call authorize branch).handle fun error =>
      .done (failedPullRequest branch error)
  else
    .done (integration.createPullRequest call).1

end IncidentPilot
