import IncidentPilot.GithubRemote

/-!
# The approved tree

Applying the approved patch to the base tree asks only about blobs and trees,
which are immutable, and gives up at the first fault.  Whenever it returns, it
returns the same tree.
-/

namespace IncidentPilot

/-- Requests whose answer is a function of immutable objects. -/
def AboutObjects : GithubRequest → Prop
  | .authorize => True
  | .getTree _ => True
  | .getBlob _ => True
  | .createBlob _ => True
  | .createTree .. => True
  | _ => False

/-- Their answers. -/
def objectAnswer
    (objects : GithubObjects) :
    (request : GithubRequest) → GithubAnswer request
  | .authorize => .ok ()
  | .getTree sha => .ofOption 404 (objects.tree sha)
  | .getBlob sha => .ofOption 404 (objects.blob sha)
  | .createBlob content => .answered (objects.blobSha content)
  | .createTree baseTree changes =>
      .ofOption 422 (objects.treeSha baseTree changes)
  | .listPulls head => lostAnswer (.listPulls head)
  | .getRef branch => lostAnswer (.getRef branch)
  | .getCommit sha => lostAnswer (.getCommit sha)
  | .createCommit message tree parents =>
      lostAnswer (.createCommit message tree parents)
  | .createRef branch sha => lostAnswer (.createRef branch sha)
  | .createPull title head base body =>
      lostAnswer (.createPull title head base body)

/-- GitHub serves requests about objects with these answers only. -/
theorem Remote.serves_objects
    {objects : GithubObjects}
    {before after : Remote}
    {request : GithubRequest}
    {answer : GithubAnswer request}
    (about : AboutObjects request)
    (serves : before.Serves objects request answer after) :
    answer = objectAnswer objects request := by
  cases request with
  | authorize => exact serves.1
  | getTree sha => exact serves.1
  | getBlob sha => exact serves.1
  | createBlob content => exact serves.1
  | createTree baseTree changes => exact serves.1
  | _ => exact about.elim

/-- Over the network they are served with these answers or with a fault. -/
theorem unreliableGithub_objects
    {objects : GithubObjects}
    {branch : String}
    {before after : Remote}
    {request : GithubRequest}
    {answer : GithubAnswer request}
    (about : AboutObjects request)
    (serves :
      (unreliableGithub objects branch).serves before request answer
        after) :
    answer = objectAnswer objects request ∨ Fault request answer := by
  obtain serves | ⟨fault, -⟩ := serves
  · exact .inl (Remote.serves_objects about serves)
  · exact .inr fault

/-- Reading a reply raises when the reply is a fault. -/
theorem raiseForStatus_strict
    {Body : Type}
    {kind : GithubRequest → Prop}
    (reply : Reply Body) :
    (raiseForStatus reply).Strict kind Fault := by
  cases reply <;> trivial

/-- A reply without a body raises. -/
theorem raiseForStatus_failed
    {Body : Type}
    {reply : Reply Body}
    (failed : reply.Failed) :
    ∃ error, raiseForStatus reply = .raise error := by
  cases reply with
  | answered body =>
      exact failed.elim
  | refused status =>
      exact ⟨_, rfl⟩
  | lost transient message =>
      exact ⟨_, rfl⟩

/-- Authorizing a write raises when the authorization does. -/
theorem authorizeWrite_strict
    {kind : GithubRequest → Prop}
    (authorize : Bool)
    (authorizes : kind .authorize) :
    (authorizeWrite authorize).Strict kind Fault := by
  unfold authorizeWrite
  split
  · refine ⟨authorizes, ?_, ?_⟩
    · rintro (message | ⟨⟩) fault
      · exact ⟨_, rfl⟩
      · exact fault.elim
    · rintro (message | ⟨⟩) <;> trivial
  · trivial

/-- Downloading blobs is strict. -/
theorem downloadBlobs_strict
    (entries : List TreeEntry)
    (files : Files)
    (paths : List String) :
    (downloadBlobs entries files paths).Strict AboutObjects Fault := by
  induction paths generalizing files with
  | nil =>
      trivial
  | cons relative rest inductionHypothesis =>
      unfold downloadBlobs
      split
      · exact inductionHypothesis files
      · split
        · trivial
        · exact
            .bind
              ⟨trivial, fun _ => raiseForStatus_failed,
                raiseForStatus_strict⟩
              fun blob => inductionHypothesis _

/-- Uploading a blob is strict. -/
theorem uploadBlob_strict
    (authorize : Bool)
    (after : Files)
    (relative : String) :
    (uploadBlob authorize after relative).Strict AboutObjects Fault := by
  unfold uploadBlob
  split
  · refine .bind ?_ fun sha => ?_
    · exact
        .bind (authorizeWrite_strict authorize trivial) fun _ =>
          ⟨trivial, fun _ => raiseForStatus_failed,
            raiseForStatus_strict⟩
    · trivial
  · split <;> trivial

/-- Uploading blobs is strict. -/
theorem uploadBlobs_strict
    (authorize : Bool)
    (after : Files)
    (paths : List String) :
    (uploadBlobs authorize after paths).Strict AboutObjects Fault := by
  induction paths with
  | nil =>
      trivial
  | cons relative rest inductionHypothesis =>
      refine
        .bind (uploadBlob_strict authorize after relative) fun sha => ?_
      refine .bind inductionHypothesis fun changes => ?_
      trivial

/-- Submitting a patch is strict, and only about objects. -/
theorem submitPatch_strict
    (tools : PatchTools)
    (patchDiff : String)
    (authorize : Bool)
    (baseTree : String) :
    (submitPatch tools patchDiff authorize baseTree).Strict AboutObjects
      Fault := by
  unfold submitPatch
  refine
    .bind
      ⟨trivial, fun _ => raiseForStatus_failed, raiseForStatus_strict⟩
      fun baseFiles => ?_
  split
  · trivial
  · split
    · trivial
    · split
      · trivial
      · refine .bind (downloadBlobs_strict _ _ _) fun before => ?_
        split
        · trivial
        · split
          · refine .bind (uploadBlobs_strict _ _ _) fun changes => ?_
            exact
              .bind (authorizeWrite_strict authorize trivial) fun _ =>
                ⟨trivial, fun _ => raiseForStatus_failed,
                  raiseForStatus_strict⟩
          · trivial

/-- An authorization is granted when its answer is. -/
theorem authorizeWrite_evaluate
    (objects : GithubObjects)
    (authorize : Bool) :
    (authorizeWrite authorize).evaluate (objectAnswer objects) =
      .returned () := by
  cases authorize <;> rfl

/-- Whether writes are authorized does not matter to what is uploaded. -/
theorem uploadBlobs_evaluate
    (objects : GithubObjects)
    (authorize : Bool)
    (after : Files)
    (paths : List String) :
    (uploadBlobs authorize after paths).evaluate (objectAnswer objects) =
      (uploadBlobs true after paths).evaluate (objectAnswer objects) := by
  induction paths with
  | nil =>
      rfl
  | cons relative rest inductionHypothesis =>
      have blob :
          (uploadBlob authorize after relative).evaluate
              (objectAnswer objects) =
            (uploadBlob true after relative).evaluate
              (objectAnswer objects) := by
        unfold uploadBlob
        split
        · simp only [postBlob, Program.evaluate_bind,
            authorizeWrite_evaluate]
        · rfl
      simp only [uploadBlobs, Program.evaluate_bind, blob,
        inductionHypothesis]

/-- The tree that a patch on a base tree is submitted as. -/
def approvedTree
    (tools : PatchTools)
    (objects : GithubObjects)
    (patchDiff baseTree : String) :
    Program.Outcome GithubError String :=
  (submitPatch tools patchDiff true baseTree).evaluate
    (objectAnswer objects)

/-- Whether writes are authorized does not matter to the tree. -/
theorem submitPatch_evaluate
    (tools : PatchTools)
    (objects : GithubObjects)
    (patchDiff : String)
    (authorize : Bool)
    (baseTree : String) :
    (submitPatch tools patchDiff authorize baseTree).evaluate
        (objectAnswer objects) =
      approvedTree tools objects patchDiff baseTree := by
  unfold approvedTree submitPatch
  simp only [Program.evaluate_bind]
  split
  · rename_i baseFiles _
    split
    · rfl
    · split
      · rfl
      · split
        · rfl
        · simp only [Program.evaluate_bind]
          split
          · split
            · rfl
            · split
              · simp only [postTree, Program.evaluate_bind,
                  authorizeWrite_evaluate,
                  uploadBlobs_evaluate objects authorize]
              · rfl
          · rfl
          · rfl
  · rfl
  · rfl

end IncidentPilot
