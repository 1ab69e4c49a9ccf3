import IncidentPilot.ApprovedTree
import IncidentPilot.ExcludedPaths
import IncidentPilot.PullRequestReconcile

/-!
# The pull request carries the tested files

The approved patch is applied twice: to the whole copy of the source, where the
tests run, and to the named files alone, when the pull request is made.  Both
end with the same content at every path the patch names, because Git refuses
the second application wherever the two workspaces could differ.
-/

namespace IncidentPilot

/-- A file, link or submodule of a tree. -/
structure TreeFile where
  mode : String
  kind : String
  sha : String
  deriving Repr, DecidableEq

/-- The entry of a path, as the dictionary of the entries keeps it. -/
def RemoteTree.entryAt
    (tree : RemoteTree)
    (path : String) : Option TreeEntry :=
  tree.entries.reverse.find? fun entry => decide (entry.path = path)

/-- What a tree lists at a path, unless that is a directory. -/
def RemoteTree.fileAt
    (tree : RemoteTree)
    (path : String) : Option TreeFile :=
  match tree.entryAt path with
  | none => none
  | some entry =>
      if entry.kind = "tree" then
        none
      else
        some ⟨entry.mode, entry.kind, entry.sha⟩

/-- The items of a new tree overwrite or delete what its base has there. -/
def overwritten
    (changes : List TreeChange)
    (base : String → Option TreeFile)
    (path : String) : Option TreeFile :=
  match changes.find? fun change => decide (change.path = path) with
  | none => base path
  | some change =>
      change.sha.map fun sha => ⟨change.mode, change.kind, sha⟩

/--
How GitHub documents its object store: a listing that is not truncated lists
every file of the tree, a tree is created by overwriting items of the base tree,
and a blob holds the content it was created with.
-/
structure GithubObjects.Documented
    (objects : GithubObjects)
    (fileAt : String → String → Option TreeFile) : Prop where
  listed :
    ∀ sha tree,
      objects.tree sha = some tree →
      tree.truncated = false →
      ∀ path, fileAt sha path = tree.fileAt path
  created :
    ∀ baseTree changes sha,
      objects.treeSha baseTree changes = some sha →
      ∀ path, fileAt sha path = overwritten changes (fileAt baseTree) path
  uploaded :
    ∀ content, objects.blob (objects.blobSha content) = some content

/--
`git apply` on the paths that a patch names.  It fails when it would create a
path that exists, or change or delete one that does not; and what it leaves at
the named paths depends on what it found at them.
-/
structure GitAppliesPaths
    (tools : PatchTools)
    (creates : String → String → Bool) : Prop where
  existing :
    ∀ files diff after records,
      tools.gitApply files diff = .ok after →
      tools.numstat diff = some records →
      ∀ record ∈ records,
        (creates diff record.path = true ↔
          files.read record.path = none)
  determined :
    ∀ left right diff leftAfter rightAfter records,
      tools.gitApply left diff = .ok leftAfter →
      tools.gitApply right diff = .ok rightAfter →
      tools.numstat diff = some records →
      (∀ record ∈ records,
        left.read record.path = right.read record.path) →
      ∀ record ∈ records,
        leftAfter.read record.path = rightAfter.read record.path

/-- The content of a regular file of a tree. -/
def TreeFile.content
    (objects : GithubObjects)
    (file : TreeFile) : Option ByteArray :=
  if file.kind = "blob" ∧
      (file.mode = "100644" ∨ file.mode = "100755") then
    objects.blob file.sha
  else
    none

/-- A clean checkout has the regular files of a tree, and nothing else. -/
def Files.IsCheckout
    (objects : GithubObjects)
    (fileAt : String → Option TreeFile)
    (files : Files) : Prop :=
  ∀ path, files.read path = (fileAt path).bind (TreeFile.content objects)

/-- A file of a tree is an ordinary file with this content, or both are absent. -/
def SameContent
    (objects : GithubObjects) :
    Option TreeFile → Option ByteArray → Prop
  | none, none => True
  | some file, some content =>
      file.mode = "100644" ∧
        file.kind = "blob" ∧
        objects.blob file.sha = some content
  | _, _ => False

namespace Files

/-- What is read after a write. -/
theorem read_write
    (files : Files)
    (target path : String)
    (content : ByteArray) :
    (files.write target content).read path =
      if path = target then some content else files.read path := by
  unfold write read
  rw [List.lookup_cons]
  by_cases same : path = target
  · simp [same]
  · simp only [beq_false_of_ne same, same, if_false]
    induction files with
    | nil =>
        rfl
    | cons file rest inductionHypothesis =>
        obtain ⟨name, held⟩ := file
        rw [List.filter_cons]
        split
        · simp only [List.lookup_cons, inductionHypothesis]
        · rename_i isTarget
          have named : name = target := by simpa using isTarget
          have other : path ≠ name := by rwa [named]
          simp only [List.lookup_cons, beq_false_of_ne other,
            inductionHypothesis]

end Files

/-- The records of a patch whose paths are all accepted. -/
theorem numstatPaths_ok
    {tools : PatchTools}
    {records : List Numstat}
    {paths : List String}
    (accepted : records.mapM (numstatPath tools) = .ok paths) :
    paths = records.map Numstat.path := by
  induction records generalizing paths with
  | nil =>
      cases accepted
      rfl
  | cons record rest inductionHypothesis =>
      rw [List.mapM_cons] at accepted
      cases checked : numstatPath tools record with
      | error message =>
          rw [checked] at accepted
          cases accepted
      | ok path =>
          cases continued : rest.mapM (numstatPath tools) with
          | error message =>
              rw [checked, continued] at accepted
              cases accepted
          | ok others =>
              rw [checked, continued] at accepted
              cases accepted
              have named : path = record.path := by
                unfold numstatPath at checked
                split at checked
                · cases checked
                · cases validated : validatePatchPath tools record.path
                  · rw [validated] at checked
                    cases checked
                  · rw [validated] at checked
                    cases checked
                    rfl
              rw [named, inductionHypothesis continued, List.map_cons]

/-- A unified diff declares the paths that Git reads in it. -/
theorem patchPaths_unified
    {tools : PatchTools}
    {diff : String}
    {paths : List String}
    (unified : simpleReplace tools diff = none)
    (declared : patchPaths tools diff = .ok paths) :
    ∃ records,
      tools.numstat diff = some records ∧
        paths = (records.map Numstat.path).dedup := by
  unfold patchPaths at declared
  simp only [unified] at declared
  split at declared
  · cases declared
  · split at declared
    · cases declared
    · split at declared
      · cases declared
      · cases declared
      · rename_i records _ read
        cases accepted : records.mapM (numstatPath tools) with
        | error message =>
            rw [accepted] at declared
            cases declared
        | ok found =>
            rw [accepted] at declared
            cases declared
            exact ⟨records, read, by rw [numstatPaths_ok accepted]⟩

/-- A downloaded file is the base file of one of the paths. -/
structure Downloaded
    (objects : GithubObjects)
    (tree : RemoteTree)
    (paths : List String)
    (target : String)
    (content : ByteArray) : Prop where
  source :
    ∃ relative ∈ paths,
      target = forwardSlashes relative ∧
        ∃ entry,
          tree.entryAt relative = some entry ∧
            entry.kind = "blob" ∧
            entry.mode = "100644" ∧
            objects.blob entry.sha = some content

/-- The files that are downloaded for the paths. -/
theorem downloadBlobs_read
    {objects : GithubObjects}
    {tree : RemoteTree}
    {files before : Files}
    {paths : List String}
    (downloaded :
      (downloadBlobs tree.entries files paths).evaluate
          (objectAnswer objects) = .returned before)
    {target : String}
    {content : ByteArray}
    (held : before.read target = some content) :
    files.read target = some content ∨
      Downloaded objects tree paths target content := by
  have later
      {relative : String}
      {rest : List String}
      (found : Downloaded objects tree rest target content) :
      Downloaded objects tree (relative :: rest) target content := by
    obtain ⟨other, member, holds⟩ := found.source
    exact ⟨other, List.mem_cons_of_mem _ member, holds⟩
  induction paths generalizing files with
  | nil =>
      cases downloaded
      exact .inl held
  | cons relative rest inductionHypothesis =>
      unfold downloadBlobs at downloaded
      split at downloaded
      · exact (inductionHypothesis downloaded).imp_right later
      · rename_i entry found
        split at downloaded
        · cases downloaded
        · rename_i regular
          rw [not_or, not_not, not_not] at regular
          rw [Program.evaluate_bind] at downloaded
          cases blob : objects.blob entry.sha with
          | none =>
              simp [getBlob, Program.evaluate, objectAnswer, blob,
                Reply.ofOption, raiseForStatus] at downloaded
          | some bytes =>
              simp only [getBlob, Program.evaluate, objectAnswer, blob,
                Reply.ofOption, raiseForStatus] at downloaded
              rcases inductionHypothesis downloaded with kept | later'
              · rw [Files.read_write] at kept
                split at kept
                · rename_i same
                  cases kept
                  exact
                    .inr
                      ⟨relative, List.mem_cons_self, same, entry,
                        found, regular.1, regular.2, blob⟩
                · exact .inl kept
              · exact .inr (later later')

/-- What is uploaded for the paths. -/
theorem uploadBlobs_returned
    {objects : GithubObjects}
    {after : Files}
    {paths : List String}
    {changes : List TreeChange}
    (uploaded :
      (uploadBlobs true after paths).evaluate (objectAnswer objects) =
        .returned changes) :
    changes =
      paths.map fun relative =>
        ⟨relative, "100644", "blob",
          (after.read relative).map objects.blobSha⟩ := by
  induction paths generalizing changes with
  | nil =>
      cases uploaded
      rfl
  | cons relative rest inductionHypothesis =>
      simp only [uploadBlobs, Program.evaluate_bind] at uploaded
      have blob :
          ∀ sha,
            (uploadBlob true after relative).evaluate
                (objectAnswer objects) = .returned sha →
            sha = (after.read relative).map objects.blobSha := by
        intro sha evaluated
        unfold uploadBlob at evaluated
        split at evaluated
        · rename_i content held
          simp only [postBlob, Program.evaluate_bind,
            authorizeWrite_evaluate] at evaluated
          cases evaluated
          rw [held]
          rfl
        · rename_i absent
          split at evaluated
          · cases evaluated
          · cases evaluated
            rw [absent]
            rfl
      split at uploaded
      · rename_i sha evaluated
        split at uploaded
        · rename_i others continued
          cases uploaded
          rw [blob sha evaluated, inductionHypothesis continued,
            List.map_cons]
        · cases uploaded
        · cases uploaded
      · cases uploaded
      · cases uploaded

/-- What is known when the approved patch was submitted as a tree. -/
structure Submitted
    (tools : PatchTools)
    (objects : GithubObjects)
    (patchDiff baseTree tree : String)
    (listing : RemoteTree)
    (paths : List String)
    (before after : Files) : Prop where
  listed : objects.tree baseTree = some listing
  complete : listing.truncated = false
  declared : patchPaths tools patchDiff = .ok paths
  unified : looksLikeJson patchDiff = false
  downloaded :
    (downloadBlobs listing.entries [] paths).evaluate
        (objectAnswer objects) = .returned before
  applied : tools.gitApply before patchDiff = .ok after
  created :
    objects.treeSha baseTree
        ((paths.insertionSort (· ≤ ·)).map fun relative =>
          ⟨relative, "100644", "blob",
            (after.read relative).map objects.blobSha⟩) =
      some tree

/-- A tree that was submitted. -/
theorem approvedTree_submitted
    {tools : PatchTools}
    {objects : GithubObjects}
    {patchDiff baseTree tree : String}
    (approved :
      approvedTree tools objects patchDiff baseTree = .returned tree) :
    ∃ listing paths before after,
      Submitted tools objects patchDiff baseTree tree listing paths
        before after := by
  unfold approvedTree submitPatch at approved
  rw [Program.evaluate_bind] at approved
  cases listed : objects.tree baseTree with
  | none =>
      simp [getTree, Program.evaluate, objectAnswer, listed,
        Reply.ofOption, raiseForStatus] at approved
  | some listing =>
      simp only [getTree, Program.evaluate, objectAnswer, listed,
        Reply.ofOption, raiseForStatus] at approved
      split at approved
      · cases approved
      · rename_i complete
        split at approved
        · cases approved
        · rename_i paths declared
          split at approved
          · cases approved
          · rename_i unified
            rw [Program.evaluate_bind] at approved
            split at approved
            · rename_i before downloaded
              split at approved
              · cases approved
              · rename_i after applied
                split at approved
                · rw [Program.evaluate_bind] at approved
                  split at approved
                  · rename_i changes uploaded
                    have changed := uploadBlobs_returned uploaded
                    simp only [postTree, Program.evaluate_bind,
                      authorizeWrite_evaluate] at approved
                    cases created :
                        objects.treeSha baseTree changes with
                    | none =>
                        simp [Program.evaluate, objectAnswer, created,
                          Reply.ofOption, raiseForStatus] at approved
                    | some sha =>
                        simp only [Program.evaluate, objectAnswer,
                          created, Reply.ofOption, raiseForStatus,
                          Program.Outcome.returned.injEq] at approved
                        subst approved
                        rw [changed] at created
                        exact
                          ⟨listing, paths, before, after,
                            { listed := listed
                              complete := by simpa using complete
                              declared := declared
                              unified := by simpa using unified
                              downloaded := downloaded
                              applied := applied
                              created := created }⟩
                  · cases approved
                  · cases approved
                · cases approved
            · cases approved
            · cases approved

/-- Where a patched base file was found before the patch was applied. -/
theorem Submitted.base
    {tools : PatchTools}
    {objects : GithubObjects}
    {patchDiff baseTree tree : String}
    {listing : RemoteTree}
    {paths : List String}
    {before after : Files}
    (submitted :
      Submitted tools objects patchDiff baseTree tree listing paths
        before after)
    {target : String}
    {content : ByteArray}
    (held : before.read target = some content) :
    Downloaded objects listing paths target content :=
  (downloadBlobs_read submitted.downloaded held).resolve_left nofun

section

variable {tools : PatchTools} {objects : GithubObjects}
variable {creates : String → String → Bool}
variable {fileAt : String → String → Option TreeFile}
variable {patchDiff baseTree tree : String}
variable {listing : RemoteTree} {paths : List String}
variable {source tested before after : Files}

/-- A downloaded file is a file of the checkout. -/
theorem Downloaded.checkedOut
    (documented : objects.Documented fileAt)
    (listed : objects.tree baseTree = some listing)
    (complete : listing.truncated = false)
    (checkout : source.IsCheckout objects (fileAt baseTree))
    {target : String}
    {content : ByteArray}
    (downloaded : Downloaded objects listing paths target content) :
    ∃ relative ∈ paths,
      target = forwardSlashes relative ∧
        source.read relative = some content := by
  obtain ⟨relative, member, same, entry, found, kind, mode, blob⟩ :=
    downloaded.source
  refine ⟨relative, member, same, ?_⟩
  rw [checkout relative, documented.listed _ _ listed complete relative]
  have notTree : entry.kind ≠ "tree" := by
    rw [kind]
    decide
  simp [RemoteTree.fileAt, found, TreeFile.content, kind, mode, blob]

/--
The workspace of the tests and the workspace of the pull request hold the same
at every path the patch names.  Where the pull request has no file the patch
creates one, so the tests had none; where it has one, that is the base file.
-/
theorem Submitted.agrees
    (git : GitAppliesPaths tools creates)
    (lowers : tools.LowersParts)
    (documented : objects.Documented fileAt)
    (plain : simpleReplace tools patchDiff = none)
    (submitted :
      Submitted tools objects patchDiff baseTree tree listing paths
        before after)
    (checkout : source.IsCheckout objects (fileAt baseTree))
    (applied :
      tools.gitApply (sandboxCopy tools source) patchDiff = .ok tested) :
    ∀ path ∈ paths,
      (sandboxCopy tools source).read path = before.read path := by
  obtain ⟨records, read, declared⟩ :=
    patchPaths_unified plain submitted.declared
  have absent :
      ∀ path ∈ paths,
        ((sandboxCopy tools source).read path = none ↔
          before.read path = none) := by
    intro path member
    rw [declared, List.mem_dedup] at member
    obtain ⟨record, isRecord, rfl⟩ := List.mem_map.mp member
    rw [← git.existing _ _ _ _ applied read record isRecord,
      ← git.existing _ _ _ _ submitted.applied read record isRecord]
  intro path member
  cases held : before.read path with
  | none =>
      exact (absent path member).mpr held
  | some content =>
      obtain ⟨relative, named, same, sourced⟩ :=
        (submitted.base held).checkedOut documented submitted.listed
          submitted.complete checkout
      have present : (sandboxCopy tools source).read path ≠ none := by
        rw [Ne, absent path member, held]
        exact nofun
      have included : ¬ excludedPath tools path = true := by
        intro excluded
        rw [sandboxCopy_read, if_pos excluded] at present
        exact present rfl
      by_cases own : relative = path
      · subst own
        rw [sandboxCopy_read, if_neg included, sourced]
      · -- nothing is written below a path with backslashes
        have unwritten : before.read relative = none := by
          by_contra written
          obtain ⟨bytes, held⟩ := Option.ne_none_iff_exists'.mp written
          obtain ⟨other, -, isForward, -⟩ := (submitted.base held).source
          apply own
          rw [same, isForward, forwardSlashes_forwardSlashes]
        have unseen := (absent relative named).mpr unwritten
        rw [sandboxCopy_read] at unseen
        split at unseen
        · rename_i excluded
          rw [same] at included
          exact
            (included (excludedPath_forwardSlashes lowers excluded)).elim
        · rw [sourced] at unseen
          cases unseen

/-- What a new tree holds at a path that was submitted, and elsewhere. -/
theorem overwritten_submitted
    (base : String → Option TreeFile)
    (shaOf : String → Option String)
    (paths : List String)
    (path : String) :
    overwritten
        (paths.map fun relative =>
          ⟨relative, "100644", "blob", shaOf relative⟩)
        base path =
      if path ∈ paths then
        (shaOf path).map fun sha => ⟨"100644", "blob", sha⟩
      else
        base path := by
  induction paths with
  | nil =>
      simp [overwritten]
  | cons relative rest inductionHypothesis =>
      unfold overwritten at inductionHypothesis ⊢
      rw [List.map_cons, List.find?_cons]
      by_cases same : relative = path
      · simp [same]
      · simp only [same, decide_false, inductionHypothesis,
          List.mem_cons, Ne.symm same, false_or]

/-- The submitted tree has the tested content at the paths of the patch. -/
theorem Submitted.carries
    (git : GitAppliesPaths tools creates)
    (lowers : tools.LowersParts)
    (documented : objects.Documented fileAt)
    (plain : simpleReplace tools patchDiff = none)
    (submitted :
      Submitted tools objects patchDiff baseTree tree listing paths
        before after)
    (checkout : source.IsCheckout objects (fileAt baseTree))
    (applied :
      tools.gitApply (sandboxCopy tools source) patchDiff = .ok tested) :
    (∀ path ∈ paths,
        SameContent objects (fileAt tree path) (tested.read path)) ∧
      ∀ path, path ∉ paths → fileAt tree path = fileAt baseTree path := by
  have created := documented.created _ _ _ submitted.created
  constructor
  · intro path member
    obtain ⟨records, read, declared⟩ :=
      patchPaths_unified plain submitted.declared
    have isNamed : ∀ record ∈ records, record.path ∈ paths := by
      intro record isRecord
      rw [declared, List.mem_dedup]
      exact List.mem_map.mpr ⟨record, isRecord, rfl⟩
    have agrees :=
      submitted.agrees git lowers documented plain checkout applied
    have same : tested.read path = after.read path := by
      rw [declared, List.mem_dedup] at member
      obtain ⟨record, isRecord, rfl⟩ := List.mem_map.mp member
      exact
        git.determined _ _ _ _ _ _ applied submitted.applied read
          (fun other isOther =>
            agrees other.path (isNamed other isOther))
          record isRecord
    have submittedPath : path ∈ paths.insertionSort (· ≤ ·) :=
      (List.mem_insertionSort _).mpr member
    rw [created path, overwritten_submitted, if_pos submittedPath, same]
    cases after.read path with
    | none =>
        trivial
    | some content =>
        exact ⟨rfl, rfl, documented.uploaded content⟩
  · intro path undeclared
    have unsubmitted : path ∉ paths.insertionSort (· ≤ ·) := fun listed =>
      undeclared ((List.mem_insertionSort _).mp listed)
    rw [created path, overwritten_submitted, if_neg unsubmitted]

end

/--
Requests over the network to a repository that everybody works on: other people
do anything, except that commits are never lost.
-/
def sharedGithub
    (objects : GithubObjects) :
    Program.Surroundings Remote GithubRequest GithubAnswer where
  serves := (unreliableGithub objects baseBranch).serves
  interferes before after :=
    ∀ sha commit,
      before.commits sha = some commit →
      after.commits sha = some commit

section

variable {tools : PatchTools} {objects : GithubObjects}

/-- A commit that is stored stays stored. -/
theorem keeps_commit
    {Value : Type}
    {program : GithubProgram Value}
    {remote : Remote}
    {returns : Value → Remote → Prop}
    {sha : String}
    {commit : RemoteCommit}
    (keeps :
      Program.Keeps (sharedGithub objects) (fun _ _ => True) program
        remote returns (fun _ _ => True))
    (held : remote.commits sha = some commit) :
    Program.Keeps (sharedGithub objects) (fun _ _ => True) program remote
      (fun value after =>
        returns value after ∧ after.commits sha = some commit)
      (fun _ _ => True) :=
  (keeps.frame
    (fun _ _ held retained => retained _ _ held)
    (fun before _ _ after held _ serves =>
      have retains : before.Retains baseBranch after :=
        Remote.unreliable_retains serves
      retains.commit _ _ held)
    held).mono
    (fun _ _ => id)
    (fun _ _ => id)
    (fun _ _ _ => trivial)

/--
A result names a tree, the approved one of the base commit, and a commit on the
base commit that has the tree.
-/
def PullRequestResult.Publishes
    (tools : PatchTools)
    (objects : GithubObjects)
    (call : GithubCall)
    (result : PullRequestResult)
    (remote : Remote) : Prop :=
  ∃ baseCommit tree headSha deduplicated,
    result.details =
        .created call.baseCommitSha tree headSha deduplicated ∧
      remote.commits call.baseCommitSha = some baseCommit ∧
      remote.commits headSha = some ⟨tree, [call.baseCommitSha]⟩ ∧
      approvedTree tools objects call.patchDiff baseCommit.tree =
        .returned tree

/-- Publishing returns such a result. -/
theorem publish_publishes
    (call : GithubCall)
    (authorize : Bool)
    (branch : String)
    (existing : List Pull)
    (remote : Remote) :
    Program.Keeps (sharedGithub objects) (fun _ _ => True)
      (publish tools call authorize branch existing) remote
      (fun result after => result.Publishes tools objects call after)
      (fun _ _ => True) := by
  have reads (sha : String) (remote : Remote) :
      Program.Keeps (sharedGithub objects) (fun _ _ => True)
        (getCommit sha) remote
        (fun commit after => after.commits sha = some commit)
        (fun _ _ => True) := by
    have network :
        ∀ before request answer after,
          (sharedGithub objects).serves before request answer after →
          (unreliableGithub objects baseBranch).serves before request
            answer after :=
      fun _ _ _ _ => id
    exact
      getCommit_network network sha trivial
        remote
  unfold publish
  refine .bind ((reads call.baseCommitSha remote).mono (fun _ _ => id) ?_
    (fun _ _ => id))
  intro baseCommit read based
  have submits :
      Program.Keeps (sharedGithub objects) (fun _ _ => True)
        (submitPatch tools call.patchDiff authorize baseCommit.tree) read
        (fun tree _ =>
          approvedTree tools objects call.patchDiff baseCommit.tree =
            .returned tree)
        (fun _ _ => True) := by
    have strict :=
      submitPatch_strict tools call.patchDiff authorize baseCommit.tree
    have determined :
        ∀ before request answer after,
          AboutObjects request →
          (sharedGithub objects).serves before request answer after →
          answer = objectAnswer objects request ∨ Fault request answer :=
      fun before request answer after about serves =>
        have network :
            (unreliableGithub objects baseBranch).serves before request
              answer after :=
          serves
        unreliableGithub_objects about network
    refine (strict.keeps_returned determined read).mono
      (fun _ _ _ => trivial) ?_ (fun _ _ => id)
    intro tree final evaluated
    rwa [submitPatch_evaluate] at evaluated
  refine .bind ((keeps_commit submits based).mono (fun _ _ => id) ?_
    (fun _ _ => id))
  rintro tree submitted ⟨approved, based⟩
  refine .bind ((keeps_commit ((Program.Always.trivially _).keeps
    submitted) based).mono (fun _ _ => id) ?_ (fun _ _ => id))
  rintro remoteRef ensured ⟨-, based⟩
  refine .bind ((keeps_commit (reads remoteRef ensured) based).mono
    (fun _ _ => id) ?_ (fun _ _ => id))
  rintro remoteCommit fetched ⟨held, based⟩
  split
  · exact .raise trivial
  · rename_i same
    rw [not_or, not_not, not_not] at same
    have headed :
        fetched.commits remoteRef =
          some ⟨tree, [call.baseCommitSha]⟩ := by
      rw [held, ← same.1, ← same.2]
    refine .bind ((keeps_commit (keeps_commit
      ((Program.Always.trivially _).keeps fetched) based) headed).mono
      (fun _ _ => id) ?_ (fun _ _ => id))
    rintro found queried ⟨⟨-, based⟩, headed⟩
    refine .bind ((keeps_commit (keeps_commit
      ((Program.Always.trivially _).keeps queried) based) headed).mono
      (fun _ _ => id) ?_ (fun _ _ => id))
    rintro pull reconciled ⟨⟨-, based⟩, headed⟩
    exact
      .done
        ⟨baseCommit, tree, remoteRef, !found.isEmpty, rfl, based, headed,
          approved⟩

/-- So does an attempt in real mode, when its result is `ok`. -/
theorem acreatePullRequest_publishes
    (sha256 : String → String)
    {integration : GithubIntegration}
    (enabled : integration.enabled = true)
    (call : GithubCall)
    (authorize : Bool)
    (remote : Remote) :
    Program.Keeps (sharedGithub objects) (fun _ _ => True)
      (acreatePullRequest tools sha256 integration call authorize)
      remote
      (fun result after =>
        result.ok = true → result.Publishes tools objects call after)
      (fun _ _ => True) := by
  unfold acreatePullRequest
  simp only [enabled, if_true]
  refine .handle ?_
  unfold attemptPullRequest
  have failed
      (branch : String)
      (error : GithubError)
      (middle : Remote) :
      Program.Keeps (sharedGithub objects) (fun _ _ => True)
        (.done (failedPullRequest branch error)) middle
        (fun result after =>
          result.ok = true → result.Publishes tools objects call after)
        (fun (_ : GithubError) _ => True) :=
    .done fun ok => by cases ok
  split
  · refine .bind (((Program.Always.trivially _).keeps remote).mono
      (fun _ _ => id) ?_ fun error middle _ => failed _ error middle)
    intro existing listed _
    refine .bind (((Program.Always.trivially _).keeps listed).mono
      (fun _ _ => id) ?_ fun error middle _ => failed _ error middle)
    intro base read _
    split
    · exact
        (publish_publishes call authorize _ existing read).mono
          (fun _ _ => id)
          (fun _ _ publishes _ => publishes)
          fun error middle _ => failed _ error middle
    · exact .raise (failed _ _ read)
  · exact .raise (failed _ _ remote)

end

/--
The pull request carries the tested files: at the paths of the patch its tree
has the content of the workspace of the tests, and elsewhere the files of the
base commit.
-/
theorem pull_request_carries_tested_files
    {tools : PatchTools}
    {creates : String → String → Bool}
    {sha256 : String → String}
    {objects : GithubObjects}
    {fileAt : String → String → Option TreeFile}
    {integration : GithubIntegration}
    {call : GithubCall}
    {authorize : Bool}
    {source tested : Files}
    {before after : Remote}
    {exchanges :
      List (Program.Exchange Remote GithubRequest GithubAnswer)}
    {result : PullRequestResult}
    {baseCommit : RemoteCommit}
    (git : GitAppliesPaths tools creates)
    (lowers : tools.LowersParts)
    (documented : objects.Documented fileAt)
    (based : after.commits call.baseCommitSha = some baseCommit)
    (checkout : source.IsCheckout objects (fileAt baseCommit.tree))
    (unified : simpleReplace tools call.patchDiff = none)
    (accepted :
      applyPatch tools (sandboxCopy tools source) call.patchDiff =
        (tested, .ok ()))
    (enabled : integration.enabled = true)
    (execution :
      Program.Execution (sharedGithub objects)
        (acreatePullRequest tools sha256 integration call authorize)
        before exchanges (.returned result) after)
    (ok : result.ok = true) :
    ∃ paths tree headSha deduplicated,
      patchPaths tools call.patchDiff = .ok paths ∧
        result.details =
          .created call.baseCommitSha tree headSha deduplicated ∧
        after.commits headSha = some ⟨tree, [call.baseCommitSha]⟩ ∧
        (∀ path ∈ paths,
          SameContent objects (fileAt tree path) (tested.read path)) ∧
        ∀ path,
          path ∉ paths →
          fileAt tree path = fileAt baseCommit.tree path := by
  obtain ⟨-, publishes⟩ :=
    acreatePullRequest_publishes sha256 enabled call authorize before _ _
      _ execution
  obtain ⟨commit, tree, headSha, deduplicated, details, stored, headed,
    approved⟩ := publishes ok
  rw [based] at stored
  cases stored
  obtain ⟨listing, paths, files, patched, submitted⟩ :=
    approvedTree_submitted approved
  obtain ⟨declared, -, made, -⟩ := applyPatch_ok accepted
  have applied :
      tools.gitApply (sandboxCopy tools source) call.patchDiff =
        .ok tested := by
    unfold patchedFiles at made
    simp only [submitted.unified, Bool.false_eq_true, if_false] at made
    split at made
    · cases made
    · rename_i files applied
      cases made
      exact applied
  obtain ⟨carried, kept⟩ :=
    submitted.carries git lowers documented unified checkout applied
  exact
    ⟨paths, tree, headSha, deduplicated, submitted.declared, details,
      headed, carried, kept⟩

/-- A patch that makes `app.py` fast when it is slow. -/
def slowToFastTools : PatchTools where
  jsonLoads _ := none
  lower text := text
  upper text := text
  numstat text :=
    if text = "" then none else some [⟨some 1, some 1, "app.py"⟩]
  gitApply files _ :=
    if files.read "app.py" = some "slow".toUTF8 then
      .ok (files.write "app.py" "fast".toUTF8)
    else
      .error ⟨1, "error: patch does not apply"⟩
  jsonLoads_empty := samplePatchTools.jsonLoads_empty
  numstat_empty := rfl

/-- It behaves at the named path as Git does. -/
theorem slowToFastTools_applies :
    GitAppliesPaths slowToFastTools fun _ _ => false where
  existing files diff after records applied read record member := by
    simp only [slowToFastTools] at applied read
    split at read
    · cases read
    · cases read
      obtain rfl := List.mem_singleton.mp member
      split at applied
      · rename_i slow
        simp [slow]
      · cases applied
  determined left right diff leftAfter rightAfter records leftApplied
      rightApplied read _ record member := by
    simp only [slowToFastTools] at leftApplied rightApplied read
    split at read
    · cases read
    · cases read
      obtain rfl := List.mem_singleton.mp member
      split at leftApplied
      · split at rightApplied
        · cases leftApplied
          cases rightApplied
          simp [Files.read_write]
        · cases rightApplied
      · cases leftApplied

/-- A blob that is named by its bytes. -/
def byteName (content : ByteArray) : String :=
  String.ofList
    (content.data.toList.map fun byte => Char.ofNat byte.toNat)

/-- The bytes that a name stands for. -/
def bytesOf (sha : String) : ByteArray :=
  ⟨(sha.toList.map fun char => UInt8.ofNat char.toNat).toArray⟩

/-- The name of the bytes stands for them. -/
theorem bytesOf_byteName
    (content : ByteArray) :
    bytesOf (byteName content) = content := by
  have byte (byte : UInt8) :
      UInt8.ofNat (Char.ofNat byte.toNat).toNat = byte := by
    have small := byte.toNat_lt
    have valid : byte.toNat.isValidChar := .inl (by omega)
    rw [Char.ofNat, dif_pos valid]
    exact UInt8.ofNat_toNat
  unfold bytesOf byteName
  rw [String.toList_ofList, List.map_map]
  have same :
      (fun char : Char => UInt8.ofNat char.toNat) ∘
          (fun byte : UInt8 => Char.ofNat byte.toNat) = id :=
    funext byte
  rw [same, List.map_id]

/-- The file of the sample trees. -/
def sampleFileAt (sha path : String) : Option TreeFile :=
  if path = "app.py" then
    if sha = "tree" then
      some ⟨"100644", "blob", byteName "slow".toUTF8⟩
    else if sha = "patched" then
      some ⟨"100644", "blob", byteName "fast".toUTF8⟩
    else
      none
  else
    none

/-- The change of the sample patch. -/
def sampleChanges : List TreeChange :=
  [⟨"app.py", "100644", "blob", some (byteName "fast".toUTF8)⟩]

/-- A repository with one slow file. -/
def slowObjects : GithubObjects where
  tree sha :=
    if sha = "tree" then
      some
        ⟨false,
          [⟨"app.py", "blob", "100644", byteName "slow".toUTF8⟩]⟩
    else
      none
  blob sha := some (bytesOf sha)
  blobSha := byteName
  treeSha baseTree changes :=
    if baseTree = "tree" ∧ changes = sampleChanges then
      some "patched"
    else
      none

/-- Its object store behaves as documented. -/
theorem slowObjects_documented :
    slowObjects.Documented sampleFileAt where
  listed sha tree found complete path := by
    simp only [slowObjects] at found
    split at found
    · rename_i isTree
      cases found
      subst isTree
      by_cases named : path = "app.py"
      · subst named
        decide +kernel
      · simp [sampleFileAt, RemoteTree.fileAt, RemoteTree.entryAt, named,
          Ne.symm named]
    · cases found
  created baseTree changes sha found path := by
    simp only [slowObjects] at found
    split at found
    · rename_i expected
      obtain ⟨rfl, rfl⟩ := expected
      cases found
      by_cases named : path = "app.py"
      · subst named
        decide +kernel
      · simp [sampleFileAt, overwritten, sampleChanges, named,
          Ne.symm named]
    · cases found
  uploaded content := congrArg some (bytesOf_byteName content)

/-- A clean checkout of the repository. -/
def slowCheckout : Files :=
  [("app.py", "slow".toUTF8)]

/-- It has the regular files of the tree. -/
theorem slowCheckout_isCheckout :
    slowCheckout.IsCheckout slowObjects (sampleFileAt "tree") := by
  intro path
  by_cases named : path = "app.py"
  · subst named
    decide +kernel
  · have other : (path == "app.py") = false := beq_false_of_ne named
    simp [slowCheckout, Files.read, List.lookup_cons, other,
      sampleFileAt, named]

/-- The pull request for the fast file. -/
def fastAttempt :
    Option (Program.Outcome GithubError PullRequestResult × Remote) :=
  (acreatePullRequest slowToFastTools id sampleIntegration
    (sampleCall sampleSha) true).run (Remote.respond slowObjects)
    (sampleRemote sampleSha)

/-- The pull request for the fast file carries the fast file. -/
theorem pull_request_carries_tested_files_fast :
    ∃ (result : PullRequestResult) (after : Remote),
      result.ok = true ∧
        ∃ paths tree headSha deduplicated,
          patchPaths slowToFastTools (sampleCall sampleSha).patchDiff =
              .ok paths ∧
            result.details =
              .created sampleSha tree headSha deduplicated ∧
            after.commits headSha = some ⟨tree, [sampleSha]⟩ ∧
            (∀ path ∈ paths,
              SameContent slowObjects (sampleFileAt tree path)
                (Files.read [("app.py", "fast".toUTF8)] path)) ∧
            ∀ path,
              path ∉ paths →
              sampleFileAt tree path = sampleFileAt "tree" path := by
  have sample :
      (fastAttempt.map fun ended =>
        ((attemptResults ended.1).map PullRequestResult.ok,
          ended.2.commits sampleSha)) =
        some ([true], some ⟨"tree", []⟩) := by
    decide +kernel
  obtain ⟨⟨outcome, after⟩, ran, shape⟩ := Option.map_eq_some_iff.mp sample
  simp only [Prod.mk.injEq] at shape
  obtain ⟨results, based⟩ := shape
  cases outcome with
  | raised error =>
      cases results
  | died =>
      cases results
  | returned result =>
      have ok : result.ok = true := by
        simpa [attemptResults] using results
      have alone :
          ∃ exchanges,
            Program.Execution (sharedGithub slowObjects)
              (acreatePullRequest slowToFastTools id sampleIntegration
                (sampleCall sampleSha) true)
              (sampleRemote sampleSha) exchanges (.returned result)
              after :=
        Program.execution_of_run (fun _ _ _ => id)
          (fun _ _ _ _ responds =>
            .inl (Remote.serves_of_respond responds)) ran
      obtain ⟨exchanges, execution⟩ := alone
      have accepted :
          applyPatch slowToFastTools
              (sandboxCopy slowToFastTools slowCheckout)
              (sampleCall sampleSha).patchDiff =
            ([("app.py", "fast".toUTF8)], .ok ()) := by
        decide +kernel
      have unified :
          simpleReplace slowToFastTools (sampleCall sampleSha).patchDiff =
            none :=
        rfl
      have enabled : sampleIntegration.enabled = true := by
        decide
      have isBase :
          after.commits (sampleCall sampleSha).baseCommitSha =
            some ⟨"tree", []⟩ :=
        based
      have carried :=
        pull_request_carries_tested_files slowToFastTools_applies
          (fun _ _ => rfl) slowObjects_documented isBase
          slowCheckout_isCheckout unified accepted enabled execution ok
      exact ⟨result, after, ok, carried⟩

end IncidentPilot
