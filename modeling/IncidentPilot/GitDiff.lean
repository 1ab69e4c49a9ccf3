import IncidentPilot.SourcePaging

/-!
# Objects shown by the readonly server

`inspect_git_diff` runs `git show` in the reference repository and returns the
first 20000 characters.  Git shows every file that a commit changes, wherever it
is in the checkout around the reference repository, and it shows whatever object
has the identifier: a blob is printed as it is.  The tool does not look at the
paths; `read_source_code` does.
-/

namespace IncidentPilot

/-- A file of a commit as `git show --patch` prints it, with some hunk. -/
structure FilePatch where
  path : String
  header : String
  hunks : String
  printed : hunks ≠ ""

/--
An object of the checkout as `git show --stat --patch` prints it.  A blob lies at
the paths that ever had this content.
-/
inductive GitObject where
  | commit (preamble : String) (files : List FilePatch)
  | tree (listing : String)
  | blob (paths : List String) (content : String)
  | tag (header : String) (object : GitObject)

/-- Content that is printed, after a header, and the files whose content it is. -/
structure ShownPart where
  paths : List String
  header : String
  content : String
  printed : content ≠ ""

/-- The hunks of a file of a commit. -/
def FilePatch.part (file : FilePatch) : ShownPart where
  paths := [file.path]
  header := file.header
  content := file.hunks
  printed := file.printed

namespace GitObject

/-- The text before any content. -/
def preamble : GitObject → String
  | commit preamble _ => preamble
  | tree listing => listing
  | blob .. => ""
  | tag header object => header ++ object.preamble

/-- The content that is printed. -/
def parts : GitObject → List ShownPart
  | commit _ files => files.map FilePatch.part
  | tree _ => []
  | blob paths content =>
      if printed : content = "" then []
      else [⟨paths, "", content, printed⟩]
  | tag _ object => object.parts

end GitObject

/-- The text of a part. -/
def ShownPart.characters (part : ShownPart) : List Char :=
  part.header.toList ++ part.content.toList

/-- The text of an object. -/
def GitObject.characters (object : GitObject) : List Char :=
  object.preamble.toList ++ object.parts.flatMap ShownPart.characters

/-- The text before the content of a part that comes after some others. -/
def GitObject.upTo
    (object : GitObject)
    (before : List ShownPart)
    (part : ShownPart) : List Char :=
  object.preamble.toList ++ before.flatMap ShownPart.characters ++
    part.header.toList

/--
Git in the directory of the reference repository: where that is in the checkout,
and what showing an object prints or fails with.
-/
structure GitCheckout where
  directory : String
  showObject : String → Except String GitObject

/-- A digit of a commit id. -/
def shaDigit (char : Char) : Bool :=
  char.isDigit ||
    (decide ('a'.toNat ≤ char.toNat) && decide (char.toNat ≤ 'f'.toNat)) ||
    (decide ('A'.toNat ≤ char.toNat) && decide (char.toNat ≤ 'F'.toNat))

/-- `HEAD`, or a full match of `[0-9a-fA-F]{7,64}`. -/
def validSha (commitSha : String) : Bool :=
  decide (commitSha = "HEAD") ||
    (decide (7 ≤ commitSha.length) && decide (commitSha.length ≤ 64) &&
      commitSha.toList.all shaDigit)

/-- The reply of `inspect_git_diff`. -/
inductive DiffReply where
  | refused (fields : List (String × Json))
  | diff (repository commitSha text : String)

/-- The dictionary of a reply. -/
def DiffReply.json : DiffReply → Json
  | .refused fields => .object fields
  | .diff repository commitSha text =>
      .object
        [("repository", .string repository),
          ("commit_sha", .string commitSha), ("diff", .string text)]

/-- `diff[:20000]`. -/
def GitObject.excerpt (object : GitObject) : String :=
  String.ofList (object.characters.take 20000)

/-- `inspect_git_diff`, before `safe_tool`. -/
def inspectGitDiff
    (repo : ReferenceRepo)
    (git : GitCheckout)
    (repository commitSha : String) : DiffReply :=
  match resolveReferenceRepo repo repository with
  | .error error =>
      .refused
        [("error", .string error), ("repository", .string repository)]
  | .ok repoPath =>
      if validSha commitSha = false then
        .refused
          [("error", .string "invalid commit sha"),
            ("commit_sha", .string commitSha)]
      else if repo.present = false then
        .refused
          [("repository", .string repoPath), ("diff", .string ""),
            ("error", .string "repo missing")]
      else
        match git.showObject commitSha with
        | .error error =>
            .refused
              [("repository", .string repoPath),
                ("commit_sha", .string commitSha),
                ("error", .string error)]
        | .ok object => .diff repoPath commitSha object.excerpt

/-- The arguments of a call of `inspect_git_diff`. -/
def diffArguments (repository commitSha : String) : Json :=
  keywordArguments
    [("repository", .string repository), ("commit_sha", .string commitSha)]

/-- `inspect_git_diff` with the limits of `safe_tool`, before redaction. -/
def inspectGitDiffTool
    (json : JsonTools)
    (repo : ReferenceRepo)
    (git : GitCheckout)
    (repository commitSha : String) : Except String DiffReply :=
  limitedTool json (diffArguments repository commitSha)
    (fun reply => json.dumps reply.json) .refused
    (.ok (inspectGitDiff repo git repository commitSha))

/-- A request that the tool does not refuse, for an object that Git shows. -/
structure DiffRequestAdmitted
    (json : JsonTools)
    (repo : ReferenceRepo)
    (repository commitSha : String)
    (object : GitObject) : Prop where
  resolves : resolveReferenceRepo repo repository = .ok repo.root
  sha : validSha commitSha = true
  present : repo.present = true
  input : toolInputLimit json (diffArguments repository commitSha) = .ok ()
  output :
    toolOutputLimit
        (json.dumps
          (DiffReply.diff repo.root commitSha object.excerpt).json) =
      .ok ()

/-- A file of the reference repository that `sensitive_path` lets be read. -/
def ReadableSource
    (tools : PatchTools)
    (git : GitCheckout)
    (path : String) : Prop :=
  ∃ name,
    path =
        (if git.directory = "" then name
          else git.directory ++ "/" ++ name) ∧
      sensitivePath tools name = false

/-- A reply returns some of the content of a part of an object. -/
def DiffReply.ReturnsContent
    (reply : DiffReply)
    (object : GitObject)
    (part : ShownPart) : Prop :=
  ∃ repository commitSha diff before after content,
    reply = .diff repository commitSha diff ∧
      object.parts = before ++ part :: after ∧
      content ≠ [] ∧
      content <+: part.content.toList ∧
      object.upTo before part ++ content <+: diff.toList

/-- The content of a part starts within the first 20000 characters. -/
def GitObject.ShowsEarly
    (object : GitObject)
    (part : ShownPart) : Prop :=
  ∃ before after,
    object.parts = before ++ part :: after ∧
      (object.upTo before part).length < 20000

/-- The tool returns the excerpt of the object of an admitted request. -/
theorem inspectGitDiffTool_eq_diff
    {json : JsonTools}
    {repo : ReferenceRepo}
    {git : GitCheckout}
    {repository commitSha root sha diff : String} :
    inspectGitDiffTool json repo git repository commitSha =
        .ok (.diff root sha diff) ↔
      ∃ object,
        git.showObject commitSha = .ok object ∧
          DiffRequestAdmitted json repo repository commitSha object ∧
          root = repo.root ∧
          sha = commitSha ∧
          diff = object.excerpt := by
  have foreign :
      ∀ fields, DiffReply.refused fields ≠ .diff root sha diff := by
    intro fields same
    cases same
  rw [inspectGitDiffTool, limitedTool_eq_ok foreign]
  constructor
  · rintro ⟨input, returned, output⟩
    replace returned := Except.ok.inj returned
    unfold inspectGitDiff at returned
    cases resolved : resolveReferenceRepo repo repository with
    | error error =>
        rw [resolved] at returned
        cases returned
    | ok found =>
        obtain rfl : found = repo.root := by
          unfold resolveReferenceRepo at resolved
          split at resolved
          · cases resolved
          · exact (Except.ok.inj resolved).symm
        rw [resolved] at returned
        dsimp only at returned
        split at returned
        · cases returned
        · rename_i valid
          split at returned
          · cases returned
          · rename_i present
            cases shown : git.showObject commitSha with
            | error error =>
                rw [shown] at returned
                cases returned
            | ok object =>
                rw [shown] at returned
                cases returned
                exact
                  ⟨object, rfl,
                    { resolves := resolved
                      sha := Bool.not_eq_false _ ▸ valid
                      present := Bool.not_eq_false _ ▸ present
                      input := input
                      output := output },
                    rfl, rfl, rfl⟩
  · rintro ⟨object, shown, admitted, rfl, rfl, rfl⟩
    have reply :
        inspectGitDiff repo git repository sha =
          .diff repo.root sha object.excerpt := by
      simp [inspectGitDiff, admitted.resolves, admitted.sha,
        admitted.present, shown]
    exact ⟨admitted.input, congrArg _ reply, admitted.output⟩

/-- An excerpt shows content of exactly the parts that start early. -/
theorem excerpt_shows_iff
    {object : GitObject}
    {part : ShownPart}
    {before after : List ShownPart}
    (split : object.parts = before ++ part :: after) :
    (∃ content,
        content ≠ [] ∧
          content <+: part.content.toList ∧
          object.upTo before part ++ content <+: object.excerpt.toList) ↔
      (object.upTo before part).length < 20000 := by
  have whole :
      object.characters =
        (object.upTo before part ++ part.content.toList) ++
          after.flatMap ShownPart.characters := by
    simp [GitObject.characters, GitObject.upTo, split,
      ShownPart.characters]
  rw [GitObject.excerpt, String.toList_ofList]
  constructor
  · rintro ⟨content, some, -, shown⟩
    have positive := List.length_pos_iff.mpr some
    have bounded := shown.length_le
    rw [List.length_append, List.length_take] at bounded
    omega
  · intro early
    have printed : part.content.toList ≠ [] := by
      simpa using part.printed
    have positive := List.length_pos_iff.mpr printed
    refine
      ⟨part.content.toList.take
          (20000 - (object.upTo before part).length), ?_,
        List.take_prefix _ _, ?_⟩
    · apply List.ne_nil_of_length_pos
      rw [List.length_take]
      omega
    · have start :
          object.upTo before part ++
              part.content.toList.take
                (20000 - (object.upTo before part).length) =
            (object.upTo before part ++ part.content.toList).take
              20000 := by
        have fits :
            (object.upTo before part).take 20000 =
              object.upTo before part :=
          List.take_of_length_le (by omega)
        rw [List.take_append, fits]
      rw [start, whole]
      exact (List.prefix_append _ _).take 20000

/--
The tool returns content of readable files only, exactly if every file whose
content starts early is readable wherever a request is not refused, whatever kind
of object the request is for.
-/
theorem shown_files_readable_iff
    (tools : PatchTools)
    (json : JsonTools)
    (repo : ReferenceRepo)
    (git : GitCheckout)
    (repository commitSha : String) :
    (∀ reply object part,
        inspectGitDiffTool json repo git repository commitSha =
          .ok reply →
        git.showObject commitSha = .ok object →
        reply.ReturnsContent object part →
        ∀ path ∈ part.paths, ReadableSource tools git path) ↔
      ∀ object part,
        git.showObject commitSha = .ok object →
        DiffRequestAdmitted json repo repository commitSha object →
        object.ShowsEarly part →
        ∀ path ∈ part.paths, ReadableSource tools git path := by
  constructor
  · rintro readable object part shown admitted
      ⟨before, after, split, early⟩
    obtain ⟨content, some, inContent, isPrefix⟩ :=
      (excerpt_shows_iff split).mpr early
    have reply :=
      inspectGitDiffTool_eq_diff.mpr
        ⟨object, shown, admitted, rfl, rfl, rfl⟩
    exact
      readable _ object part reply shown
        ⟨_, _, _, before, after, content, rfl, split, some, inContent,
          isPrefix⟩
  · rintro readable reply object part returned shown
      ⟨root, sha, diff, before, after, content, rfl, split, some,
        inContent, isPrefix⟩
    obtain ⟨other, alsoShown, admitted, -, -, rfl⟩ :=
      inspectGitDiffTool_eq_diff.mp returned
    obtain rfl : object = other :=
      Except.ok.inj (shown.symm.trans alsoShown)
    have early :=
      (excerpt_shows_iff split).mp ⟨content, some, inContent, isPrefix⟩
    exact readable object part shown admitted ⟨before, after, split, early⟩

/-- A new file of the reference repository with credentials. -/
def environmentFile : FilePatch where
  path := "reference/orders_api/.env"
  header := "diff --git .env\n"
  hunks := "@@ -0,0 +1 @@\n+A=1\n"
  printed := by decide

/-- A new file of the checkout outside the reference repository. -/
def outsideFile : FilePatch where
  path := "README.md"
  header := "diff --git README.md\n"
  hunks := "@@ -0,0 +1 @@\n+hi\n"
  printed := by decide

/-- A commit that adds both files. -/
def exposingCommit : GitObject :=
  .commit "commit 1234567\n" [environmentFile, outsideFile]

/-- The content of the first of them, by itself. -/
def environmentBlob : GitObject :=
  .blob ["reference/orders_api/.env"] "A=1\n"

/-- What is printed of that content. -/
def environmentContent : ShownPart where
  paths := ["reference/orders_api/.env"]
  header := ""
  content := "A=1\n"
  printed := by decide

/-- The checkout around the reference repository with that commit. -/
def exposingCheckout : GitCheckout where
  directory := "reference/orders_api"
  showObject commitSha :=
    .ok (if commitSha = "HEAD" then exposingCommit else environmentBlob)

/-- The tool does not refuse to show the commit. -/
theorem exposingCommit_admitted :
    DiffRequestAdmitted sampleJsonTools twoLineRepo "" "HEAD"
      exposingCommit where
  resolves := by decide
  sha := by decide
  present := rfl
  input := by decide +kernel
  output := by decide +kernel

/-- The tool does not refuse to show the blob. -/
theorem environmentBlob_admitted :
    DiffRequestAdmitted sampleJsonTools twoLineRepo "" "7898192"
      environmentBlob where
  resolves := by decide
  sha := by decide
  present := rfl
  input := by decide +kernel
  output := by decide +kernel

/-- Content of an object of that checkout is returned if it starts early. -/
theorem exposingCheckout_returns
    {commitSha : String}
    {object : GitObject}
    {part : ShownPart}
    {before after : List ShownPart}
    (shown : exposingCheckout.showObject commitSha = .ok object)
    (admitted :
      DiffRequestAdmitted sampleJsonTools twoLineRepo "" commitSha object)
    (split : object.parts = before ++ part :: after)
    (early : (object.upTo before part).length < 20000) :
    ∃ reply,
      inspectGitDiffTool sampleJsonTools twoLineRepo exposingCheckout ""
          commitSha =
        .ok reply ∧
        reply.ReturnsContent object part := by
  obtain ⟨content, some, inContent, isPrefix⟩ :=
    (excerpt_shows_iff split).mpr early
  have reply :=
    inspectGitDiffTool_eq_diff.mpr
      ⟨object, shown, admitted, rfl, rfl, rfl⟩
  exact
    ⟨_, reply, _, _, _, before, after, content, rfl, split, some,
      inContent, isPrefix⟩

/-- A file with credentials may not be read. -/
theorem environment_unreadable :
    ¬ ReadableSource asciiTools exposingCheckout
        "reference/orders_api/.env" := by
  rintro ⟨name, isPath, readable⟩
  have inRepo :
      ("reference/orders_api/" ++ ".env").toList =
        ("reference/orders_api/" ++ name).toList :=
    congrArg String.toList isPath
  rw [String.toList_append, String.toList_append] at inRepo
  have isName : ".env" = name :=
    String.toList_inj.mp (List.append_cancel_left inRepo)
  subst isName
  have sensitive : sensitivePath asciiTools ".env" = true := by
    decide +kernel
  rw [sensitive] at readable
  cases readable

/-- A file outside the reference repository may not be read. -/
theorem outside_unreadable :
    ¬ ReadableSource asciiTools exposingCheckout "README.md" := by
  rintro ⟨name, isPath, -⟩
  have inRepo :
      "README.md".toList = ("reference/orders_api/" ++ name).toList :=
    congrArg String.toList isPath
  have first := congrArg List.head? inRepo
  rw [String.toList_append, List.head?_append] at first
  have differ : ("README.md".toList.head? : Option Char) = some 'r' := first
  exact absurd differ (by decide)

/--
Content of both files is returned with their commit, and of the first one also as
it is, under the identifier of its blob; neither may be read.
-/
theorem shown_files_unreadable :
    exposingCheckout.showObject "HEAD" = .ok exposingCommit ∧
      exposingCheckout.showObject "7898192" = .ok environmentBlob ∧
      (∃ reply,
        inspectGitDiffTool sampleJsonTools twoLineRepo exposingCheckout ""
            "HEAD" =
          .ok reply ∧
          reply.ReturnsContent exposingCommit environmentFile.part) ∧
      (∃ reply,
        inspectGitDiffTool sampleJsonTools twoLineRepo exposingCheckout ""
            "HEAD" =
          .ok reply ∧
          reply.ReturnsContent exposingCommit outsideFile.part) ∧
      (∃ reply,
        inspectGitDiffTool sampleJsonTools twoLineRepo exposingCheckout ""
            "7898192" =
          .ok reply ∧
          reply.ReturnsContent environmentBlob environmentContent) ∧
      ¬ ReadableSource asciiTools exposingCheckout environmentFile.path ∧
      ¬ ReadableSource asciiTools exposingCheckout outsideFile.path := by
  have showsCommit :
      exposingCheckout.showObject "HEAD" = .ok exposingCommit := by
    simp [exposingCheckout]
  have showsBlob :
      exposingCheckout.showObject "7898192" = .ok environmentBlob := by
    simp [exposingCheckout]
  refine
    ⟨showsCommit, showsBlob, ?_, ?_, ?_, environment_unreadable,
      outside_unreadable⟩
  · have first :
        exposingCommit.parts = [] ++ [environmentFile.part, outsideFile.part] :=
      rfl
    exact
      exposingCheckout_returns showsCommit exposingCommit_admitted first
        (by decide)
  · have second :
        exposingCommit.parts = [environmentFile.part] ++ [outsideFile.part] :=
      rfl
    exact
      exposingCheckout_returns showsCommit exposingCommit_admitted second
        (by decide)
  · have only : environmentBlob.parts = [] ++ [environmentContent] := by
      simp [environmentBlob, GitObject.parts, environmentContent]
    exact
      exposingCheckout_returns showsBlob environmentBlob_admitted only
        (by decide)

end IncidentPilot
